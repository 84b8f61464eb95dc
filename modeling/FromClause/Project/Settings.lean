import FromClause.Folding
import FromClause.Project.Files
import FromClause.Sql.Dialect
import FromClause.Yaml.Record
/-!
# Project settings

A project file gives the project a name and says which dialect its statements are in, how names are folded and
where the catalog is.
-/

namespace FromClause

namespace Folding

/-- The name of the folding, as a project file gives it. -/
def name : Folding → String
  | upper => "upper"
  | lower => "lower"
  | preserve => "preserve"

/-- The folding with the given name. -/
def ofName? : String → Option Folding
  | "upper" => some upper
  | "lower" => some lower
  | "preserve" => some preserve
  | _ => none

end Folding

/-- The settings of a project. -/
structure Settings where
  /-- The name of the project. -/
  name : String
  /-- The dialect of its statements. -/
  dialect : Sql.Dialect
  /-- How names are normalised. -/
  folding : Folding
  /-- Where the parts of the catalog are, from the directory of the project. -/
  catalogPaths : List String
  deriving DecidableEq, Repr

/-- What is wrong with settings that can be read. -/
inductive SettingsFault where
  /-- The name is empty. -/
  | noName
  /-- There is no part of a catalog. -/
  | noCatalog
  deriving DecidableEq, Repr

/-- The wording of the fault. -/
def SettingsFault.message : SettingsFault → String
  | noName => "Project name cannot be empty"
  | noCatalog => "At least one catalog_paths entry must be specified"

namespace Settings

open Yaml (Node)

/-- The folding that the record under `identifiers` gives. -/
def folding? (node : Node) : Option Folding := do
  let fields ← node.fields? ["case_folding"]
  Node.field? fields "case_folding" (fun value => value.text? >>= Folding.ofName?) (some .upper)

/-- The settings that a document gives. -/
def ofNode? (node : Node) : Option Settings := do
  let fields ← node.fields? ["name", "dialect", "identifiers", "catalog_paths"]
  let name ← Node.field? fields "name" Node.text? none
  let dialect ← Node.field? fields "dialect" (fun value => value.text? >>= Sql.Dialect.ofName?)
    (some .duckdb)
  let folding ← Node.field? fields "identifiers" folding? (some .upper)
  let catalogPaths ← Node.field? fields "catalog_paths"
    (fun value => value.items? >>= List.mapM Node.text?) (some ["catalog.yml"])
  return ⟨name, dialect, folding, catalogPaths⟩

/-- The settings that a text gives. -/
def ofText? (text : String) : Option Settings := do
  match ← Yaml.document? text with
  | none => none
  | some node => ofNode? node

/-- The first fault of some settings. -/
def fault? (s : Settings) : Option SettingsFault :=
  if s.name.isEmpty then some .noName
  else if s.catalogPaths.isEmpty then some .noCatalog
  else none

/-- The paths of the parts of the catalog. -/
def catalogFiles (s : Settings) (root : String) : List String :=
  s.catalogPaths.map (Path.join root)

end Settings

end FromClause
