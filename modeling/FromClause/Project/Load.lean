import FromClause.Catalog.Document
import FromClause.Project.Settings
/-!
# Loading a project

The settings of a project, then its catalog part by part. How a path is read is left open, so that a project may
lie in memory as well as on a disk.
-/

namespace FromClause

/-- Why a project cannot be loaded. -/
inductive ProjectError where
  /-- There is no project file. -/
  | noSettings (path : String)
  /-- The settings are at fault. -/
  | settings (fault : SettingsFault)
  /-- A part of the catalog is missing. -/
  | noCatalog (path : String)
  /-- A relation is refused. -/
  | catalog (error : CatalogError)
  /-- A file cannot be read. -/
  | unreadable (path : String) (failure : ReadFailure)
  /-- A file is no document of the shape that is wanted. -/
  | malformed
  deriving DecidableEq

namespace ProjectError

/-- What a malformed document is. -/
def malformedText : String := "malformed document"

/-- The wording of the error. -/
def message : ProjectError → String
  | noSettings path => s!"[E001] Config file not found: {path}"
  | settings fault => "[E002] Invalid config: " ++ fault.message
  | noCatalog path => s!"[E003] Catalog file not found: {path}"
  | catalog error => error.message
  | unreadable path failure => s!"[E007] Failed to read '{path}': " ++ failure.message
  | malformed => "[E008] YAML parse error: " ++ malformedText

/-- The wording of what lies behind the error. -/
def cause? : ProjectError → Option String
  | unreadable _ failure => some failure.message
  | malformed => some malformedText
  | _ => none

end ProjectError

/-- A step of the loading, which has told some events by the time that it ends. -/
abbrev Loading (m : Type → Type) (α : Type) := ExceptT ProjectError (StateT (List Event) m) α

namespace Loading

variable {m : Type → Type} [Monad m]

/-- What a file says; `missing` is the error if there is none at the path. -/
def content (path : String) (missing : ProjectError) : Reading → Except ProjectError String
  | .ok text => .ok text
  | .error .missing => .error missing
  | .error failure => .error (.unreadable path failure)

/-- The settings in a text. -/
def settingsOf (text : String) : Except ProjectError Settings :=
  match Settings.ofText? text with
  | none => .error .malformed
  | some s =>
    match s.fault? with
    | some fault => .error (.settings fault)
    | none => .ok s

/-- The settings in a file; `missing` is the error if there is none at the path. -/
def settingsAt (read : String → m Reading) (path : String) (missing : ProjectError) :
    Loading m Settings := do
  let found : Reading ← read path
  settingsOf (← content path missing found)

/-- The settings in a file. -/
def settings (read : String → m Reading) (path : String) : Loading m Settings :=
  settingsAt read path (.noSettings path)

/-- The settings in a directory. They are in one of two files; the first one counts if both are there. -/
def settingsIn (read : String → m Reading) (directory : String) : Loading m Settings := do
  let first := Path.join directory "obda.yml"
  let second := Path.join directory "obda.yaml"
  let found : Reading ← read first
  match found with
  | .error .missing => settingsAt read second (.noSettings first)
  | found => settingsOf (← content first (.noSettings first) found)

/-- The catalog with the relations of one more text. -/
def extend (c : Catalog) (text : String) : Loading m Catalog := do
  match c.load? text with
  | none => throw .malformed
  | some loaded =>
    modify (· ++ loaded.events)
    match loaded.failure with
    | some error => throw (.catalog error)
    | none => return loaded.catalog

/-- The catalog of a project. -/
def catalog (read : String → m Reading) (s : Settings) (root : String) : Loading m Catalog := do
  let add (c : Catalog) (path : String) : Loading m Catalog := do
    let found : Reading ← read path
    extend c (← content path (.noCatalog path) found)
  let c ← (s.catalogFiles root).foldlM add (Catalog.empty s.folding)
  modify (· ++ [.catalogRead c.size s.catalogPaths.length])
  return c

end Loading

end FromClause
