import FromClause.Catalog.Basic
import FromClause.Yaml.Record
/-!
# Catalog documents

A catalog is written down as a YAML document: under `relations`, a list of relations with an optional schema, a
name and a list of columns. A column is given by its name alone, or by a record that may add the type and
whether values may be missing. The whole document is read before anything is added to a catalog.
-/

namespace FromClause

open Yaml (Node Scalar)

/-! ## Columns -/

/-- The keys of the record of a column. -/
inductive ColumnKey where
  /-- The name. -/
  | name
  /-- The type. -/
  | type
  /-- Whether values may be missing. -/
  | nullable
  deriving DecidableEq, Repr

namespace ColumnKey

/-- The key with the given name. -/
def ofName? : String → Option ColumnKey
  | "name" => some name
  | "type" => some type
  | "nullable" => some nullable
  | _ => none

/-- The key with the given number. -/
def ofNumber? (n : Int) : Option ColumnKey :=
  if n = 0 then some name else if n = 1 then some type else if n = 2 then some nullable else none

/-- The key that a node is: by its name or its number. Other strings and numbers are keys that count for
nothing; no other node is a key. -/
def ofNode? : Node → Option (Option ColumnKey)
  | .scalar s =>
    match s.meaning with
    | .string text => some (ofName? text)
    | .integer n => if 0 ≤ n then some (ofNumber? n) else none
    | _ => none
  | _ => none

end ColumnKey

namespace ColumnDeclaration

/-- A string. Unlike elsewhere in a catalog, a plain scalar with another meaning is none. -/
def string? : Node → Option String
  | .scalar s =>
    match s.meaning with
    | .string text => some text
    | _ => none
  | _ => none

/-- The type of a column: a string or a missing value. -/
def type? : Node → Option (Option String)
  | .scalar s =>
    match s.meaning with
    | .string text => some (some text)
    | .null => some none
    | _ => none
  | _ => none

/-- A truth value. -/
def boolean? : Node → Option Bool
  | .scalar s =>
    match s.meaning with
    | .boolean value => some value
    | _ => none
  | _ => none

/-- The fields of the record of a column. Other fields are ignored; none of these occurs twice. -/
def fields? (entries : List (Node × Node)) : Option (List (ColumnKey × Node)) := do
  let fields ← entries.mapM fun e => do return (← ColumnKey.ofNode? e.1).map (·, e.2)
  let fields := fields.filterMap id
  guard (decide (fields.map Prod.fst).Nodup)
  return fields

/-- The column that the entries of a record declare. -/
def ofEntries? (entries : List (Node × Node)) : Option ColumnDeclaration := do
  let fields ← fields? entries
  let name ← string? (← fields.lookup .name)
  let type ← match fields.lookup .type with
    | some node => type? node
    | none => some none
  let nullable ← match fields.lookup .nullable with
    | some node => boolean? node
    | none => some true
  return ⟨name, type, nullable⟩

/-- The column that a node declares. Nowhere in it may a number be oversized. -/
def ofNode? (node : Node) : Option ColumnDeclaration :=
  if node.all fun s => s.meaning ≠ .oversized then
    match node with
    | .mapping entries => ofEntries? entries
    | node => (string? node).map (⟨·, none, true⟩)
  else none

end ColumnDeclaration

/-! ## Relations -/

namespace Declaration

/-- The relation that a node declares. -/
def ofNode? (node : Node) : Option Declaration := do
  let fields ← node.fields? ["schema", "name", "columns"]
  let schema ← Node.field? fields "schema" Node.optionalText? (some none)
  let name ← Node.field? fields "name" Node.text? none
  let columns ← Node.field? fields "columns" Node.items? (some [])
  return ⟨schema, name, ← columns.mapM ColumnDeclaration.ofNode?⟩

/-- The relations that a document declares. -/
def listOfNode? (node : Node) : Option (List Declaration) := do
  let fields ← node.fields? ["relations"]
  (← Node.field? fields "relations" Node.items? (some [])).mapM ofNode?

/-- The relations that a text declares: none if it is empty, and nothing if it is malformed. -/
def listOfText? (text : String) : Option (List Declaration) := do
  match ← Yaml.document? text with
  | none => return []
  | some node => listOfNode? node

end Declaration

/-- The catalog with the relations that a text declares; nothing if the text is malformed. -/
def Catalog.load? (c : Catalog) (text : String) : Option Catalog.Loaded :=
  (Declaration.listOfText? text).map c.declare

end FromClause
