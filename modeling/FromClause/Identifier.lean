/-!
# Identifiers

Normalised names of columns, tables and schemas, and the ids of relations made of them. A name has its case
and its quotes settled before it gets here, so identifiers are equal when their texts are, and they are
ordered by code points. An unqualified relation id stands before every qualified one.
-/

namespace FromClause

open Std

/-- A normalised name of a column, a table or a schema: any text but the empty one. -/
structure Identifier where
  /-- The name itself. -/
  text : String
  /-- No name is empty. -/
  text_ne : text ≠ ""
  deriving DecidableEq

namespace Identifier

/-- The identifier with the given text, if the text is not empty. -/
def ofText? (text : String) : Option Identifier :=
  if h : text ≠ "" then some ⟨text, h⟩ else none

instance : Ord Identifier := ⟨compareOn Identifier.text⟩

instance : TransOrd Identifier := inferInstanceAs (TransCmp (compareOn Identifier.text))

instance : LawfulEqOrd Identifier where
  eq_of_compare {a b} h := by
    have ht : a.text = b.text := LawfulEqOrd.eq_of_compare h
    cases a
    cases b
    cases ht
    rfl

instance : ToString Identifier := ⟨text⟩

end Identifier

/-- The id of a relation: its table name, and the schema that qualifies it if there is one. -/
structure RelationId where
  /-- The qualifying schema. -/
  schema : Option Identifier
  /-- The table name. -/
  table : Identifier
  deriving DecidableEq

namespace RelationId

/-- The id without a schema. -/
def bare (table : Identifier) : RelationId := ⟨none, table⟩

/-- Whether the id carries a schema. -/
def hasSchema (id : RelationId) : Bool := id.schema.isSome

/-- The id with its schema, if it has one, before a point. -/
def text (id : RelationId) : String :=
  match id.schema with
  | some schema => schema.text ++ "." ++ id.table.text
  | none => id.table.text

instance : Ord RelationId := ⟨compareLex (compareOn schema) (compareOn table)⟩

instance : TransOrd RelationId :=
  inferInstanceAs (TransCmp (compareLex (compareOn schema) (compareOn table)))

instance : LawfulEqOrd RelationId where
  eq_of_compare {a b} h := by
    obtain ⟨hs, ht⟩ := compareLex_eq_eq.1 h
    have hs : a.schema = b.schema := LawfulEqOrd.eq_of_compare hs
    have ht : a.table = b.table := LawfulEqOrd.eq_of_compare ht
    cases a
    cases b
    cases hs
    cases ht
    rfl

instance : ToString RelationId := ⟨text⟩

end RelationId

end FromClause
