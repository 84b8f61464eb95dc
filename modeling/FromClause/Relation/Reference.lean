import FromClause.Identifier
/-!
# Column references

A column name, and the relation that qualifies it if there is one. References without a relation stand before
all others.
-/

namespace FromClause

open Std

/-- A reference to a column. -/
structure Reference where
  /-- The qualifying relation. -/
  relation : Option RelationId
  /-- The column name. -/
  column : Identifier
  deriving DecidableEq

namespace Reference

/-- The reference to a column of a relation. -/
def qualified (relation : RelationId) (column : Identifier) : Reference := ⟨some relation, column⟩

/-- The reference to a column by its name alone. -/
def bare (column : Identifier) : Reference := ⟨none, column⟩

/-- Whether the reference names a relation. -/
def isQualified (r : Reference) : Bool := r.relation.isSome

/-- The column behind its relation and a point. -/
def text (r : Reference) : String :=
  match r.relation with
  | some relation => relation.text ++ "." ++ r.column.text
  | none => r.column.text

instance : Ord Reference := ⟨compareLex (compareOn relation) (compareOn column)⟩

instance : TransOrd Reference :=
  inferInstanceAs (TransCmp (compareLex (compareOn relation) (compareOn column)))

instance : LawfulEqOrd Reference where
  eq_of_compare {a b} h := by
    obtain ⟨hr, hc⟩ := compareLex_eq_eq.1 h
    have hr : a.relation = b.relation := LawfulEqOrd.eq_of_compare hr
    have hc : a.column = b.column := LawfulEqOrd.eq_of_compare hc
    cases a
    cases b
    cases hr
    cases hc
    rfl

instance : ToString Reference := ⟨text⟩

end Reference

end FromClause
