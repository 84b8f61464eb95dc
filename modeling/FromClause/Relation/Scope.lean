import FromClause.Data.SortedMap
import FromClause.Identifier
/-!
# Scopes

Which relations expose each column name. A name is ambiguous when more than one does.
-/

namespace FromClause

/-- The relations that expose each column name. -/
abbrev Scope := SortedMap Identifier (SortedSet RelationId)

namespace Scope

/-- Exactly one relation exposes the name. -/
def isUnique (s : Scope) (column : Identifier) : Bool :=
  (s.get? column).any fun relations => relations.size == 1

/-- More than one relation exposes the name. -/
def isAmbiguous (s : Scope) (column : Identifier) : Bool :=
  (s.get? column).any fun relations => 1 < relations.size

/-- The only relation that exposes the name. -/
def unique? (s : Scope) (column : Identifier) : Option RelationId :=
  match (s.get? column).map SortedSet.toList with
  | some [relation] => some relation
  | _ => none

/-- The column names in order. -/
def names (s : Scope) : List Identifier := s.keys

/-- The names that both scopes have, in order. -/
def common (s t : Scope) : List Identifier := s.names.filter t.contains

/-- The scope with some relations added to a name. -/
def expose (s : Scope) (column : Identifier) (relations : SortedSet RelationId) : Scope :=
  s.insert column (((s.get? column).getD ∅).union relations)

/-- The scope in which a name is exposed by the relations of either scope. -/
def union (s t : Scope) : Scope := t.entries.foldl (fun s e => s.expose e.1 e.2) s

/-- The scope as it is printed. -/
def text (s : Scope) : String :=
  let entry (e : Identifier × SortedSet RelationId) : String :=
    e.1.text ++ ": [" ++ ", ".intercalate (e.2.toList.map RelationId.text) ++ "]"
  "\x7b" ++ ", ".intercalate (s.entries.map entry) ++ "\x7d"

end Scope

end FromClause
