import FromClause.Data.SortedMap
import FromClause.Logic.Term
import FromClause.Relation.Reference
/-!
# Dictionaries

The variables that column references denote. A bare name that several relations share is absent, so one
look-up answers both "not in scope" and "ambiguous" with nothing.
-/

namespace FromClause

/-- The variables of the column references that can be resolved. -/
abbrev Dictionary := SortedMap Reference Variable

namespace Dictionary

/-- The entries whose reference names a relation. -/
def qualified (d : Dictionary) : Dictionary := d.filterKeys Reference.isQualified

/-- The entries whose reference is a bare name. -/
def unqualified (d : Dictionary) : Dictionary := d.filterKeys fun r => !r.isQualified

/-- The variable of a bare name. -/
def bare? (d : Dictionary) (column : Identifier) : Option Variable := d.get? (.bare column)

/-- The relations that qualify some reference. -/
def relations (d : Dictionary) : SortedSet RelationId :=
  .ofList (d.keys.filterMap Reference.relation)

/-- The dictionary as it is printed. -/
def text (d : Dictionary) : String :=
  "\x7b" ++ ", ".intercalate (d.entries.map fun e => e.1.text ++ ": " ++ e.2.name) ++ "\x7d"

end Dictionary

end FromClause
