import FromClause.Relation.Join
/-!
# Conditions given as atoms

A join condition may be written down as atoms whose arguments are terms or column references. Over a source
it denotes the same atoms with every reference resolved.
-/

namespace FromClause

/-- An argument of a condition. -/
inductive Operand where
  /-- A term that stands for itself. -/
  | term (t : Term)
  /-- A column that is looked up in the source. -/
  | column (reference : Reference)

/-- The term that an operand denotes over a source. -/
def Operand.resolve (source : Expression) : Operand → Except JoinError Term
  | term t => .ok t
  | column reference => (source.resolve reference).map Term.var

instance : JoinCondition (List (Formula Operand)) :=
  ⟨fun formulas source => formulas.mapM (Formula.mapArgs (Operand.resolve source))⟩

end FromClause
