import FromClause.Relation.Expression
import FromClause.Report.Column
import FromClause.Report.Value
/-!
# The report of a source

A source as it is shown: its atoms, the variables of its column references and the relations behind its
column names.
-/

namespace FromClause

namespace Expression

open Report

/-- The atoms as they are printed. -/
def atomTexts (e : Expression) : List String := Formula.texts e.atoms

/-- The report for other programs. -/
def report (e : Expression) : Value :=
  .record [
    ("atoms", .list (e.atomTexts.map .string)),
    ("attributes", .list (e.dictionary.entries.map fun entry =>
      .record [
        ("relation", .ofOption (entry.1.relation.map RelationId.text)),
        ("column", .string entry.1.column.text),
        ("variable", .string entry.2.name)])),
    ("scope", .list (e.scope.entries.map fun entry =>
      .record [
        ("column", .string entry.1.text),
        ("relations", .list (entry.2.toList.map fun relation => .string relation.text))]))]

/-- The report for people. Dictionary and scope share the width of their first columns. -/
def listing (e : Expression) : String :=
  let attributes := e.dictionary.entries.map fun entry => (entry.1.text, entry.2.name)
  let scope := e.scope.entries.map fun entry =>
    (entry.1.text, ", ".intercalate (entry.2.toList.map RelationId.text))
  let width := width 0 ((attributes ++ scope).map Prod.fst)
  let row (cells : String × String) : String := "  " ++ padded width cells.1 ++ "  " ++ cells.2
  lines (["Atoms:"] ++ e.atomTexts.map ("  " ++ ·) ++ ["Attributes:"] ++ attributes.map row ++
    ["Scope:"] ++ scope.map row)

end Expression

end FromClause
