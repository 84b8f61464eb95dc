import FromClause.Catalog.Basic
import FromClause.Report.Column
import FromClause.Report.Value
/-!
# The report of a catalog

The relations of a catalog in the order of their ids, each with its columns.
-/

namespace FromClause

open Report

/-- The report on a column for other programs. -/
def Column.report (c : Column) : Value :=
  .record [("name", .string c.name.text), ("type", .ofOption c.type), ("nullable", .boolean c.nullable)]

/-- The report on a relation for other programs. -/
def Definition.report (d : Definition) : Value :=
  .record [("relation", .string d.id.text), ("columns", .list (d.columns.map Column.report))]

/-- The cells of a column in a table. -/
def Column.cells (c : Column) : String × String × String :=
  (c.name.text, c.type.getD "-", if c.nullable then "yes" else "no")

namespace Catalog

/-- The report for other programs. -/
def report (c : Catalog) : Value := .list (c.definitions.map Definition.report)

/-- The report for people: a table for each relation, with columns of the same widths in all of them. -/
def tables (c : Catalog) : String :=
  let cells := c.definitions.flatMap fun d => d.columns.map Column.cells
  let head := ("COLUMN", "TYPE", "NULLABLE")
  let names := width 6 (cells.map (·.1))
  let types := width 4 (cells.map (·.2.1))
  let row (cells : String × String × String) : String :=
    "  " ++ padded names cells.1 ++ "  " ++ padded types cells.2.1 ++ "  " ++ cells.2.2
  lines (c.definitions.flatMap fun d => ["", d.id.text, row head] ++ d.columns.map (row ·.cells))

end Catalog

end FromClause
