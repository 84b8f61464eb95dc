/-!
# Columns of text

Tables for people. A column is as wide as its longest cell takes bytes, and a shorter cell is filled up to that
many characters.
-/

namespace FromClause

namespace Report

/-- The width of a column with the given cells, and at least `least`. -/
def width (least : Nat) (cells : List String) : Nat :=
  cells.foldl (fun width cell => max width cell.utf8ByteSize) least

/-- A cell filled up with spaces. -/
def padded (width : Nat) (cell : String) : String :=
  cell ++ String.ofList (List.replicate (width - cell.length) ' ')

/-- Some lines, each of them ended. -/
def lines (ls : List String) : String := String.join (ls.map (· ++ "\n"))

end Report

end FromClause
