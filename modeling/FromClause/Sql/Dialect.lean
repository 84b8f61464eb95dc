/-!
# SQL dialects

The dialects that a statement may be written in, and the rules in which they differ.
-/

namespace FromClause

namespace Sql

/-- A dialect of SQL. -/
inductive Dialect where
  /-- The dialect of DuckDB. -/
  | duckdb
  /-- The dialect of Snowflake. -/
  | snowflake
  /-- A dialect near the standard that admits most extensions. -/
  | generic
  deriving DecidableEq, Repr

namespace Dialect

/-- The name of the dialect, as a project file gives it. -/
def name : Dialect → String
  | duckdb => "duckdb"
  | snowflake => "snowflake"
  | generic => "generic"

/-- The dialect with the given name. -/
def ofName? : String → Option Dialect
  | "duckdb" => some duckdb
  | "snowflake" => some snowflake
  | "generic" => some generic
  | _ => none

/-! ## Tokens -/

/-- A backslash in a string escapes the character behind it. -/
def backslashEscapes (d : Dialect) : Bool := d = snowflake

/-- A comment inside a comment is closed on its own. -/
def nestedComments (d : Dialect) : Bool := d = generic

/-- `//` and `#` start a comment that ends with the line. -/
def slashComments (d : Dialect) : Bool := d = snowflake

/-- Strings may be marked as bytes, raw, escaped or Unicode by a letter in front of them. -/
def markedStrings (d : Dialect) : Bool := d = generic

/-- Names may hold letters other than those of ASCII. -/
def foreignLetters (d : Dialect) : Bool := d ≠ snowflake

/-- Names may hold `#` and `@`. -/
def signsInNames (d : Dialect) : Bool := d = generic

/-! ## Queries -/

/-- A query may start with its FROM clause, and even consist of it. -/
def fromFirst (d : Dialect) : Bool := d ≠ snowflake

/-- The list between SELECT and FROM may be empty. -/
def emptyProjection (d : Dialect) : Bool := d = generic

/-- A list may end with a comma. -/
def trailingCommas (d : Dialect) : Bool := d = duckdb

/-- The items of a FROM clause may end with a comma. -/
def trailingCommaInFrom (d : Dialect) : Bool := d = snowflake

/-- Brackets may stand around a single table. -/
def bracketedTable (d : Dialect) : Bool := d ≠ duckdb

/-- VALUES may stand for a table without brackets around it. -/
def valuesAsTable (d : Dialect) : Bool := d ≠ duckdb

/-- UNNEST is a form of its own among the tables. -/
def unnestTable (d : Dialect) : Bool := d = generic

/-- Without brackets, a join of joins groups to the left. -/
def leftAssociativeJoins (d : Dialect) : Bool := d ≠ snowflake

/-- The schema between two points of a table name may be missing. -/
def doublePoint (d : Dialect) : Bool := d = snowflake

/-- NOTNULL is an operator. -/
def notNullWord (d : Dialect) : Bool := d = duckdb

end Dialect

end Sql

end FromClause
