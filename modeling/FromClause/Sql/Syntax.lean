import FromClause.Logic.Formula
import FromClause.Sql.Token
/-!
# Statements

What a statement says, as far as its FROM clause and its join conditions go. Everything else is kept as text,
because nothing but its text is ever asked for.
-/

namespace FromClause

namespace Sql

/-! ## Expressions -/

/-- A literal. -/
inductive Literal where
  /-- A number as it is written; `long` marks a suffix. -/
  | number (digits : String) (long : Bool)
  /-- A string between single quotes. -/
  | string (value : String)
  /-- A string between double quotes. -/
  | doubleQuoted (value : String)
  /-- A truth value. -/
  | boolean (value : Bool)
  /-- The missing value. -/
  | null
  /-- A literal of any other kind, as it is printed. -/
  | other (text : String)
  deriving DecidableEq, Repr, Inhabited

/-- An operator between two operands. -/
inductive BinaryOp where
  /-- Conjunction. -/
  | and
  /-- Disjunction. -/
  | or
  /-- A comparison. -/
  | compare (op : Comparison)
  /-- Any other operator, as it is printed. -/
  | other (symbol : String)
  deriving DecidableEq, Repr, Inhabited

/-- An operator in front of its operand. -/
inductive UnaryOp where
  /-- Negation of a truth value. -/
  | not
  /-- Negation of a number. -/
  | minus
  /-- A number as it is. -/
  | plus
  /-- The bits of a number inverted. -/
  | tilde
  deriving DecidableEq, Repr, Inhabited

/-- An expression. -/
inductive Expr where
  /-- A column, perhaps behind a table and a schema. -/
  | column (names : List Name)
  /-- A literal. -/
  | literal (value : Literal)
  /-- An operator with its two operands. -/
  | binary (op : BinaryOp) (left right : Expr)
  /-- An operator with its only operand. -/
  | unary (op : UnaryOp) (operand : Expr)
  /-- An expression in brackets. -/
  | nested (inner : Expr)
  /-- A test for the missing value. -/
  | isNull (negated : Bool) (operand : Expr)
  /-- A test that a value lies between two bounds. -/
  | between (negated : Bool) (operand low high : Expr)
  /-- A test that a value is among the items of a list. -/
  | inList (negated : Bool) (operand : Expr) (items : List Expr)
  /-- A function call, or a part taken out of a value, as it is printed. -/
  | applied (text : String)
  /-- Any other expression, as it is printed. -/
  | other (text : String)
  deriving Inhabited

/-! ## Tables -/

/-- A part of the name of a table. -/
inductive NamePart where
  /-- A name. -/
  | name (name : Name)
  /-- A function that yields a name, as it is printed. -/
  | computed (text : String)
  deriving DecidableEq, Repr, Inhabited

/-- The name of a table: its parts, the outermost first. -/
abbrev ObjectName := List NamePart

/-- A column name behind an alias, with its type as it is printed. -/
structure AliasColumn where
  /-- The name. -/
  name : Name
  /-- The type. -/
  type : Option String
  deriving DecidableEq, Repr, Inhabited

/-- An alias of a table. -/
structure TableAlias where
  /-- Whether AS stands before it. -/
  explicit : Bool
  /-- The alias. -/
  name : Name
  /-- The new names of the first columns. -/
  columns : List AliasColumn
  deriving DecidableEq, Repr, Inhabited

/-- What restricts a join. -/
inductive JoinConstraint where
  /-- A condition. -/
  | on (condition : Expr)
  /-- Columns that are to be equal. -/
  | using (columns : List ObjectName)
  /-- All columns of one name are to be equal. -/
  | natural
  /-- Nothing. -/
  | none
  deriving Inhabited

/-- What a join does with the rows of its two sides. -/
inductive JoinFamily where
  /-- It keeps pairs of rows only. -/
  | inner
  /-- It keeps every pair of rows. -/
  | cross
  /-- It keeps rows without a partner as well. -/
  | outer
  /-- It does something else. -/
  | other
  deriving DecidableEq, Repr, Inhabited

/-- A join operator. -/
structure JoinOperator where
  /-- What the join does. -/
  family : JoinFamily
  /-- Its keywords. -/
  keywords : String
  /-- What restricts it. -/
  constraint : JoinConstraint
  deriving Inhabited

mutual

/-- A single source of a FROM clause. -/
inductive TableFactor where
  /-- A table by its name; with arguments, as they are printed, a function that yields a table. -/
  | table (name : ObjectName) (arguments : Option String) (label : Option TableAlias)
  /-- A join in brackets. -/
  | nested (item : TableItem) (label : Option TableAlias)
  /-- A query that stands for a table, as it is printed with its brackets. -/
  | derived (text : String) (label : Option TableAlias)
  /-- Any other source, as it is printed without its alias. -/
  | other (text : String) (label : Option TableAlias)

/-- An item of a FROM clause: a source, and the sources joined to it from left to right. -/
inductive TableItem where
  /-- One source. -/
  | factor (source : TableFactor)
  /-- An item with one more source joined to it. -/
  | join (left : TableItem) (operator : JoinOperator) (right : TableFactor)

end

instance : Inhabited TableFactor := ⟨.other "" none⟩

instance : Inhabited TableItem := ⟨.factor default⟩

/-! ## Statements -/

/-- A plain SELECT, by its FROM clause. -/
structure Select where
  /-- The items of the FROM clause. -/
  items : List TableItem
  deriving Inhabited

/-- What a query computes. -/
inductive QueryBody where
  /-- A plain SELECT. -/
  | select (select : Select)
  /-- A set operation, a list of values or a query in brackets. -/
  | other
  deriving Inhabited

/-- A query. -/
structure Query where
  /-- The names that the WITH clause defines. -/
  defined : List Name
  /-- What the query computes. -/
  body : QueryBody
  /-- The query as it is printed. -/
  text : String
  deriving Inhabited

/-- What a statement does that is no query. -/
inductive StatementKind where
  /-- It adds rows. -/
  | insert
  /-- It changes rows. -/
  | update
  /-- It removes rows. -/
  | delete
  /-- It creates a table. -/
  | createTable
  /-- It removes an object of the database. -/
  | drop
  /-- It does something else. -/
  | other
  deriving DecidableEq, Repr, Inhabited

/-- A statement. -/
inductive Statement where
  /-- A query. -/
  | query (query : Query)
  /-- Anything else. -/
  | command (kind : StatementKind)
  deriving Inhabited

/-- The kind of statement as an error message names it. -/
def StatementKind.text : StatementKind → String
  | insert => "INSERT"
  | update => "UPDATE"
  | delete => "DELETE"
  | createTable => "CREATE TABLE"
  | drop => "DROP"
  | other => "non-query statement"

end Sql

end FromClause
