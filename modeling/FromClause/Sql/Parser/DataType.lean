import FromClause.Sql.Parser.Level
/-!
# Data types

The names of data types, in casts, typed literals and column lists.
-/

namespace FromClause

namespace Sql

/-- A data type. -/
structure DataType where
  /-- The type as it is printed. -/
  text : String
  /-- Whether SQL itself has the type. -/
  builtIn : Bool

/-- The types that take no arguments. -/
def plainTypes : List String :=
  ["BOOLEAN", "BOOL", "DATE", "REAL", "TEXT", "JSON", "JSONB", "UUID", "BYTEA", "REGCLASS", "TINYTEXT",
    "MEDIUMTEXT", "LONGTEXT", "TINYBLOB", "MEDIUMBLOB", "LONGBLOB", "HUGEINT", "UHUGEINT", "UBIGINT",
    "UINTEGER", "USMALLINT", "UTINYINT", "DATE32", "BIGDECIMAL", "BIGNUMERIC", "FLOAT4", "FLOAT8",
    "FLOAT32", "FLOAT64", "INT16", "INT32", "INT64", "INT128", "INT256", "UINT8", "UINT16", "UINT32",
    "UINT64", "UINT128", "UINT256"]

/-- The types that take at most a length or a precision. -/
def lengthTypes : List String :=
  ["VARCHAR", "NVARCHAR", "CHAR", "CHARACTER", "CLOB", "BINARY", "VARBINARY", "BLOB", "STRING", "TINYINT",
    "SMALLINT", "MEDIUMINT", "INT", "INTEGER", "BIGINT", "INT2", "INT4", "INT8", "FLOAT", "BIT", "DATETIME"]

/-- The types that take a precision and a scale. -/
def scaleTypes : List String := ["DECIMAL", "NUMERIC", "DEC", "DOUBLE"]

/-- The types of times of the day. -/
def timeTypes : List String := ["TIME", "TIMESTAMP", "TIMESTAMPTZ", "TIMETZ"]

namespace Parser

/-- Numbers and words in brackets with commas between them, as they are printed. -/
def typeArguments (separator : String) : Parser String := do
  unless ← sign? "(" do return ""
  let args ← list none do
    match ← peek with
    | some (.number digits _) =>
      advance
      return digits
    | some (.word n _) =>
      advance
      return n.text
    | some (.string value) =>
      advance
      return quoted '\'' value
    | _ => expected "type modifiers"
  sign ")"
  return "(" ++ separator.intercalate args ++ ")"

/-- A word that may follow, as it is printed. -/
def suffix (text : String) : Parser String := do
  return if ← word? text then " " ++ text else ""

/-- The time zone behind a type of times. -/
def timeZone : Parser String := do
  if ← words? ["WITH", "TIME", "ZONE"] then return " WITH TIME ZONE"
  if ← words? ["WITHOUT", "TIME", "ZONE"] then return " WITHOUT TIME ZONE"
  return ""

/-- The type that a word of SQL itself starts. -/
def builtInType (key : String) : Parser String := do
  if plainTypes.contains key then return key
  if timeTypes.contains key then
    let args ← typeArguments ","
    return key ++ args ++ (← timeZone)
  if scaleTypes.contains key then
    let more ← if key = "DOUBLE" then suffix "PRECISION" else pure ""
    return key ++ more ++ (← typeArguments ",")
  let more ← if key = "CHAR" || key = "CHARACTER" then suffix "VARYING" else pure ""
  let args ← typeArguments ","
  return key ++ more ++ args ++ (← suffix "UNSIGNED")

/-- Whether a word starts a type of SQL itself. -/
def startsBuiltIn (key : String) : Bool :=
  plainTypes.contains key || lengthTypes.contains key || scaleTypes.contains key ||
    timeTypes.contains key

/-- The brackets that make a type one of arrays. -/
def arrayMarks (text : String) : (rounds : Nat) → Parser String
  | 0 => return text
  | rounds + 1 => do
    unless ← sign? "[" do return text
    let size ← match ← peek with
      | some (.number digits _) => do
        advance
        pure digits
      | _ => pure ""
    sign "]"
    arrayMarks (text ++ "[" ++ size ++ "]") rounds

/-- A data type. -/
def dataType (d : Dialect) (l : Level) : Parser DataType := do
  match ← peek with
  | some (.word _ key) =>
    if startsBuiltIn key then
      advance
      let text ← builtInType key
      return ⟨← loop (arrayMarks text), true⟩
    else
      let n ← objectName d l
      let args ← typeArguments ", "
      return ⟨← loop (arrayMarks (n.text ++ args)), false⟩
  | _ => expected "a data type name"

end Parser

end Sql

end FromClause
