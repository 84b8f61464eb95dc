import FromClause.Sql.Parser.Query
import FromClause.Sql.Lexer
/-!
# Statements

The parser for statements, and the reading of whole texts. Statements that are no queries are told apart by
kind only; of those that nothing is asked about, everything up to the next semicolon belongs to them.

`Dialect.parse` reads any number of statements, `Dialect.parseSingle` exactly one.
-/

namespace FromClause

namespace Sql

/-- The words that start a statement of which nothing but its presence is asked. -/
def commandWords : List String :=
  ["KILL", "FLUSH", "DESC", "DESCRIBE", "EXPLAIN", "ANALYZE", "CASE", "IF", "WHILE", "RAISE", "TRUNCATE",
    "ATTACH", "MSCK", "CACHE", "DISCARD", "DECLARE", "FETCH", "UNCACHE", "ALTER", "CALL", "COPY", "OPEN",
    "CLOSE", "SET", "SHOW", "USE", "GRANT", "DENY", "REVOKE", "START", "BEGIN", "END", "SAVEPOINT",
    "RELEASE", "ASSERT", "DEALLOCATE", "EXECUTE", "EXEC", "PREPARE", "MERGE", "PRAGMA", "UNLOAD", "RENAME",
    "OPTIMIZE", "COMMENT", "PRINT", "RETURN", "EXPORT", "VACUUM", "RESET", "THROW", "RAISERROR"]

/-- The words that start such a statement in some dialects. -/
def Dialect.commandWords (d : Dialect) : List String :=
  match d with
  | duckdb => ["DETACH", "INSTALL", "LOAD"]
  | snowflake => ["LIST", "LS", "REMOVE", "RM"]
  | generic => ["DETACH", "INSTALL", "LOAD", "REPLACE", "LISTEN", "NOTIFY", "UNLISTEN"]

/-- The objects that a DROP of that kind removes. -/
def droppedObjects : List String :=
  ["TABLE", "VIEW", "INDEX", "ROLE", "SCHEMA", "DATABASE", "SEQUENCE", "STAGE", "TYPE", "USER", "STREAM"]

/-- The objects that a statement of another kind removes. -/
def otherDroppedObjects : List String :=
  ["FUNCTION", "POLICY", "CONNECTOR", "DOMAIN", "PROCEDURE", "SECRET", "TRIGGER", "EXTENSION", "OPERATOR"]

namespace Parser

/-- Everything up to the next semicolon. -/
def skipStatement : Parser Unit :=
  modify (List.dropWhile fun lexeme => lexeme.token != .sign ";")

/-- What stands between brackets, the opening one being taken off, with the closing one. `depth` more brackets
are open. -/
def skipBrackets : (depth rounds : Nat) → Parser Unit
  | _, 0 => return
  | depth, rounds + 1 => do
    match ← peek with
    | none => expected ")"
    | some (.sign "(") =>
      advance
      skipBrackets (depth + 1) rounds
    | some (.sign ")") =>
      advance
      match depth with
      | 0 => return
      | depth + 1 => skipBrackets depth rounds
    | some _ =>
      advance
      skipBrackets depth rounds

/-- Changes of columns. -/
def assignments (d : Dialect) (l : Level) : Parser Unit :=
  discard (list d.trailing do
    if ← atSign "(" then discard (bracketed (list d.trailing (objectName d l)))
    else discard (objectName d l)
    sign "="
    discard l.expr)

/-- The rows that a statement that changes rows gives back. -/
def returning (d : Dialect) (l : Level) : Parser Unit := do
  if ← word? "RETURNING" then discard (results d l)

/-- A statement that adds rows, INSERT being taken off. -/
def insert (d : Dialect) (l : Level) : Parser Unit := do
  if ← word? "OR" then discard (oneOf? ["REPLACE", "ROLLBACK", "ABORT", "FAIL", "IGNORE"])
  discard (word? "IGNORE")
  discard (oneOf? ["INTO", "OVERWRITE"])
  discard (word? "TABLE")
  discard (objectName d l)
  if ← word? "AS" then discard name
  if ← words? ["DEFAULT", "VALUES"] then return ← returning d l
  let second ← peekSecond
  let key := (second.map Token.key).getD ""
  if (← atSign "(") && key ≠ "SELECT" && key ≠ "WITH" && key ≠ "VALUES" then
    discard (bracketed (list d.trailing (objectName d l)))
  if ← word? "SET" then assignments d l else discard l.query
  if ← word? "ON" then skipStatement else returning d l

/-- A statement that changes rows, UPDATE being taken off. -/
def update (d : Dialect) (l : Level) : Parser Unit := do
  if ← word? "OR" then discard (oneOf? ["REPLACE", "ROLLBACK", "ABORT", "FAIL", "IGNORE"])
  discard (tableItem d l)
  word "SET"
  assignments d l
  discard (after? ["FROM"] (tableItems d l))
  discard (after? ["WHERE"] l.expr)
  returning d l
  discard (after? ["LIMIT"] l.expr)

/-- A statement that removes rows, DELETE being taken off. -/
def delete (d : Dialect) (l : Level) : Parser Unit := do
  unless ← word? "FROM" do
    unless d = .generic do
      discard (list d.trailing (objectName d l))
      word "FROM"
  discard (list d.trailing (tableItem d l))
  discard (after? ["USING"] (list d.trailing (tableItem d l)))
  discard (after? ["WHERE"] l.expr)
  returning d l
  discard (after? ["ORDER", "BY"] (orderItems d l))
  discard (after? ["LIMIT"] l.expr)

/-- The definition of a table, its keywords being taken off. -/
def createTable (d : Dialect) (l : Level) : Parser Unit := do
  discard (words? ["IF", "NOT", "EXISTS"])
  discard (objectName d l)
  if ← sign? "(" then loop (skipBrackets 0)
  if ← word? "AS" then discard l.query else skipStatement

/-- The definition of an object, CREATE being taken off. -/
def create (d : Dialect) (l : Level) : Parser StatementKind := do
  discard (words? ["OR", "REPLACE"])
  discard (oneOf? ["LOCAL", "GLOBAL", "TRANSIENT"])
  discard (oneOf? ["TEMP", "TEMPORARY", "EXTERNAL"])
  if ← word? "TABLE" then
    createTable d l
    return .createTable
  if (← peekKey) = "" then expected "an object type after CREATE"
  skipStatement
  return .other

/-- The removal of an object, DROP being taken off. -/
def dropObject (d : Dialect) (l : Level) : Parser StatementKind := do
  discard (oneOf? ["TEMPORARY", "PERSISTENT", "MATERIALIZED"])
  let key ← peekKey
  if droppedObjects.contains key then
    advance
    discard (words? ["IF", "EXISTS"])
    discard (list d.trailing (objectName d l))
    discard (oneOf? ["CASCADE", "RESTRICT"])
    discard (word? "PURGE")
    return .drop
  if otherDroppedObjects.contains key then
    skipStatement
    return .other
  expected "an object type after DROP"

/-- The end of a transaction, its keyword being taken off. -/
def transactionEnd : Parser Unit := do
  discard (oneOf? ["TRANSACTION", "WORK", "TRAN"])
  if ← word? "AND" then
    discard (word? "NO")
    word "CHAIN"

/-- A statement. -/
def statement (d : Dialect) (l : Level) : Parser Statement := do
  let key ← peekKey
  if ["SELECT", "WITH", "VALUES", "FROM"].contains key || (← atSign "(") then
    return .query (← l.query)
  match key with
  | "INSERT" =>
    advance
    insert d l
    return .command .insert
  | "UPDATE" =>
    advance
    update d l
    return .command .update
  | "DELETE" =>
    advance
    delete d l
    return .command .delete
  | "CREATE" =>
    advance
    return .command (← create d l)
  | "DROP" =>
    advance
    return .command (← dropObject d l)
  | "COMMIT" | "ROLLBACK" =>
    advance
    transactionEnd
    if key = "ROLLBACK" then
      if ← word? "TO" then
        discard (word? "SAVEPOINT")
        discard name
    return .command .other
  | _ =>
    if commandWords.contains key || d.commandWords.contains key then
      skipStatement
      return .command .other
    expected "an SQL statement"

/-- The statements of a text with semicolons between them. Where a statement has ended, the word END ends the
text. -/
def statements (l : Level) : (ended : Bool) → (rounds : Nat) → Parser (List Statement)
  | _, 0 => return []
  | ended, rounds + 1 => do
    if ← sign? ";" then statements l false rounds
    else
      match ← peek with
      | none => return []
      | some token =>
        if ended then
          if token.key = "END" then return [] else expected "end of statement"
        let first ← l.statement
        return first :: (← statements l true rounds)

end Parser

/-! ## Levels -/

/-- The parsers of a dialect with the given number of levels below them. -/
def Level.ofDepth (d : Dialect) : Nat → Level
  | 0 => .lowest
  | depth + 1 =>
    let l := ofDepth d depth
    { statement := Parser.statement d l
      query := Parser.query d l
      operand := Parser.operand d l
      factor := Parser.factor d l }

/-- How many constructs may stand inside each other. -/
def maxDepth : Nat := 50

namespace Dialect

/-- Why a text does not give the statement that is wanted. -/
inductive SyntaxError where
  /-- The text cannot be parsed. -/
  | malformed (error : ParseError)
  /-- The text is empty, or holds no statement where one is wanted. -/
  | empty
  /-- The text holds several statements where one is wanted. -/
  | several (count : Nat)
  deriving DecidableEq, Repr, Inhabited

/-- The outermost parsers of a dialect. -/
def level (d : Dialect) : Level := .ofDepth d maxDepth

/-- What a parser makes of a whole text. -/
def run {α : Type} (d : Dialect) (p : Parser α) (text : String) : Except ParseError α := do
  let tokens ← lex d text
  let (a, _) ← p tokens
  return a

/-- The statements of a text. -/
def parse (d : Dialect) (text : String) : Except SyntaxError (List Statement) :=
  let text := Text.trim text
  if text.isEmpty then .error .empty
  else (d.run (Parser.loop (Parser.statements d.level false)) text).mapError .malformed

/-- The only statement of a text. -/
def parseSingle (d : Dialect) (text : String) : Except SyntaxError Statement := do
  match ← d.parse text with
  | [] => throw .empty
  | [statement] => return statement
  | statements => throw (.several statements.length)

/-- The expression that a text consists of. -/
def parseExpr (d : Dialect) (text : String) : Except ParseError Expr :=
  d.run (do
    let e ← d.level.expr
    if (← Parser.peek).isSome then Parser.expected "end of expression"
    return e) text

end Dialect

end Sql

end FromClause
