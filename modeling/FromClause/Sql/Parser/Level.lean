import FromClause.Sql.Parser.Basic
import FromClause.Sql.Printer
import FromClause.Text.Case
/-!
# Levels

Statements, queries, expressions and tables may stand inside each other. A `Level` holds the parsers for what
stands one level further in, and every parser of such a construct is a function of the level below it. At the
lowest level nothing more can be parsed.
-/

namespace FromClause

namespace Sql

/-- The parsers for the constructs that may stand inside each other. -/
structure Level where
  /-- A statement. -/
  statement : Parser Statement
  /-- A query. -/
  query : Parser Query
  /-- An expression whose operators bind more tightly than the given precedence. -/
  operand : (precedence : Nat) → Parser Expr
  /-- A single source of a FROM clause. -/
  factor : Parser TableFactor

namespace Level

/-- The level at which nothing more can be parsed. -/
def lowest : Level where
  statement := throw .tooDeep
  query := throw .tooDeep
  operand _ := throw .tooDeep
  factor := throw .tooDeep

/-- An expression with any operators. -/
def expr (l : Level) : Parser Expr := l.operand 0

end Level

/-! ## Names -/

namespace Parser

/-- A name; a string may stand for a quoted one. -/
def name : Parser Name := do
  match ← peek with
  | some (.word n _) =>
    advance
    return n
  | some (.string value) =>
    advance
    return ⟨value, some '\''⟩
  | _ => expected "identifier"

/-- Whether a word calls the function that yields a name from a string. -/
def yieldsName (d : Dialect) (n : Name) (before : ObjectName) : Bool :=
  d = .snowflake && n.quote.isNone && Text.lower n.value == "identifier" &&
    before.all fun
      | .name _ => true
      | .computed _ => false

/-- The parts of a table name behind those in `before`. -/
def nameParts (d : Dialect) (arguments : Parser (List String)) (before : ObjectName) :
    (rounds : Nat) → Parser ObjectName
  | 0 => return before
  | rounds + 1 => do
    let part : NamePart ←
      if d.doublePoint && before.length == 1 && (← atSign ".") then pure (.name ⟨"", none⟩)
      else do
        let n ← name
        if yieldsName d n before then
          let args ← bracketed arguments
          pure (.computed (n.text ++ "(" ++ commaList args ++ ")"))
        else pure (.name n)
    if ← sign? "." then nameParts d arguments (before ++ [part]) rounds
    else return before ++ [part]

/-- The name of a table or another object. -/
def objectName (d : Dialect) (l : Level) : Parser ObjectName :=
  loop (nameParts d (do
    if ← atSign ")" then return []
    return (← list d.trailing l.expr).map Expr.text) [])

end Parser

end Sql

end FromClause
