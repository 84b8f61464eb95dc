import FromClause.Sql.Token
import FromClause.Text.Digits
/-!
# Parse errors

Why a text is no statement. An error knows the token that it is about, but what is reported of it is its
message; `locate` reads the line and column back out of a message by searching for the two labels.
-/

namespace FromClause

namespace Sql

/-- Why a text cannot be parsed. -/
inductive ParseError where
  /-- The text breaks off inside a token, or holds a character that no token has. -/
  | lexical (reason : String) (position : Position)
  /-- Something else was expected; no token is found at the end of the text. -/
  | expected (what : String) (found : Option Lexeme)
  /-- A rule is broken; the place is known or not. -/
  | invalid (reason : String) (position : Option Position)
  /-- Too many constructs are inside each other. -/
  | tooDeep
  deriving DecidableEq, Repr, Inhabited

namespace ParseError

/-- The wording of the error. -/
def message : ParseError → String
  | lexical reason position => "sql parser error: " ++ reason ++ position.text
  | expected what none => "sql parser error: Expected: " ++ what ++ ", found: EOF"
  | expected what (some lexeme) =>
    "sql parser error: Expected: " ++ what ++ ", found: " ++ lexeme.token.text ++
      lexeme.position.text
  | invalid reason none => "sql parser error: " ++ reason
  | invalid reason (some position) => "sql parser error: " ++ reason ++ position.text
  | tooDeep => "sql parser error: recursion limit exceeded"

end ParseError

/-! ## Places in messages -/

/-- What follows the first occurrence of a label. -/
def afterLabel? (label : List Char) : List Char → Option (List Char)
  | [] => if label.isEmpty then some [] else none
  | c :: rest =>
    if label.isPrefixOf (c :: rest) then some ((c :: rest).drop label.length)
    else afterLabel? label rest

/-- The largest number that a place can have. -/
def maxPlace : Nat := Nat.pow 2 64 - 1

/-- The number behind the first occurrence of a label: at least one digit, and no number that is too large. -/
def numberAfter? (label : List Char) (message : List Char) : Option Nat := do
  let rest ← afterLabel? label message
  let number ← Text.wholeNumber? 10 (rest.takeWhile Char.isDigit)
  guard (number ≤ maxPlace)
  return number

/-- The line and column that a message names. Both are zero when either of them is missing. -/
def locate (message : String) : Nat × Nat :=
  match numberAfter? "Line: ".toList message.toList, numberAfter? "Column: ".toList message.toList with
  | some line, some column => (line, column)
  | _, _ => (0, 0)

end Sql

end FromClause
