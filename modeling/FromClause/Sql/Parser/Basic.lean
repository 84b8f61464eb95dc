import FromClause.Sql.Dialect
import FromClause.Sql.ParseError
/-!
# Parsers

A parser takes tokens off the front of a list. It either yields a value with the tokens that are left, or an
error. Loops are bounded by the number of tokens that are left when they start, since every round takes one.
Constructs inside each other are bounded by `Levels`: a family of parsers per level, each defined from the
level below.
-/

namespace FromClause

namespace Sql

/-- A parser for values of type `α`. -/
abbrev Parser (α : Type) := StateT (List Lexeme) (Except ParseError) α

namespace Parser

variable {α β : Type}

/-! ## Looking ahead -/

/-- The next token, which is left in place. -/
def peek : Parser (Option Token) := do
  let tokens ← get
  return tokens.head?.map Lexeme.token

/-- The token behind the next one, which is left in place. -/
def peekSecond : Parser (Option Token) := do
  let tokens ← get
  return (tokens.drop 1).head?.map Lexeme.token

/-- The word in upper case that comes next, empty where none without quotes does. -/
def peekKey : Parser String := do
  let token ← peek
  return (token.map Token.key).getD ""

/-- The word in upper case that comes second. -/
def peekSecondKey : Parser String := do
  let token ← peekSecond
  return (token.map Token.key).getD ""

/-- Whether the next token is the given sign. -/
def atSign (text : String) : Parser Bool := do
  let token ← peek
  return token == some (.sign text)

/-- Whether the next token is the given word. -/
def atWord (word : String) : Parser Bool := do
  return (← peekKey) == word

/-! ## Failing -/

/-- The error that something else was expected in place of the next token. -/
def expected (what : String) : Parser α := do
  let tokens ← get
  throw (.expected what tokens.head?)

/-- An error at the next token. -/
def invalid (reason : String) : Parser α := do
  let tokens ← get
  throw (.invalid reason (tokens.head?.map Lexeme.position))

/-! ## Taking tokens -/

/-- The next token, taken off. Nothing happens at the end. -/
def advance : Parser Unit := modify (List.drop 1)

/-- The given sign, taken off if it comes next. -/
def sign? (text : String) : Parser Bool := do
  if ← atSign text then
    advance
    return true
  return false

/-- The given sign. -/
def sign (text : String) : Parser Unit := do
  unless ← sign? text do expected text

/-- The given word, taken off if it comes next. -/
def word? (word : String) : Parser Bool := do
  if ← atWord word then
    advance
    return true
  return false

/-- The given word. -/
def word (text : String) : Parser Unit := do
  unless ← word? text do expected text

/-- The given words, taken off if all of them come next. -/
def words? (texts : List String) : Parser Bool := do
  let tokens ← get
  if (tokens.take texts.length).map (·.token.key) == texts then
    set (tokens.drop texts.length)
    return true
  return false

/-- The given words, one after the other. -/
def words (texts : List String) : Parser Unit := texts.forM word

/-- The one of the given words that comes next, taken off. -/
def oneOf? (texts : List String) : Parser (Option String) := do
  let key ← peekKey
  if key ≠ "" && texts.contains key then
    advance
    return some key
  return none

/-! ## Combining -/

/-- The value of a parser, or nothing and no token taken if it fails. Only too many levels are not forgiven. -/
def attempt (p : Parser α) : Parser (Option α) := fun tokens =>
  match p tokens with
  | .ok (a, rest) => .ok (some a, rest)
  | .error .tooDeep => .error .tooDeep
  | .error _ => .ok (none, tokens)

/-- The value of a parser between brackets. -/
def bracketed (p : Parser α) : Parser α := do
  sign "("
  let a ← p
  sign ")"
  return a

/-- The value of a parser in place of a word that introduces it. -/
def after? (texts : List String) (p : Parser α) : Parser (Option α) := do
  if ← words? texts then
    return some (← p)
  return none

/-- A loop with as many rounds as there are tokens. -/
def loop (round : (rounds : Nat) → Parser α) : Parser α := do
  let tokens ← get
  round (tokens.length + 1)

/-- Whether a list ends here although a comma was the last token. -/
def listEnds (reserved : List String) : Parser Bool := do
  match ← peek with
  | none => return true
  | some (.sign text) => return [")", ";", "]", "\x7d"].contains text
  | some token => return token.key ≠ "" && reserved.contains token.key

/-- The values of a parser with commas between them; `trailing` gives the words before which a last comma is
allowed. -/
def listRounds (trailing : Option (List String)) (p : Parser α) : (rounds : Nat) → Parser (List α)
  | 0 => return []
  | rounds + 1 => do
    let a ← p
    unless ← sign? "," do return [a]
    if let some reserved := trailing then
      if ← listEnds reserved then return [a]
    return a :: (← listRounds trailing p rounds)

/-- The values of a parser with commas between them. -/
def list (trailing : Option (List String)) (p : Parser α) : Parser (List α) :=
  loop (listRounds trailing p)

end Parser

/-- The words that are no name of a column in a list of results. -/
def reservedForColumn : List String :=
  ["WITH", "EXPLAIN", "ANALYZE", "SELECT", "WHERE", "GROUP", "SORT", "HAVING", "ORDER", "TOP", "LATERAL",
    "VIEW", "LIMIT", "OFFSET", "FETCH", "UNION", "EXCEPT", "EXCLUDE", "INTERSECT", "MINUS", "CLUSTER",
    "DISTRIBUTE", "RETURNING", "FROM", "INTO", "END"]

/-- The words before which a list may end with a comma, if the dialect has such lists. -/
def Dialect.trailing (d : Dialect) : Option (List String) :=
  if d.trailingCommas then some reservedForColumn else none

end Sql

end FromClause
