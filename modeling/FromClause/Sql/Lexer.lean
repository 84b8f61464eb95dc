import FromClause.Sql.Dialect
import FromClause.Sql.ParseError
import FromClause.Text.Blank
import FromClause.Text.Case
import FromClause.Text.Letter
/-!
# From text to tokens

`lex` cuts a text into its tokens. Blanks and comments separate tokens and are dropped. The whole text is cut
before anything else is looked at, so a string that is not closed is the first error of a statement wherever
it stands.
-/

namespace FromClause

namespace Sql

/-! ## Parts of tokens -/

/-- What stands before the closing quote, and what behind it. Two quotes in a row stand for one. -/
def readQuoted (quote : Char) : List Char → Option (List Char × List Char)
  | [] => none
  | c :: rest =>
    if c = quote then
      match rest with
      | [] => some ([], [])
      | d :: rest' =>
        if d = quote then (readQuoted quote rest').map fun r => (quote :: r.1, r.2)
        else some ([], d :: rest')
    else (readQuoted quote rest).map fun r => (c :: r.1, r.2)

/-- The character that a backslash and the given one stand for. -/
def unescaped : Char → Char
  | '0' => '\x00'
  | 'a' => '\x07'
  | 'b' => '\x08'
  | 'f' => '\x0c'
  | 'n' => '\n'
  | 'r' => '\x0d'
  | 't' => '\t'
  | 'Z' => '\x1a'
  | c => c

/-- The same for a string in which a backslash escapes the next character. -/
def readEscaped (quote : Char) : List Char → Option (List Char × List Char)
  | [] => none
  | c :: rest =>
    if c = '\\' then
      match rest with
      | [] => none
      | d :: rest' => (readEscaped quote rest').map fun r => (unescaped d :: r.1, r.2)
    else if c = quote then
      match rest with
      | [] => some ([], [])
      | d :: rest' =>
        if d = quote then (readEscaped quote rest').map fun r => (quote :: r.1, r.2)
        else some ([], d :: rest')
    else (readEscaped quote rest).map fun r => (c :: r.1, r.2)

/-- What stands behind a comment whose opening sign is off. `depth` comments are open around it. -/
def skipComment (nested : Bool) : (depth : Nat) → List Char → Option (List Char)
  | _, [] => none
  | _, [_] => none
  | depth, c :: d :: rest =>
    if c = '*' ∧ d = '/' then
      match depth with
      | 0 => some rest
      | depth + 1 => skipComment nested depth rest
    else if nested ∧ c = '/' ∧ d = '*' then skipComment nested (depth + 1) rest
    else skipComment nested depth (d :: rest)

/-- What stands before a closing delimiter, and what behind it. -/
def readUntil (close : List Char) : List Char → Option (List Char × List Char)
  | [] => none
  | c :: rest =>
    if close.isPrefixOf (c :: rest) then some ([], (c :: rest).drop close.length)
    else (readUntil close rest).map fun r => (c :: r.1, r.2)

/-- The longest run of characters that pass a test, and what stands behind it. -/
def readWhile (p : Char → Bool) (cs : List Char) : List Char × List Char :=
  (cs.takeWhile p, cs.dropWhile p)

/-- Whether a name may start with the character. -/
def startsName (d : Dialect) (c : Char) : Bool :=
  (if d.foreignLetters then Text.isLetter c else c.isAlpha) || c = '_' ||
    (d.signsInNames && (c = '#' || c = '@'))

/-- Whether a name may go on with the character. -/
def continuesName (d : Dialect) (c : Char) : Bool := startsName d c || c.isDigit || c = '$'

/-- A word without quotes. -/
def bareWord (cs : List Char) : Token :=
  .word ⟨String.ofList cs, none⟩ (Text.upper (String.ofList cs))

/-- The exponent at the head of a text, and what stands behind it. -/
def readExponent : List Char → List Char × List Char
  | e :: rest =>
    if e = 'e' ∨ e = 'E' then
      let sign := match rest with
        | s :: _ => if s = '+' ∨ s = '-' then [s] else []
        | [] => []
      match readWhile Char.isDigit (rest.drop sign.length) with
      | ([], _) => ([], e :: rest)
      | (digits, behind) => (e :: (sign ++ digits), behind)
    else ([], e :: rest)
  | [] => ([], [])

/-- The signs, each before those that it starts with. -/
def signs : List String :=
  ["!~~*", "->>", "#>>", "!~~", "!~*", "~~*", "<=>", "||/", "->", "#>", "#-", "=>", "==", "!=", "<=",
    "<>", "<<", "<@", ">=", ">>", "::", ":=", "||", "|/", "&&", "@>", "@?", "@@", "!~", "!!", "~*",
    "~~", "^@"]

/-- The sign at the head of a text, and what stands behind it. A character that starts no longer sign is one
by itself. -/
def readSign (d : Dialect) (c : Char) (rest : List Char) : Token × List Char :=
  match signs.find? fun s => s.toList.isPrefixOf (c :: rest) with
  | some "!=" => (.sign "<>", rest.drop 1)
  | some s => (.sign s, (c :: rest).drop s.toList.length)
  | none =>
    if c = '/' && rest.head? == some '/' && !d.slashComments then (.sign "//", rest.drop 1)
    else (.sign (String.singleton c), rest)

/-! ## Tokens -/

/-- What stands at the head of a text. -/
inductive Head where
  /-- A token, and what stands behind it. -/
  | token (token : Token) (rest : List Char)
  /-- Blanks or a comment, and what stands behind them. -/
  | blank (rest : List Char)
  /-- Nothing that can be read; the fault is where the rest starts. -/
  | fault (reason : String) (rest : List Char)

/-- A string whose opening quote is at the head of a text. -/
def stringHead (d : Dialect) (token : String → Token) (cs : List Char) : Head :=
  match (if d.backslashEscapes then readEscaped '\'' else readQuoted '\'') (cs.drop 1) with
  | some (value, rest) => .token (token (String.ofList value)) rest
  | none => .fault "Unterminated string literal" cs

/-- A number or a point. `afterWord` says that a word stands right before it. -/
def numberHead (afterWord : Bool) (cs : List Char) : Head :=
  let (whole, rest) := readWhile Char.isDigit cs
  match whole, rest with
  | ['0'], 'x' :: rest =>
    let hex := readWhile (fun c => c.isDigit || "abcdefABCDEF".toList.contains c) rest
    .token (.marked "X" (String.ofList hex.1)) hex.2
  | _, _ =>
    let (point, rest) := match rest with
      | '.' :: rest => (['.'], rest)
      | rest => ([], rest)
    if whole.isEmpty && rest.head? == some '_' then
      if afterWord then .token (.sign ".") rest else .fault "Unexpected character '_'" rest
    else
      let (fraction, rest) := readWhile Char.isDigit rest
      if whole.isEmpty && fraction.isEmpty then .token (.sign ".") rest
      else
        let (exponent, rest) := readExponent rest
        let digits := String.ofList (whole ++ point ++ fraction ++ exponent)
        match rest with
        | 'L' :: rest => .token (.number digits true) rest
        | rest => .token (.number digits false) rest

/-- A dollar sign at the head: a string between two of them, or a placeholder. -/
def dollarHead (rest : List Char) : Head :=
  let (tag, behind) := readWhile (fun c => Text.isLetter c || c.isDigit || c = '_') rest
  match behind with
  | '$' :: body =>
    match readUntil (['$'] ++ tag ++ ['$']) body with
    | some (value, rest) => .token (.dollar (String.ofList tag) (String.ofList value)) rest
    | none => .fault "Unterminated dollar-quoted string" []
  | _ => .token (.placeholder (String.ofList ('$' :: tag))) behind

/-- A word or a marked string. -/
def wordHead (d : Dialect) (c : Char) (rest : List Char) : Head :=
  let word : Head :=
    let (more, behind) := readWhile (continuesName d) rest
    .token (bareWord (c :: more)) behind
  match c, rest with
  | 'n', '\'' :: _ | 'N', '\'' :: _ => stringHead d (.marked "N") rest
  | 'x', '\'' :: _ | 'X', '\'' :: _ => stringHead d (.marked "X") rest
  | 'b', '\'' :: _ | 'B', '\'' :: _ =>
    if d.markedStrings then stringHead d (.marked "B") rest else word
  | 'r', '\'' :: _ | 'R', '\'' :: _ =>
    if d.markedStrings then stringHead d (.marked "R") rest else word
  | 'e', '\'' :: _ | 'E', '\'' :: _ =>
    if d.markedStrings then stringHead .snowflake (.marked "E") rest else word
  | 'u', '&' :: '\'' :: _ | 'U', '&' :: '\'' :: _ =>
    if d.markedStrings then stringHead d (.marked "U&") (rest.drop 1) else word
  | _, _ => word

/-- What stands at the head of a text that starts with `c`. -/
def readHead (d : Dialect) (afterWord : Bool) (c : Char) (rest : List Char) : Head :=
  if Text.isBlank c then .blank rest
  else if startsName d c then wordHead d c rest
  else if c = '\'' then stringHead d .string (c :: rest)
  else if c = '"' ∨ c = '`' then
    match readQuoted c rest with
    | some (value, behind) => .token (.word ⟨String.ofList value, some c⟩ "") behind
    | none =>
      .fault ("Expected close delimiter '" ++ String.singleton c ++ "' before EOF.") (c :: rest)
  else if c.isDigit ∨ c = '.' then numberHead afterWord (c :: rest)
  else if c = '$' then dollarHead rest
  else if c = '?' then
    let (digits, behind) := readWhile Char.isDigit rest
    .token (.placeholder (String.ofList ('?' :: digits))) behind
  else
    let line : Head := .blank ((rest.dropWhile (· ≠ '\n')).drop 1)
    match c, rest with
    | '-', '-' :: _ => line
    | '/', '*' :: behind =>
      match skipComment d.nestedComments 0 behind with
      | some behind => .blank behind
      | none => .fault "Unexpected EOF while in a multi-line comment" []
    | '/', '/' :: _ =>
      if d.slashComments then line else let (t, behind) := readSign d c rest; .token t behind
    | '#', _ =>
      if d.slashComments then line else let (t, behind) := readSign d c rest; .token t behind
    | _, _ => let (t, behind) := readSign d c rest; .token t behind

/-- The tokens of a text that starts at a place. Every step takes at least one character, so `fuel` may be the
number of characters. -/
def lexFrom (d : Dialect) : (fuel : Nat) → (afterWord : Bool) → Position → List Char →
    Except ParseError (List Lexeme)
  | 0, _, _, _ => .ok []
  | _, _, _, [] => .ok []
  | fuel + 1, afterWord, position, c :: rest =>
    let behind (left : List Char) : Position :=
      position.after ((c :: rest).take ((c :: rest).length - left.length))
    match readHead d afterWord c rest with
    | .fault reason left => .error (.lexical reason (behind left))
    | .blank left => lexFrom d fuel false (behind left) left
    | .token token left =>
      let isWord := match token with
        | .word .. => true
        | _ => false
      (lexFrom d fuel isWord (behind left) left).map (⟨token, position⟩ :: ·)

/-- The tokens of a text. -/
def lex (d : Dialect) (text : String) : Except ParseError (List Lexeme) :=
  let cs := text.toList
  lexFrom d cs.length false .start cs

end Sql

end FromClause
