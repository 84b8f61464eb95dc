/-!
# Tokens

The words, literals and signs of a statement, each with the place where it starts. `Token.text` is the token
as an error message quotes it.
-/

namespace FromClause

namespace Sql

/-- A place in a text: line and column, counted in characters from one. -/
structure Position where
  /-- The line. -/
  line : Nat
  /-- The column. -/
  column : Nat
  deriving DecidableEq, Repr, Inhabited

namespace Position

/-- The first place of a text. -/
def start : Position := ⟨1, 1⟩

/-- The place behind one character. -/
def next (p : Position) (c : Char) : Position :=
  if c = '\n' then ⟨p.line + 1, 1⟩ else ⟨p.line, p.column + 1⟩

/-- The place behind some characters. -/
def after (p : Position) (cs : List Char) : Position := cs.foldl next p

/-- The place as an error message ends with it. -/
def text (p : Position) : String := s!" at Line: {p.line}, Column: {p.column}"

end Position

/-- A name in a statement, with the quote that delimits it if one does. -/
structure Name where
  /-- The name without its quotes. -/
  value : String
  /-- The delimiting quote. -/
  quote : Option Char
  deriving DecidableEq, Repr, Inhabited

/-- The smallest part of a statement. -/
inductive Token where
  /-- A name or keyword. The key is the word in upper case, and empty when quotes delimit it. -/
  | word (name : Name) (key : String)
  /-- A number as it is written; `long` marks a suffix. -/
  | number (digits : String) (long : Bool)
  /-- A string between single quotes. -/
  | string (value : String)
  /-- A string between single quotes behind a mark. -/
  | marked (mark value : String)
  /-- A string between dollar signs, with a tag in each of them. -/
  | dollar (tag value : String)
  /-- A place for a value that is given later. -/
  | placeholder (text : String)
  /-- An operator, a bracket or a separator. -/
  | sign (text : String)
  deriving DecidableEq, Repr, Inhabited

namespace Token

/-- The token as an error message quotes it. -/
def text : Token → String
  | word ⟨value, none⟩ _ => value
  | word ⟨value, some quote⟩ _ => String.singleton quote ++ value ++ String.singleton quote
  | number digits long => digits ++ if long then "L" else ""
  | string value => "'" ++ value ++ "'"
  | marked mark value => mark ++ "'" ++ value ++ "'"
  | dollar tag value => "$" ++ tag ++ "$" ++ value ++ "$" ++ tag ++ "$"
  | placeholder text => text
  | sign text => text

/-- The word in upper case that the token is, if it is one without quotes. -/
def key : Token → String
  | word _ key => key
  | _ => ""

end Token

/-- A token at its place. -/
structure Lexeme where
  /-- The token. -/
  token : Token
  /-- The place of its first character. -/
  position : Position
  deriving DecidableEq, Repr, Inhabited

end Sql

end FromClause
