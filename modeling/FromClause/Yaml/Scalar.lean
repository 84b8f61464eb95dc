import FromClause.Text.Digits
import FromClause.Yaml.Glyph
import FromClause.Yaml.Token
/-!
# Reading scalars

A scalar may go on over several lines. Then the blanks at the ends of its lines do not count, a single line
break counts as a space, and of several line breaks the first does not count.
-/

namespace FromClause

namespace Yaml

/-! ## Gaps -/

/-- What stands between two words of a scalar. -/
inductive Gap where
  /-- Blanks on one line. -/
  | blanks (chars : List Char)
  /-- At least one line break. The first one is missing when a backslash takes it away. -/
  | breaks (first : Option Char) (more : List Char)
  deriving DecidableEq, Repr

namespace Gap

/-- No gap at all. -/
def none : Gap := blanks []

/-- Whether a line ends in the gap. -/
def isBroken : Gap → Bool
  | blanks _ => false
  | breaks .. => true

/-- Whether there is no gap. -/
def isEmpty : Gap → Bool
  | blanks chars => chars.isEmpty
  | breaks .. => false

/-- The gap with one more blank or line break. -/
def add (c : Char) : Gap → Gap
  | blanks chars => if isBreak c then breaks (some c) [] else blanks (chars ++ [c])
  | breaks first more => breaks first (if isBreak c then more ++ [c] else more)

/-- What the gap contributes to the text of a scalar. -/
def text : Gap → List Char
  | blanks chars => chars
  | breaks (some '\n') [] => [' ']
  | breaks (some '\n') more => more
  | breaks first more => first.toList ++ more

end Gap

/-! ## Plain scalars -/

/-- The mark of a document boundary at the front of a text: at the beginning of a line, with a space behind
it. -/
def documentMark? : List Glyph → Option (Token × List Glyph)
  | a :: b :: c :: rest =>
    if a.column = 0 && a.char = b.char && b.char = c.char && atSpace rest then
      if a.char = '-' then some (.documentStart, rest)
      else if a.char = '.' then some (.documentEnd, rest)
      else none
    else none
  | _ => none

/-- The characters that structure a collection in brackets. -/
def isFlowSign (c : Char) : Bool := c = ',' || c = '[' || c = ']' || c = '\x7b' || c = '\x7d'

/-- The text of a plain scalar that is read, whether a line break follows it, and what else does. -/
structure PlainRead where
  /-- The text. -/
  text : List Char
  /-- Whether the space behind it has a line break. -/
  broken : Bool
  /-- What follows that space. -/
  rest : List Glyph

/-- The rest of a plain scalar, behind `text` and a gap. In brackets it ends in front of a sign; elsewhere it
ends in front of a line that is not indented as far as `floor`. -/
def readPlain (flow : Bool) (floor : Nat) (text : List Char) (gap : Gap) :
    List Glyph → Option PlainRead
  | [] => some ⟨text, gap.isBroken, []⟩
  | g :: rest =>
    if g.blank || g.ends then
      if gap.isBroken && g.char = '\t' && g.column < floor then none
      else readPlain flow floor text (gap.add g.char) rest
    else if !gap.isEmpty &&
        (g.char = '#' || (!flow && g.column < floor) || (documentMark? (g :: rest)).isSome) then
      some ⟨text, gap.isBroken, g :: rest⟩
    else if flow && g.char = ':' && rest.head?.any fun h => isFlowSign h.char || h.char = '?' then
      none
    else if (g.char = ':' && atSpace rest) || (flow && isFlowSign g.char) then
      some ⟨text, gap.isBroken, g :: rest⟩
    else readPlain flow floor (text ++ gap.text ++ [g.char]) .none rest

/-! ## Quoted scalars -/

/-- How far the reading of an escaped character has come. -/
inductive Escape where
  /-- The character behind the backslash is next. -/
  | begun
  /-- So many digits of a code are missing, with the value of those in front of them. -/
  | code (missing value : Nat)
  deriving DecidableEq, Repr

/-- The character that a letter stands for behind a backslash. -/
def escaped? : Char → Option Char
  | '0' => some '\x00'
  | 'a' => some '\x07'
  | 'b' => some '\x08'
  | 't' | '\t' => some '\t'
  | 'n' => some '\n'
  | 'v' => some '\x0b'
  | 'f' => some '\x0c'
  | 'r' => some '\r'
  | 'e' => some '\x1b'
  | ' ' => some ' '
  | '"' => some '"'
  | '/' => some '/'
  | '\\' => some '\\'
  | 'N' => some '\u0085'
  | '_' => some '\u00a0'
  | 'L' => some '\u2028'
  | 'P' => some '\u2029'
  | _ => none

/-- The number of digits of the code behind a letter. -/
def codeLength? : Char → Option Nat
  | 'x' => some 2
  | 'u' => some 4
  | 'U' => some 8
  | _ => none

/-- The character with the given code. -/
def charOfCode? (code : Nat) : Option Char :=
  if code.isValidChar then some (Char.ofNat code) else none

/-- The rest of a scalar between double quotes, behind `text` and a gap, up to its closing quote. -/
def readDouble (text : List Char) (gap : Gap) :
    Option Escape → List Glyph → Option (List Char × List Glyph)
  | _, [] => none
  | some (.code missing value), g :: rest => do
    let value := 16 * value + (← Text.hexDigit? g.char)
    if missing ≤ 1 then readDouble (text ++ [← charOfCode? value]) .none none rest
    else readDouble text .none (some (.code (missing - 1) value)) rest
  | some .begun, g :: rest =>
    if g.ends then readDouble text (.breaks none []) none rest
    else
      match codeLength? g.char with
      | some length => readDouble text .none (some (.code length 0)) rest
      | none => do readDouble (text ++ [← escaped? g.char]) .none none rest
  | none, g :: rest =>
    if (documentMark? (g :: rest)).isSome then none
    else if g.blank || g.ends then readDouble text (gap.add g.char) none rest
    else if g.char = '"' then some (text ++ gap.text, rest)
    else if g.char = '\\' then readDouble (text ++ gap.text) .none (some .begun) rest
    else readDouble (text ++ gap.text ++ [g.char]) .none none rest

/-- The rest of a scalar between single quotes, behind `text` and a gap, up to its closing quote. Two quotes in
a row stand for one. -/
def readSingle (text : List Char) (gap : Gap) : List Glyph → Option (List Char × List Glyph)
  | [] => none
  | [g] => if g.char = '\'' then some (text ++ gap.text, []) else none
  | g :: h :: rest =>
    if (documentMark? (g :: h :: rest)).isSome then none
    else if g.blank || g.ends then readSingle text (gap.add g.char) (h :: rest)
    else if g.char = '\'' then
      if h.char = '\'' then readSingle (text ++ gap.text ++ ['\'']) .none rest
      else some (text ++ gap.text, h :: rest)
    else readSingle (text ++ gap.text ++ [g.char]) .none (h :: rest)

end Yaml

end FromClause
