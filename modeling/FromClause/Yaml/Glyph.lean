/-!
# Texts with places

In YAML the column of a character matters, so a text is read as a list of characters that know their places.
The line breaks of different systems are one character here, as they mean the same.
-/

namespace FromClause

namespace Yaml

/-- A character of a text at its place. Lines and columns are counted from zero. -/
structure Glyph where
  /-- The character. -/
  char : Char
  /-- The line. -/
  line : Nat
  /-- The column, in characters. -/
  column : Nat
  deriving DecidableEq, Repr

/-- The characters that end a line. -/
def isBreak (c : Char) : Bool :=
  c = '\n' || c = '\r' || c = '\u0085' || c = '\u2028' || c = '\u2029'

/-- The characters that separate words on a line. -/
def isBlank (c : Char) : Bool := c = ' ' || c = '\t'

/-- The characters that a text may hold. -/
def isPrintable (c : Char) : Bool :=
  c = '\t' || c = '\n' || c = '\r' || (' ' ≤ c && c ≤ '~') || c = '\u0085' ||
    (0xa0 ≤ c.toNat && c.toNat ≤ 0xfffd) || 0x10000 ≤ c.toNat

/-- How a line break is read: as a newline, except for the separators of Unicode. -/
def plainBreak (c : Char) : Char := if c = '\u2028' || c = '\u2029' then c else '\n'

/-- A text from the given place on. -/
def glyphsFrom : (line column : Nat) → List Char → List Glyph
  | _, _, [] => []
  | line, column, '\r' :: '\n' :: rest => ⟨'\n', line, column⟩ :: glyphsFrom (line + 1) 0 rest
  | line, column, c :: rest =>
    if isBreak c then ⟨plainBreak c, line, column⟩ :: glyphsFrom (line + 1) 0 rest
    else ⟨c, line, column⟩ :: glyphsFrom line (column + 1) rest

/-- The characters of a text at their places, unless one of them is a control character. -/
def glyphs? (text : String) : Option (List Glyph) :=
  if text.toList.all isPrintable then some (glyphsFrom 0 0 text.toList) else none

namespace Glyph

/-- Whether the character is blank. -/
def blank (g : Glyph) : Bool := isBlank g.char

/-- Whether the character ends its line. -/
def ends (g : Glyph) : Bool := isBreak g.char

end Glyph

/-- Whether a word ends in front of the given characters. -/
def atSpace : List Glyph → Bool
  | [] => true
  | g :: _ => g.blank || g.ends

end Yaml

end FromClause
