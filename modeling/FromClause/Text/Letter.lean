import FromClause.Text.LetterTable
/-!
# Letters

Which characters are letters: the Unicode property Alphabetic.
-/

namespace FromClause

namespace Text

/-- Whether a code point lies in one of the ranges. -/
def inRanges (ranges : List (Nat × Nat)) (code : Nat) : Bool :=
  ranges.any fun range => range.1 ≤ code && code ≤ range.2

/-- The characters with the Unicode property Alphabetic. -/
def isLetter (c : Char) : Bool :=
  if c.toNat < 128 then c.isAlpha else inRanges letterRanges c.toNat

end Text

end FromClause
