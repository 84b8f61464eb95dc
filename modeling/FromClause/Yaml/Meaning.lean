import FromClause.Text.Digits
import FromClause.Yaml.Token
/-!
# Meanings of scalars

What a scalar means where any value may stand. A quoted scalar is a string. A plain one may be the missing
value, a truth value or a number, and is a string otherwise.
-/

namespace FromClause

namespace Yaml

/-- What a scalar means. -/
inductive Meaning where
  /-- The missing value. -/
  | null
  /-- A truth value. -/
  | boolean (value : Bool)
  /-- A whole number of at most 64 bits. -/
  | integer (value : Int)
  /-- A whole number of more than 64 and at most 128 bits. No value can hold it. -/
  | oversized
  /-- A number that is not whole, or too large for 128 bits. -/
  | decimal
  /-- A string. -/
  | string (value : String)
  deriving DecidableEq, Repr

/-! ## Numbers -/

/-- The base that two characters in front of the digits stand for. -/
def baseOf? : Char → Option Nat
  | 'x' => some 16
  | 'o' => some 8
  | 'b' => some 2
  | _ => none

/-- The whole number that unsigned characters spell, perhaps in a base of their own. -/
def natural? : List Char → Option Nat
  | '0' :: c :: rest =>
    match baseOf? c with
    | some base => Text.wholeNumber? base rest
    | none => none
  | digits => Text.wholeNumber? 10 digits

/-- The whole number that characters spell. -/
def integer? : List Char → Option Int
  | '+' :: rest => (natural? rest).map Int.ofNat
  | '-' :: rest => (natural? rest).map fun n => -(n : Int)
  | digits => (natural? digits).map Int.ofNat

/-- A decimal number: a whole number times a power of ten. -/
structure Decimal where
  /-- The whole number. -/
  digits : Nat
  /-- The exponent of ten. -/
  exponent : Int
  deriving DecidableEq, Repr

/-- The decimal number that unsigned characters spell: digits with at most one point among them, and perhaps
an exponent. -/
def decimal? (cs : List Char) : Option Decimal := do
  let whole := cs.takeWhile Char.isDigit
  let rest := cs.dropWhile Char.isDigit
  let (fraction, rest) := match rest with
    | '.' :: rest => (rest.takeWhile Char.isDigit, rest.dropWhile Char.isDigit)
    | _ => ([], rest)
  let digits ← Text.wholeNumber? 10 (whole ++ fraction)
  let exponent ← match rest with
    | [] => some 0
    | e :: rest => if e = 'e' || e = 'E' then Text.integer? rest else none
  return ⟨digits, exponent - fraction.length⟩

/-- The least number that is too large for 64 bits of floating point: it lies half a unit above the largest
one, and a half is rounded away from it. -/
def floatBound : Nat := Nat.pow 2 1024 - Nat.pow 2 970

/-- Whether the number is less than `floatBound`, which has 309 digits. -/
def Decimal.isFinite (d : Decimal) : Bool :=
  let length : Int := (Nat.toDigits 10 d.digits).length + d.exponent
  if d.digits = 0 || length ≤ 308 then true
  else if 309 < length then false
  else d.digits * Nat.pow 10 d.exponent.toNat < floatBound * Nat.pow 10 (-d.exponent).toNat

/-- The words for the numbers that are not finite, without their sign. -/
def isInfinity (s : String) : Bool := s = ".inf" || s = ".Inf" || s = ".INF"

/-- Whether characters spell a number that is not finite, or a decimal number. -/
def isDecimal (text : String) : Bool :=
  let unsigned := match text.toList with
    | '+' :: rest | '-' :: rest => rest
    | cs => cs
  isInfinity (String.ofList unsigned) || text = ".nan" || text = ".NaN" || text = ".NAN" ||
    (decimal? unsigned).any Decimal.isFinite

/-- Whether characters are digits, more than one, with a zero in front. They make no number. -/
def isPaddedDigits (text : String) : Bool :=
  match text.toList with
  | '+' :: '0' :: rest | '-' :: '0' :: rest | '0' :: rest => !rest.isEmpty && rest.all Char.isDigit
  | _ => false

/-! ## Plain scalars -/

/-- The words for the missing value. -/
def isNull (text : String) : Bool :=
  text = "" || text = "~" || text = "null" || text = "Null" || text = "NULL"

/-- The truth value that a word stands for. -/
def boolean? : String → Option Bool
  | "true" | "True" | "TRUE" => some true
  | "false" | "False" | "FALSE" => some false
  | _ => none

/-- Whether a whole number has at most `bits` bits, with its sign if it is negative. -/
def hasBits (bits : Nat) (n : Int) : Bool := -Int.pow 2 (bits - 1) ≤ n && n < Int.pow 2 bits

/-- What a plain scalar means. -/
def plainMeaning (text : String) : Meaning :=
  if isNull text then .null
  else
    match boolean? text with
    | some value => .boolean value
    | none =>
      if isPaddedDigits text then .string text
      else
        match (integer? text.toList).filter (hasBits 128) with
        | some n => if hasBits 64 n then .integer n else .oversized
        | none => if isDecimal text then .decimal else .string text

/-- What a scalar means. -/
def Scalar.meaning (s : Scalar) : Meaning := if s.plain then plainMeaning s.text else .string s.text

end Yaml

end FromClause
