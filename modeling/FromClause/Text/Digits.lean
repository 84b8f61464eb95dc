/-!
# Digits

Whole numbers in a base of up to sixteen, read from their digits.
-/

namespace FromClause

namespace Text

/-- The value of a character as a hexadecimal digit. -/
def hexDigit? (c : Char) : Option Nat :=
  if c.isDigit then some (c.toNat - '0'.toNat)
  else if 'a' ≤ c ∧ c ≤ 'f' then some (c.toNat - 'a'.toNat + 10)
  else if 'A' ≤ c ∧ c ≤ 'F' then some (c.toNat - 'A'.toNat + 10)
  else none

/-- The value of a character as a digit of the given base. -/
def digit? (base : Nat) (c : Char) : Option Nat := (hexDigit? c).filter (· < base)

/-- The number that digits spell, if there is at least one and nothing else. -/
def wholeNumber? (base : Nat) : List Char → Option Nat
  | [] => none
  | digits => digits.foldlM (fun n c => (digit? base c).map (base * n + ·)) 0

/-- The whole number that decimal digits spell, perhaps with a sign in front of them. -/
def integer? : List Char → Option Int
  | '+' :: digits => (wholeNumber? 10 digits).map Int.ofNat
  | '-' :: digits => (wholeNumber? 10 digits).map fun n : Nat => -(n : Int)
  | digits => (wholeNumber? 10 digits).map Int.ofNat

end Text

end FromClause
