import FromClause.Proofs.Lowering.Integers
import FromClause.Proofs.Semantics.Truth
import Mathlib.Algebra.Field.Rat
import Mathlib.Data.List.TakeWhile
/-!
# What literals mean

The value of a literal in a database, read off what is written. Strings and truth values stand for themselves, and the
missing value is missing. A number is a whole one if it is written by digits alone; these count by their positions, and
a minus sign in front of them takes the opposite (`Sql.wholeValue?`). The constants of a condition have the values of
the literals that they come from (`Database.constantValue_numberConstant`, `Database.constantValue_literalConstant?`).

A database is free to tell `1.5` from `1.50`, and so it has the value of any other number from the way it is written.
One that goes by the value of numbers finds the value of every numeral, whatever its form and its size
(`Database.ByValue.number_eq`).
-/

namespace FromClause

open Sql

/-! ## Numbers -/

namespace Sql

/-- Digits, one at least. -/
def IsWhole (cs : List Char) : Prop := cs ≠ [] ∧ AllDigits cs

instance : DecidablePred IsWhole := fun cs => inferInstanceAs (Decidable (cs ≠ [] ∧ ∀ c ∈ cs, c.isDigit = true))

/-- The whole number that is written with a sign of its own, which no number of a text has. -/
def ownSigned? : List Char → Option Int
  | '+' :: digits => if IsWhole digits then some (decimalValue digits) else none
  | '-' :: digits => if IsWhole digits then some (-decimalValue digits) else none
  | _ => none

/-- **The whole number that is written**, behind a minus sign of the expression or not: that of the digits, or its
opposite. -/
def wholeValue? (negative : Bool) (written : List Char) : Option Int :=
  if IsWhole written then some (signedValue negative (decimalValue written))
  else if negative then none
  else ownSigned? written

end Sql

namespace Database

variable {V : Type} (D : Database V) {negative : Bool} {digits : String} {value : Literal}

/-- The value of a number: that of the whole number, if it is one that constants have, and else of what is written. -/
def number (negative : Bool) (digits : String) : V :=
  match (wholeValue? negative digits.toList).filter (InRange ·) with
  | some value => D.constant (.integer value)
  | none => D.constant (.decimal (signed negative digits))

/-- **The value of a literal**, if it is of a kind that has one. -/
def literal? : Literal → Option (Cell V)
  | .number digits _ => some (some (D.number false digits))
  | .string value | .doubleQuoted value => some (some (D.constant (.string value)))
  | .boolean value => some (some (D.constant (.boolean value)))
  | .null => some none
  | .other _ => none

end Database

section Numbers

variable {negative : Bool} {digits : String} {cs : List Char}

/-- Digits are read as the number that they stand for, and nothing else is read. -/
theorem wholeNumber?_eq : Text.wholeNumber? 10 cs = if IsWhole cs then some (decimalValue cs) else none := by
  split
  next h => rw [Text.wholeNumber?_of_digits h.1 h.2, ofDigitChars_eq_decimalValue]
  next h =>
    refine Option.eq_none_iff_forall_ne_some.2 fun n hn => h ?_
    obtain ⟨hne, hdigits, -⟩ := Text.wholeNumber?_eq_some.1 hn
    exact ⟨hne, hdigits⟩

/-- A whole number with a sign of its own is read as it is. -/
theorem integer?_eq_ownSigned? (h : ¬IsWhole cs) : Text.integer? cs = ownSigned? cs := by
  rw [Text.integer?.eq_def]
  split
  next digits =>
    rw [wholeNumber?_eq, ownSigned?]
    split <;> rfl
  next digits =>
    rw [wholeNumber?_eq, ownSigned?]
    split <;> rfl
  next hplus hminus =>
    rw [wholeNumber?_eq, if_neg h, Option.map_none, ownSigned?]
    · exact hplus
    · exact hminus

/-- **A number is read as the whole number that it is**, with the sign of the expression put in front. -/
theorem integer?_signed_eq : Text.integer? (signed negative digits).toList = wholeValue? negative digits.toList := by
  rw [wholeValue?]
  split
  next h =>
    refine integer?_signed ?_
    rw [wholeNumber?_eq, if_pos h]
  next h =>
    cases negative with
    | false => exact integer?_eq_ownSigned? h
    | true =>
      have htext : (signed true digits).toList = '-' :: digits.toList := String.toList_append
      rw [htext, Text.integer?, wholeNumber?_eq, if_neg h, if_pos rfl, Option.map_none]

end Numbers

/-! ## Constants -/

section Constants

variable {V : Type} {D : Database V} {negative : Bool} {digits : String}

/-- **The constant for a number has the value of the number.** -/
theorem Database.constantValue_numberConstant :
    D.constantValue (numberConstant negative digits) = some (D.number negative digits) := by
  rw [number, ← integer?_signed_eq]
  rcases numberConstant_cases negative digits with ⟨value, hvalue, hrange, heq⟩ | ⟨heq, hnone⟩
  · rw [heq, hvalue, Option.filter_some, if_pos (decide_eq_true hrange)]
    rfl
  · have hfilter : (Text.integer? (signed negative digits).toList).filter (InRange ·) = none :=
      Option.filter_eq_none_iff.2 fun value hvalue => by simpa using hnone value hvalue
    rw [heq, hfilter]
    rfl

/-- **The constant for a literal has the value of the literal**, and a literal without a constant has none. -/
theorem Database.constantValue_literalConstant? (value : Literal) :
    (literalConstant? value).map D.constantValue = D.literal? value := by
  cases value with
  | number digits long => exact congrArg some constantValue_numberConstant
  | string value => rfl
  | doubleQuoted value => rfl
  | boolean value => rfl
  | null => rfl
  | other text => rfl

end Constants

/-! ## Numbers by value -/

namespace Sql

/-- The digits behind a point, and what stands behind them. -/
def fraction : List Char → List Char × List Char
  | '.' :: cs => (cs.takeWhile Char.isDigit, cs.dropWhile Char.isDigit)
  | cs => ([], cs)

/-- The number that an exponent spells. -/
def exponentValue : List Char → Int
  | _ :: '+' :: digits => decimalValue digits
  | _ :: '-' :: digits => -decimalValue digits
  | _ :: digits => decimalValue digits
  | [] => 0

/-- **The value of a numeral**: that of its digits, with the point where it stands moved by the exponent. -/
def numeralValue (cs : List Char) : ℚ :=
  let (behind, exponent) := fraction (cs.dropWhile Char.isDigit)
  decimalValue (cs.takeWhile Char.isDigit ++ behind) * 10 ^ (exponentValue exponent - behind.length)

/-- The value of a numeral with or without a sign in front. -/
def signedNumeralValue : List Char → ℚ
  | '+' :: cs => numeralValue cs
  | '-' :: cs => -numeralValue cs
  | cs => numeralValue cs

/-- Digits alone have no point and no exponent. -/
theorem IsWhole.numeralValue_eq {cs : List Char} (h : IsWhole cs) : numeralValue cs = decimalValue cs := by
  have htake : cs.takeWhile Char.isDigit = cs := List.takeWhile_eq_self_iff.2 h.2
  have hdrop : cs.dropWhile Char.isDigit = [] := List.dropWhile_eq_nil_iff.2 h.2
  simp [numeralValue, htake, hdrop, fraction, exponentValue]

end Sql

/-- **A database that goes by the value of numbers**, whether they are kept as numbers or as written. -/
structure Database.ByValue {V : Type} (D : Database V) (value : ℚ → V) : Prop where
  /-- The value of a whole number. -/
  integer (n : Int) : D.constant (.integer n) = value n
  /-- The value of a number as written. -/
  decimal (written : String) : D.constant (.decimal written) = value (signedNumeralValue written.toList)

section ByValue

variable {V : Type} {D : Database V} {value : ℚ → V} {negative : Bool} {digits : String}

/-- A numeral has no sign of its own, -/
theorem Sql.IsNumeral.toList_ne_cons (h : IsNumeral digits) {sign : Char} (hsign : sign = '+' ∨ sign = '-')
    (cs : List Char) : digits.toList ≠ sign :: cs := by
  obtain ⟨c, rest, heq, hc⟩ := h.exists_head
  rw [heq]
  rintro ⟨⟩
  rcases hsign with rfl | rfl <;> rcases hc with hc | hc <;> cases hc

theorem Sql.IsNumeral.ownSigned?_eq_none (h : IsNumeral digits) : ownSigned? digits.toList = none := by
  rw [ownSigned?.eq_def]
  split
  next hplus => exact absurd hplus (h.toList_ne_cons (.inl rfl) _)
  next hminus => exact absurd hminus (h.toList_ne_cons (.inr rfl) _)
  next => rfl

/-- so only the sign in front counts. -/
theorem Sql.IsNumeral.signedNumeralValue_signed (h : IsNumeral digits) :
    signedNumeralValue (signed negative digits).toList =
      if negative then -numeralValue digits.toList else numeralValue digits.toList := by
  cases negative with
  | true =>
    have htext : (signed true digits).toList = '-' :: digits.toList := String.toList_append
    rw [htext, signedNumeralValue, if_pos rfl]
  | false =>
    have htext : (signed false digits).toList = digits.toList := rfl
    rw [htext, signedNumeralValue, if_neg Bool.false_ne_true]
    · exact h.toList_ne_cons (.inl rfl)
    · exact h.toList_ne_cons (.inr rfl)

/-- **The value of a numeral**, behind a minus sign or not, is the value of the number that it spells, in range and out
of it, with a point or an exponent and without. -/
theorem Database.ByValue.number_eq (hD : D.ByValue value) (h : IsNumeral digits) : D.number negative digits =
    value (if negative then -numeralValue digits.toList else numeralValue digits.toList) := by
  rw [number]
  split
  next n hn =>
    obtain ⟨hwritten, -⟩ := Option.filter_eq_some_iff.1 hn
    rw [wholeValue?] at hwritten
    split at hwritten
    next hwhole =>
      obtain rfl := Option.some.inj hwritten
      rw [hD.integer, hwhole.numeralValue_eq]
      cases negative with
      | true => exact congrArg value (Int.cast_neg _)
      | false => rfl
    next => rw [h.ownSigned?_eq_none, ite_self] at hwritten; cases hwritten
  next => rw [hD.decimal, h.signedNumeralValue_signed]

/-- The point and the exponent count. -/
example : numeralValue "12.50e-1".toList = 5 / 4 := by decide +kernel

end ByValue

end FromClause
