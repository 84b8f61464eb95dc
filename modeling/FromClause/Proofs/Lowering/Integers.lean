import FromClause.Proofs.Lowering.Rendering
import Mathlib.Data.List.Induction
import Mathlib.Data.Nat.Digits.Defs
/-!
# Whole numbers in conditions

A whole number in an ON expression is written by digits, as many as one likes, and the sign in front of them belongs to
the expression and not to the number. What it comes to is settled by its value alone (`conditionTerm_of_writes`): the
value itself if that is in range, whatever the number of digits and of zeros in front, and else the digits as written.
The range has one number more below zero than above, so the sign counts before the range is looked at.
-/

namespace FromClause

open Sql

/-! ## What digits stand for -/

/-- The number that digits stand for: the last one counts once, and each one before it ten times the one behind. -/
def decimalValue (digits : List Char) : Nat := Nat.ofDigits 10 (digits.map fun c => c.toNat - '0'.toNat).reverse

/-- Reading digits from left to right gives the number that they stand for. -/
theorem ofDigitChars_eq_decimalValue (digits : List Char) : Nat.ofDigitChars 10 digits 0 = decimalValue digits := by
  -- the last digit is the first one of the value, so the induction goes from the back
  induction digits using List.reverseRecOn with
  | nil => rfl
  | append_singleton digits c ih =>
    rw [Nat.ofDigitChars_append, ih, decimalValue, decimalValue, List.map_append, List.reverse_append]
    exact Nat.add_comm _ _

/-! ## Constants -/

section Constants

variable {negative : Bool} {digits : String}

/-- The value of digits behind a minus sign or not. -/
def writtenValue (negative : Bool) (digits : String) : Int := signedValue negative (decimalValue digits.toList)

/-- A whole number comes to its value if that is in range, and else to what is written. -/
theorem numberConstant_of_allDigits (hne : digits ≠ "") (hdigits : AllDigits digits.toList) :
    (InRange (writtenValue negative digits) ∧
      numberConstant negative digits = .integer (writtenValue negative digits)) ∨
    ¬InRange (writtenValue negative digits) ∧ numberConstant negative digits = .decimal (signed negative digits) := by
  have hne : digits.toList ≠ [] := fun h => hne (String.toList_inj.1 h)
  have hread : Text.wholeNumber? 10 digits.toList = some (decimalValue digits.toList) := by
    rw [Text.wholeNumber?_of_digits hne hdigits, ofDigitChars_eq_decimalValue]
  have hwritten : Text.integer? (signed negative digits).toList = some (writtenValue negative digits) :=
    integer?_signed hread
  rcases numberConstant_cases negative digits with ⟨value, hvalue, hrange, heq⟩ | ⟨heq, hnone⟩
  · obtain rfl := Option.some.inj (hwritten.symm.trans hvalue)
    exact .inl ⟨hrange, heq⟩
  · exact .inr ⟨hnone _ hwritten, heq⟩

/-- **It is kept as a number exactly if its value is in range**, and then as that value. -/
theorem numberConstant_eq_integer (hne : digits ≠ "") (hdigits : AllDigits digits.toList) {value : Int} :
    numberConstant negative digits = .integer value ↔ value = writtenValue negative digits ∧ InRange value := by
  rcases numberConstant_of_allDigits hne hdigits with ⟨hrange, heq⟩ | ⟨hrange, heq⟩
  · rw [heq, Constant.integer.injEq]
    constructor
    · rintro rfl
      exact ⟨rfl, hrange⟩
    · exact fun h => h.1.symm
  · rw [heq]
    constructor
    · exact nofun
    · rintro ⟨rfl, h⟩
      exact absurd h hrange

/-- It is kept as written exactly if its value is out of range. -/
theorem numberConstant_eq_decimal (hne : digits ≠ "") (hdigits : AllDigits digits.toList) {text : String} :
    numberConstant negative digits = .decimal text ↔
      text = signed negative digits ∧ ¬InRange (writtenValue negative digits) := by
  rcases numberConstant_of_allDigits hne hdigits with ⟨hrange, heq⟩ | ⟨hrange, heq⟩
  · rw [heq]
    exact ⟨nofun, fun h => absurd hrange h.2⟩
  · rw [heq, Constant.decimal.injEq]
    exact ⟨fun h => ⟨h.symm, hrange⟩, fun h => h.1.symm⟩

/-- The number next above the range is out of it, but its opposite is the least one in range. -/
theorem numberConstant_of_next (hne : digits ≠ "") (hdigits : AllDigits digits.toList)
    (hnext : decimalValue digits.toList = maxInteger + 1) :
    numberConstant negative digits = if negative then .integer minInteger else .decimal digits := by
  cases negative with
  | false =>
    refine (numberConstant_eq_decimal hne hdigits).2 ⟨rfl, fun h => ?_⟩
    have hle : (decimalValue digits.toList : Int) ≤ maxInteger := h.2
    omega
  | true =>
    refine (numberConstant_eq_integer hne hdigits).2 ⟨?_, by decide⟩
    have hopposite : minInteger = -(maxInteger + 1) := by decide
    rw [hopposite, ← hnext]
    rfl

end Constants

/-! ## Terms -/

/-- **A whole number in an expression**: digits, perhaps with a minus sign in front, and brackets around them. -/
inductive Sql.Expr.Writes (digits : String) : Bool → Expr → Prop
  /-- Digits alone. -/
  | plain {long : Bool} : Writes digits false (.literal (.number digits long))
  /-- Digits behind a minus sign. -/
  | minus {long : Bool} : Writes digits true (.unary .minus (.literal (.number digits long)))
  /-- Brackets around them. -/
  | nested {negative : Bool} {e : Expr} : Writes digits negative e → Writes digits negative (.nested e)

section Terms

variable {negative negative' : Bool} {digits digits' : String} {e e' : Expr}

/-- The sign goes with the digits, and the brackets count for nothing. -/
theorem Sql.Expr.Writes.conditionTerm_eq (h : Expr.Writes digits negative e) (folding : Folding)
    (source : Expression) : conditionTerm folding source e = .ok (.const (numberConstant negative digits)) := by
  induction h with
  | plain => rfl
  | minus => rfl
  | nested _ ih => exact ih

/-- **Whole numbers keep their values.** Digits in an ON expression, with a minus sign in front or without one, come to
a constant over every source. It is a number exactly if the value is in range, and then it is that value; otherwise it
is what is written. So the least number in range is kept although its opposite is not, and digits with the same value in
range come to the same term. -/
theorem conditionTerm_of_writes (hwrites : Expr.Writes digits negative e) (hne : digits ≠ "")
    (hdigits : AllDigits digits.toList) (hwrites' : Expr.Writes digits' negative' e') (hne' : digits' ≠ "")
    (hdigits' : AllDigits digits'.toList) (folding folding' : Folding) (source source' : Expression) :
    (∃ constant, conditionTerm folding source e = .ok (.const constant) ∧
      (∀ value, constant = .integer value ↔ value = writtenValue negative digits ∧ InRange value) ∧
      (∀ text, constant = .decimal text ↔
        text = signed negative digits ∧ ¬InRange (writtenValue negative digits)) ∧
      (decimalValue digits.toList = maxInteger + 1 →
        constant = if negative then .integer minInteger else .decimal digits)) ∧
    (writtenValue negative digits = writtenValue negative' digits' → InRange (writtenValue negative digits) →
      conditionTerm folding source e = conditionTerm folding' source' e') := by
  refine ⟨⟨numberConstant negative digits, hwrites.conditionTerm_eq folding source, fun value => ?_, fun text => ?_,
    numberConstant_of_next hne hdigits⟩, fun hvalue hrange => ?_⟩
  · exact numberConstant_eq_integer hne hdigits
  · exact numberConstant_eq_decimal hne hdigits
  · have hconstant := (numberConstant_eq_integer hne hdigits).2 ⟨rfl, hrange⟩
    have hconstant' := (numberConstant_eq_integer hne' hdigits').2 ⟨hvalue, hrange⟩
    rw [hwrites.conditionTerm_eq, hwrites'.conditionTerm_eq, hconstant, hconstant']

end Terms

namespace Sample

/-- The digits of the number next above the range, with zeros in front. -/
def nextDigits : String := "0009223372036854775808"

/-- `(-0009223372036854775808)`. -/
def leastNumber : Expr := .nested (.unary .minus (.literal (.number nextDigits false)))

/-- The number is out of range as it stands. Behind a minus sign it is kept, with zeros in front or without them. -/
theorem conditionTerm_leastNumber : nextDigits ≠ "" ∧ AllDigits nextDigits.toList ∧
    conditionTerm .upper paidStaff (.literal (.number nextDigits false)) = .ok (.const (.decimal nextDigits)) ∧
    conditionTerm .upper paidStaff leastNumber = .ok (.const (.integer minInteger)) ∧
    conditionTerm .upper paidStaff leastNumber = conditionTerm .upper paidStaff
      (.unary .minus (.literal (.number "9223372036854775808" true))) := by
  have hne : nextDigits ≠ "" := by decide
  have hdigits : AllDigits nextDigits.toList := by simp [nextDigits, AllDigits]
  have hnext : decimalValue nextDigits.toList = maxInteger + 1 := by decide +kernel
  have hother : AllDigits "9223372036854775808".toList := by simp [AllDigits]
  have hplain : Expr.Writes nextDigits false (.literal (.number nextDigits false)) := .plain
  have hleast : Expr.Writes nextDigits true leastNumber := .nested .minus
  obtain ⟨⟨constant, hterm, -, -, hkept⟩, -⟩ :=
    conditionTerm_of_writes hplain hne hdigits hplain hne hdigits .upper .upper paidStaff paidStaff
  obtain ⟨⟨constant', hterm', -, -, hkept'⟩, hsame⟩ :=
    conditionTerm_of_writes hleast hne hdigits .minus (by decide) hother .upper .upper paidStaff paidStaff
  rw [hkept hnext] at hterm
  rw [hkept' hnext] at hterm'
  exact ⟨hne, hdigits, hterm, hterm', hsame (by decide +kernel) (by decide +kernel)⟩

end Sample

end FromClause
