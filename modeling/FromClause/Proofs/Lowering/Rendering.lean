import FromClause.Logic.Supply
import FromClause.Proofs.Logic.Rendering
import FromClause.Proofs.Lowering.Language
import FromClause.Proofs.Sql.Numerals
import FromClause.Proofs.Sql.Quotes
/-!
# Conditions are told apart by their texts

The terms of a condition are variables, numbers, strings, truth values and the missing value, and all of them are
printed side by side with nothing to tell which is which but their own characters. For variables with plain names
that is enough (`Term.Legible`, `readable_legible`): a string starts with a quote, and the lexer reads it back up to
the closing one; of the words, numbers start with a digit, a point or a sign, and names end in a digit where
keywords do not (`wordUse`).

Whole numbers and other numbers share one way of writing. A number is kept as written only when it spells no whole
number in range, so no text stands for both (`toString_ne_of_decimal`).
-/

namespace FromClause

open Sql

/-! ## Strings -/

section Strings

variable {value value' : String} {cs cs' rest rest' : List Char}

/-- The characters of a string, with quotes doubled. -/
def doubled (cs : List Char) : List Char := cs.flatMap fun c => if c = '\'' then [c, c] else [c]

theorem toList_quoteString (value : String) :
    (quoteString value).toList = '\'' :: (doubled value.toList ++ ['\'']) := by
  simp [quoteString, doubled]

/-- **The lexer reads a string back**, up to the closing quote. -/
theorem readQuoted_doubled (cs : List Char) (hrest : rest.head? ≠ some '\'') :
    readQuoted '\'' (doubled cs ++ '\'' :: rest) = some (cs, rest) :=
  readQuoted_doubling hrest

theorem quoteString_append_inj (hrest : rest.head? ≠ some '\'') (hrest' : rest'.head? ≠ some '\'')
    (h : (quoteString value).toList ++ rest = (quoteString value').toList ++ rest') :
    value = value' ∧ rest = rest' := by
  simp only [toList_quoteString, List.cons_append, List.append_assoc, List.nil_append, List.cons.injEq,
    true_and] at h
  have hread := readQuoted_doubled value.toList hrest
  rw [h, readQuoted_doubled value'.toList hrest'] at hread
  obtain ⟨hvalue, hbehind⟩ := Prod.mk.inj (Option.some.inj hread)
  exact ⟨String.toList_inj.1 hvalue.symm, hbehind.symm⟩

end Strings

/-! ## Numbers -/

section Numbers

variable {negative negative' : Bool} {digits digits' : String}

/-- A whole number that is kept as one. -/
def InRange (value : Int) : Prop := minInteger ≤ value ∧ value ≤ maxInteger

instance : DecidablePred InRange := fun value =>
  inferInstanceAs (Decidable (minInteger ≤ value ∧ value ≤ maxInteger))

/-- A number as it is written, behind a minus sign or not. -/
def signed (negative : Bool) (digits : String) : String := if negative then "-" ++ digits else digits

/-- The value of a whole number, behind a minus sign or not. -/
def signedValue (negative : Bool) (n : Nat) : Int := if negative then -n else n

/-- A whole number is written by its digits, behind a minus sign if it is negative. -/
theorem exists_signed_eq_toString (value : Int) : ∃ negative n,
    toString value = signed negative (String.ofList (Nat.toDigits 10 n)) ∧ value = signedValue negative n := by
  rw [Int.toString_eq_repr, Int.repr_eq_if]
  by_cases hvalue : 0 ≤ value
  · refine ⟨false, value.toNat, ?_, (Int.toNat_of_nonneg hvalue).symm⟩
    rw [if_pos hvalue, Nat.repr_eq_ofList_toDigits]
    rfl
  · refine ⟨true, (-value).toNat, ?_, ?_⟩
    · rw [if_neg hvalue, Nat.repr_eq_ofList_toDigits]
      rfl
    · have hopposite : ((-value).toNat : Int) = -value := Int.toNat_of_nonneg (by omega)
      rw [signedValue, if_pos rfl, hopposite, Int.neg_neg]

/-- Digits are read with the sign that they are written with. -/
theorem integer?_signed {n : Nat} (h : Text.wholeNumber? 10 digits.toList = some n) :
    Text.integer? (signed negative digits).toList = some (signedValue negative n) := by
  cases negative with
  | false => exact Text.integer?_of_wholeNumber? h
  | true =>
    have htext : (signed true digits).toList = '-' :: digits.toList := String.toList_append
    rw [htext]
    exact Text.integer?_of_minus h

/-- What a number comes to: the whole number that is written, if that is kept as one, and else what is written. -/
theorem numberConstant_cases (negative : Bool) (digits : String) :
    (∃ value, Text.integer? (signed negative digits).toList = some value ∧ InRange value ∧
      numberConstant negative digits = .integer value) ∨
    numberConstant negative digits = .decimal (signed negative digits) ∧
      ∀ value, Text.integer? (signed negative digits).toList = some value → ¬InRange value := by
  unfold numberConstant
  dsimp only
  split
  next hread =>
    have hread : Text.integer? (signed negative digits).toList = none := hread
    refine .inr ⟨rfl, fun value h => ?_⟩
    rw [hread] at h
    cases h
  next value hread =>
    have hread : Text.integer? (signed negative digits).toList = some value := hread
    split
    next hrange => exact .inl ⟨value, hread, hrange, rfl⟩
    next hrange =>
      refine .inr ⟨rfl, fun value' h => ?_⟩
      obtain rfl := Option.some.inj (hread.symm.trans h)
      exact hrange

/-- A whole number is read back from its text. -/
theorem integer?_toString (value : Int) : Text.integer? (toString value).toList = some value := by
  obtain ⟨negative, n, htext, rfl⟩ := exists_signed_eq_toString value
  rw [htext]
  exact integer?_signed (by rw [String.toList_ofList, Text.wholeNumber?_toDigits])

/-- Whole numbers are told apart by their texts. -/
theorem toString_int_inj {value value' : Int} (h : toString value = toString value') : value = value' := by
  have hread := integer?_toString value
  rw [h, integer?_toString] at hread
  exact (Option.some.inj hread).symm

/-- **What is kept as written is not written like a whole number** that is kept as one. -/
theorem toString_ne_of_decimal {value : Int} {written : String} (hrange : InRange value)
    (hnone : ∀ value, Text.integer? written.toList = some value → ¬InRange value) : toString value ≠ written := by
  rintro rfl
  exact hnone value (integer?_toString value) hrange

/-- **Numbers are told apart by their texts**: numerals that come to constants with the same text come to the same
constant. -/
theorem numberConstant_text_inj
    (h : (numberConstant negative digits).text = (numberConstant negative' digits').text) :
    numberConstant negative digits = numberConstant negative' digits' := by
  rcases numberConstant_cases negative digits with ⟨value, -, hrange, heq⟩ | ⟨heq, hnone⟩ <;>
  rcases numberConstant_cases negative' digits' with ⟨value', -, hrange', heq'⟩ | ⟨heq', hnone'⟩ <;>
  rw [heq, heq'] at h ⊢
  · exact congrArg Constant.integer (toString_int_inj h)
  · exact absurd h (toString_ne_of_decimal hrange hnone')
  · exact absurd h.symm (toString_ne_of_decimal hrange' hnone)
  · exact congrArg Constant.decimal h

/-- Every number is printed as a numeral, behind a sign or not. -/
theorem exists_numeral_text (negative : Bool) (hdigits : IsNumeral digits) : ∃ sign numeral, IsNumeral numeral ∧
    (numberConstant negative digits).text = signed sign numeral := by
  rcases numberConstant_cases negative digits with ⟨value, -, -, heq⟩ | ⟨heq, -⟩
  · obtain ⟨sign, m, htext, -⟩ := exists_signed_eq_toString value
    exact ⟨sign, _, isNumeral_toDigits m, by rw [heq]; exact htext⟩
  · exact ⟨negative, digits, hdigits, by rw [heq]; rfl⟩

end Numbers

/-! ## Names -/

/-- No digit is a letter. -/
theorem Text.isLetter_of_isDigit {c : Char} (h : c.isDigit = true) : isLetter c = false := by
  obtain ⟨-, hle⟩ := Char.isDigit_iff_toNat.1 h
  have hnine : c.val.toNat ≤ 57 := hle
  have hbelow : ∀ bound : UInt32, 57 < bound.toNat → ¬bound ≤ c.val := by
    intro bound hbound hge
    have hge : bound.toNat ≤ c.val.toNat := UInt32.le_iff_toNat_le.1 hge
    omega
  -- the letters of either case come behind the digits
  have hupper : c.isUpper = false := decide_eq_false fun h => hbelow 'A'.val (by decide) h.1
  have hlower : c.isLower = false := Bool.and_eq_false_iff.2 (.inl (decide_eq_false (hbelow 'a'.val (by decide))))
  have hascii : c.toNat < 128 := Nat.lt_of_le_of_lt hle (by decide)
  rw [isLetter, if_pos hascii]
  exact Bool.or_eq_false_iff.2 ⟨hupper, hlower⟩

/-- The characters that a plain name may start with: letters and the underscore. -/
def opensName (c : Char) : Bool := Text.isLetter c || c = '_'

/-- The characters of plain names. -/
def inName (c : Char) : Bool := opensName c || c.isDigit

/-- **A plain name**: a letter or underscore, followed by letters, digits and underscores, and a digit at the end. -/
structure Variable.IsPlain (v : Variable) : Prop where
  /-- It starts with a letter or an underscore. -/
  first : v.name.toList.head?.any opensName = true
  /-- It has letters, digits and underscores only. -/
  all : v.name.toList.all inName = true
  /-- It ends in a digit. -/
  last : v.name.toList.getLast?.any Char.isDigit = true

instance : DecidablePred Variable.IsPlain := fun v =>
  decidable_of_iff (v.name.toList.head?.any opensName = true ∧ v.name.toList.all inName = true ∧
    v.name.toList.getLast?.any Char.isDigit = true)
    ⟨fun h => ⟨h.1, h.2.1, h.2.2⟩, fun h => ⟨h.first, h.all, h.last⟩⟩

/-! ## Words -/

/-- The characters that do not stand in words: the blank, the brackets and the quote. -/
def separators : List Char := [' ', '(', ')', '\'']

/-- Whether a character may stand in a word. -/
def inWord (c : Char) : Bool := !separators.contains c

/-- **A word**: characters without separators, one at least. -/
def IsWord (w : List Char) : Prop := w ≠ [] ∧ w.all inWord = true

/-- What a word is for. -/
inductive Use where
  /-- It spells a number. -/
  | number
  /-- It is the name of a variable. -/
  | name
  /-- It stands for a truth value or the missing value. -/
  | keyword
  deriving DecidableEq

/-- The characters that a number may start with. -/
def opensNumber (c : Char) : Bool := c.isDigit || c = '-' || c = '.'

/-- What a word is for, told by its first and its last character. -/
def wordUse (w : List Char) : Use :=
  if w.head?.any opensNumber then .number
  else if w.getLast?.any Char.isDigit then .name
  else .keyword

section Words

variable {v : Variable} {w w' rest rest' : List Char} {negative : Bool} {digits : String} {t u : Term}

/-- A word ends where a blank or a closing bracket stands. -/
theorem takeWhile_word (hw : IsWord w) (hrest : Formula.Stops rest) : (w ++ rest).takeWhile inWord = w := by
  have hstop : rest.takeWhile inWord = [] := by
    cases rest with
    | nil => rfl
    | cons c rest => rcases hrest c rfl with rfl | rfl <;> rfl
  rw [List.takeWhile_append_of_pos (List.all_eq_true.1 hw.2), hstop, List.append_nil]

theorem word_append_inj (hw : IsWord w) (hw' : IsWord w') (hrest : Formula.Stops rest)
    (hrest' : Formula.Stops rest') (h : w ++ rest = w' ++ rest') : w = w' ∧ rest = rest' := by
  have hword := takeWhile_word hw hrest
  rw [h, takeWhile_word hw' hrest'] at hword
  subst hword
  exact ⟨rfl, List.append_cancel_left h⟩

/-- A test that no separator passes is passed by characters of words only. -/
theorem all_inWord_of_test {p : Char → Bool} (hp : separators.any p = false) {cs : List Char}
    (h : cs.all p = true) : cs.all inWord = true := by
  rw [List.all_eq_true] at h ⊢
  intro c hc
  by_contra hseparator
  have hmem : c ∈ separators := by simpa [inWord] using hseparator
  rw [List.any_eq_false] at hp
  exact hp c hmem (h c hc)

/-- No number starts like a name. -/
theorem opensNumber_of_opensName {c : Char} (hc : opensName c = true) : opensNumber c = false := by
  have hdigit : c.isDigit = false := by
    by_contra hne
    rw [Bool.not_eq_false] at hne
    rw [opensName, Text.isLetter_of_isDigit hne, Bool.false_or, decide_eq_true_eq] at hc
    subst hc
    cases hne
  have hminus : c ≠ '-' := by
    rintro rfl
    cases hc
  have hpoint : c ≠ '.' := by
    rintro rfl
    cases hc
  simp [opensNumber, hdigit, hminus, hpoint]

/-- Plain names are words, and their use shows. -/
theorem Variable.IsPlain.word (h : v.IsPlain) : IsWord v.name.toList ∧ wordUse v.name.toList = .name := by
  obtain ⟨c, hhead, hc⟩ := (Option.any_eq_true _ _).1 h.first
  have hne : v.name.toList ≠ [] := by
    intro hnil
    rw [hnil] at hhead
    cases hhead
  refine ⟨⟨hne, all_inWord_of_test (by decide) h.all⟩, ?_⟩
  simp [wordUse, hhead, opensNumber_of_opensName hc, h.last]

/-- So are numbers. -/
theorem numberConstant_word (negative : Bool) (hdigits : IsNumeral digits) :
    IsWord (numberConstant negative digits).text.toList ∧
      wordUse (numberConstant negative digits).text.toList = .number := by
  obtain ⟨sign, numeral, hnumeral, heq⟩ := exists_numeral_text negative hdigits
  obtain ⟨c, rest, hcons, hc⟩ := hnumeral.exists_head
  have hall : numeral.toList.all inWord = true :=
    all_inWord_of_test (by decide) (List.all_eq_true.2 hnumeral.inNumeral)
  have hopens : opensNumber c = true := by
    rcases hc with hc | rfl
    · simp [opensNumber, hc]
    · rfl
  rw [heq]
  cases sign with
  | false =>
    refine ⟨⟨hcons ▸ List.cons_ne_nil c rest, hall⟩, ?_⟩
    have hhead : numeral.toList.head?.any opensNumber = true := by
      rw [hcons]
      exact hopens
    exact if_pos hhead
  | true =>
    have htext : (signed true numeral).toList = '-' :: numeral.toList := by
      simp [signed]
    rw [htext]
    refine ⟨⟨List.cons_ne_nil _ _, ?_⟩, if_pos rfl⟩
    rw [List.all_cons, hall]
    rfl

end Words

/-! ## Terms -/

/-- **A legible term**: a variable with a plain name, or what a literal comes to. -/
inductive Term.Legible : Term → Prop
  /-- A variable. -/
  | var {v : Variable} : v.IsPlain → Legible (.var v)
  /-- A number. -/
  | number {negative : Bool} {digits : String} : IsNumeral digits →
    Legible (.const (numberConstant negative digits))
  /-- A string. -/
  | string {value : String} : Legible (.const (.string value))
  /-- A truth value. -/
  | boolean {value : Bool} : Legible (.const (.boolean value))
  /-- The missing value. -/
  | null : Legible (.const .null)

namespace Term

variable {t u : Term} {rest rest' : List Char}

/-- What a term is printed as a word for. Strings are not printed as words. -/
def use : Term → Option Use
  | .var _ => some .name
  | .const (.integer _) => some .number
  | .const (.decimal _) => some .number
  | .const (.string _) => none
  | .const (.boolean _) => some .keyword
  | .const .null => some .keyword

theorem use_number (negative : Bool) (digits : String) :
    (Term.const (numberConstant negative digits)).use = some .number := by
  rcases numberConstant_cases negative digits with ⟨n, -, -, heq⟩ | ⟨heq, -⟩ <;> rw [heq] <;> rfl

theorem keyword_word : ∀ w ∈ ["TRUE", "FALSE", "NULL"], IsWord w.toList ∧ wordUse w.toList = .keyword := by
  have hall : ∀ w ∈ ["TRUE", "FALSE", "NULL"], w.toList ≠ [] ∧ w.toList.all inWord = true ∧
      wordUse w.toList = .keyword := by
    decide
  exact fun w hw => ⟨⟨(hall w hw).1, (hall w hw).2.1⟩, (hall w hw).2.2⟩

/-- **A legible term that is no string is printed as a word, and its use shows.** -/
theorem Legible.word (h : t.Legible) : (∃ value, t = .const (.string value)) ∨
    IsWord t.text.toList ∧ t.use = some (wordUse t.text.toList) := by
  have keyword : ∀ {c : Constant}, c.text ∈ ["TRUE", "FALSE", "NULL"] → (Term.const c).use = some .keyword →
      IsWord c.text.toList ∧ (Term.const c).use = some (wordUse c.text.toList) := by
    intro c hc huse
    obtain ⟨hword, hkeyword⟩ := keyword_word _ hc
    exact ⟨hword, huse.trans (congrArg some hkeyword.symm)⟩
  cases h with
  | var hv =>
    obtain ⟨hword, huse⟩ := hv.word
    exact .inr ⟨hword, congrArg some huse.symm⟩
  | @number negative digits hdigits =>
    obtain ⟨hword, huse⟩ := numberConstant_word negative hdigits
    exact .inr ⟨hword, (use_number negative digits).trans (congrArg some huse.symm)⟩
  | string => exact .inl ⟨_, rfl⟩
  | @boolean value => exact .inr (keyword (by cases value <;> decide) rfl)
  | null => exact .inr (keyword (by decide) rfl)

/-- **Terms with the same use are told apart by their texts.** -/
theorem Legible.eq_of_text_eq (ht : t.Legible) (hu : u.Legible) (huse : t.use = u.use) (h : t.text = u.text) :
    t = u := by
  cases ht with
  | var =>
    cases hu with
    | var => exact congrArg Term.var (Variable.ext h)
    | number =>
      rw [use_number] at huse
      cases huse
    | string | boolean | null => cases huse
  | number hdigits =>
    rw [use_number] at huse
    cases hu with
    | number hdigits' => exact congrArg Term.const (numberConstant_text_inj h)
    | var | string | boolean | null => cases huse
  | @string value =>
    cases hu with
    | @string value' =>
      have hquoted : (quoteString value).toList ++ [] = (quoteString value').toList ++ [] :=
        congrArg (String.toList · ++ []) h
      rw [(quoteString_append_inj (by decide) (by decide) hquoted).1]
    | number =>
      rw [use_number] at huse
      cases huse
    | var | boolean | null => cases huse
  | @boolean value =>
    cases hu with
    | boolean => rw [Formula.truthWord_inj h]
    | null => cases value <;> exact absurd h (by decide)
    | number =>
      rw [use_number] at huse
      cases huse
    | var | string => cases huse
  | null =>
    cases hu with
    | null => rfl
    | @boolean value => cases value <;> exact absurd h (by decide)
    | number =>
      rw [use_number] at huse
      cases huse
    | var | string => cases huse

theorem toList_text_string (value : String) :
    (Term.const (.string value)).text.toList = '\'' :: (doubled value.toList ++ ['\'']) :=
  toList_quoteString value

/-- A word starts with none of the characters that separate words. -/
theorem word_append_ne_cons {w : List Char} {c : Char} (hw : IsWord w) (hc : inWord c = false) :
    w ++ rest ≠ c :: rest' := by
  intro h
  obtain ⟨first, cs, rfl⟩ := List.exists_cons_of_ne_nil hw.1
  obtain rfl : first = c := (List.cons.inj h).1
  rw [List.all_eq_true.1 hw.2 first List.mem_cons_self] at hc
  cases hc

/-- The word for negation is no legible term. -/
theorem Legible.text_ne_not (ht : t.Legible) : t.text ≠ "NOT" := by
  intro h
  rcases ht.word with ⟨value, rfl⟩ | ⟨-, huse⟩
  · have hlist := congrArg String.toList h
    rw [toList_text_string] at hlist
    cases hlist
  · have hkeyword : t.use = some .keyword := by
      rw [huse, h]
      decide
    cases ht with
    | number =>
      rw [use_number] at hkeyword
      cases hkeyword
    | var | string => cases hkeyword
    | @boolean value => cases value <;> exact absurd h (by decide)
    | null => exact absurd h (by decide)

/-- **Legible terms can be read off a text.** -/
theorem Legible.text_append_inj (ht : t.Legible) (hu : u.Legible) (hrest : Formula.Stops rest)
    (hrest' : Formula.Stops rest') (h : t.text.toList ++ rest = u.text.toList ++ rest') :
    t = u ∧ rest = rest' := by
  have hquote : ∀ {rest}, Formula.Stops rest → rest.head? ≠ some '\'' := by
    intro rest hrest hhead
    rcases hrest _ hhead with h | h <;> cases h
  rcases ht.word with ⟨value, rfl⟩ | ⟨hword, huse⟩ <;> rcases hu.word with ⟨value', rfl⟩ | ⟨hword', huse'⟩
  · obtain ⟨rfl, hbehind⟩ := quoteString_append_inj (hquote hrest) (hquote hrest') h
    exact ⟨rfl, hbehind⟩
  · rw [toList_text_string] at h
    exact absurd h.symm (word_append_ne_cons hword' rfl)
  · rw [toList_text_string] at h
    exact absurd h (word_append_ne_cons hword rfl)
  · obtain ⟨htext, hbehind⟩ := word_append_inj hword hword' hrest hrest' h
    have hsame : t.use = u.use := by
      rw [huse, huse', htext]
    exact ⟨ht.eq_of_text_eq hu hsame (String.toList_inj.1 htext), hbehind⟩

end Term

/-- **Legible terms can be read off a text, and so can the formulas over them.** -/
theorem readable_legible : Formula.Readable Term.Legible where
  append_inj ht hu hrest hrest' h := ht.text_append_inj hu hrest hrest' h
  ne_bracket {t rest rest'} ht h := by
    have htext : t.text.toList ++ rest = '(' :: rest' := h
    rcases ht.word with ⟨value, rfl⟩ | ⟨hword, -⟩
    · rw [Term.toList_text_string] at htext
      cases htext
    · exact absurd htext (Term.word_append_ne_cons hword rfl)
  ne_not {t rest rest'} ht hrest h := by
    have htext : t.text.toList ++ rest = "NOT".toList ++ ' ' :: rest' := h
    rcases ht.word with ⟨value, rfl⟩ | ⟨hword, -⟩
    · rw [Term.toList_text_string] at htext
      cases htext
    · have hnot : IsWord "NOT".toList := ⟨by decide, by decide⟩
      have hstops : Formula.Stops (' ' :: rest') := by simp [Formula.Stops]
      obtain ⟨heq, -⟩ := word_append_inj hword hnot hrest hstops htext
      exact ht.text_ne_not (String.toList_inj.1 heq)
  truth value := ⟨_, .boolean, rfl⟩

/-! ## Conditions -/

/-- The number that an expression is, behind a minus sign or not. -/
def Sql.Expr.number? : Expr → Option String
  | .nested inner => inner.number?
  | .literal (.number digits _) | .unary .minus (.literal (.number digits _)) => some digits
  | _ => none

/-- The numbers among the terms of a condition. -/
def Sql.Expr.numbers (e : Expr) : List String := e.operands.filterMap Expr.number?

section Conditions

variable {folding : Folding} {source : Expression} {e : Expr} {t : Term}

theorem legible_of_literalConstant? {value : Literal} {c : Constant}
    (hnumber : ∀ digits, (Expr.literal value).number? = some digits → IsNumeral digits)
    (h : literalConstant? value = some c) : (Term.const c).Legible := by
  cases value <;> cases h
  case number digits long => exact .number (hnumber digits rfl)
  case string => exact .string
  case doubleQuoted => exact .string
  case boolean => exact .boolean
  case null => exact .null

/-- A term of a condition is a variable of the source, or what a literal comes to. -/
theorem exists_var_or_legible_of_conditionTerm (hnumber : ∀ digits, e.number? = some digits → IsNumeral digits)
    (h : conditionTerm folding source e = .ok t) :
    (∃ v ∈ source.vars, t = .var v) ∨ ∃ c, t = .const c ∧ (Term.const c).Legible := by
  fun_induction conditionTerm folding source e with
  | case1 inner ih => exact ih hnumber h
  | case2 names =>
    obtain ⟨r, -, h⟩ := bind_eq_ok.1 h
    obtain ⟨v, hv, h⟩ := bind_eq_ok.1 h
    cases h
    exact .inl ⟨v, Expression.mem_vars.2 (.inr ⟨r, Expression.resolve_eq_ok.1 hv⟩), rfl⟩
  | case3 value c hc =>
    cases h
    exact .inr ⟨c, rfl, legible_of_literalConstant? hnumber hc⟩
  | case4 value hc => cases h
  | case5 digits long =>
    cases h
    exact .inr ⟨_, rfl, .number (hnumber digits rfl)⟩
  | case6 => cases h

/-- **The terms of a condition are legible**, over a source whose variables have plain names. -/
theorem legible_conditionTerm (hvars : ∀ v ∈ source.vars, v.IsPlain)
    (hnumber : ∀ digits, e.number? = some digits → IsNumeral digits)
    (h : conditionTerm folding source e = .ok t) : t.Legible := by
  rcases exists_var_or_legible_of_conditionTerm hnumber h with ⟨v, hv, rfl⟩ | ⟨c, rfl, hc⟩
  · exact .var (hvars v hv)
  · exact hc

/-- **The atoms of a condition are built from tests of legible terms.** -/
theorem SqlCondition.built_legible {condition : SqlCondition} {atoms : List Atom}
    (hvars : ∀ v ∈ source.vars, v.IsPlain) (hnumbers : ∀ digits ∈ condition.expr.numbers, IsNumeral digits)
    (h : JoinCondition.atoms condition source = .ok atoms) : ∀ a ∈ atoms, Formula.Built Term.Legible a := by
  have hterms : ∀ x ∈ condition.expr.operands, ∀ t, conditionTerm condition.folding source x = .ok t →
      t.Legible := by
    intro x hx t ht
    refine legible_conditionTerm hvars (fun digits hdigits => ?_) ht
    exact hnumbers digits (List.mem_filterMap.2 ⟨x, hx, hdigits⟩)
  exact (builtFrom_conditionAtoms hterms h).2

/-- **The text of an atom says which atom it is.** Take two ON expressions over a source whose variables have plain
names, with numbers as the lexer yields them. In the atoms that they come to, every conjunction and disjunction has
two parts at least; and two of these atoms that are printed alike are the same. -/
theorem SqlCondition.eq_of_text_atoms_eq (source : Expression) (condition condition' : SqlCondition)
    (atoms atoms' : List Atom) (hvars : ∀ v ∈ source.vars, v.IsPlain)
    (hnumbers : ∀ digits ∈ condition.expr.numbers ++ condition'.expr.numbers, IsNumeral digits)
    (h : JoinCondition.atoms condition source = .ok atoms) (h' : JoinCondition.atoms condition' source = .ok atoms') :
    (∀ a ∈ atoms ++ atoms', ∀ n ∈ a.branchings, 2 ≤ n) ∧
      ∀ a ∈ atoms ++ atoms', ∀ b ∈ atoms ++ atoms', a.text = b.text → a = b := by
  have hbuilt : ∀ a ∈ atoms ++ atoms', Formula.Built Term.Legible a := by
    rw [List.forall_mem_append] at hnumbers ⊢
    exact ⟨built_legible hvars hnumbers.1 h, built_legible hvars hnumbers.2 h'⟩
  refine ⟨fun a ha => (hbuilt a ha).two_le_branchings, fun a ha b hb htext => ?_⟩
  exact (hbuilt a ha).eq_of_text_eq readable_legible (hbuilt b hb) htext

end Conditions

namespace Sample

/-- `salary.amount BETWEEN -1 AND 1.5e3 OR s.name = ') OR (''TRUE'''`. -/
def paidOrQuoted : SqlCondition where
  expr := .binary .or
    (.between false (columnOf salary.exposed.table amount) (.unary .minus (.literal (.number "1" false)))
      (.literal (.number "1.5e3" false)))
    (.binary (.compare .eq) (columnOf staff.exposed.table name) (.literal (.string ") OR ('TRUE'")))
  folding := .upper

/-- Numbers, and brackets and words in a string, do not get in the way. -/
theorem text_atoms_paidStaff : ∃ atoms atoms',
    JoinCondition.atoms paidOrQuoted paidStaff = .ok atoms ∧ JoinCondition.atoms namedAndPaid paidStaff = .ok atoms' ∧
    atoms.map Formula.text = ["((v2 >= -1 AND v2 <= 1.5e3) OR v4 = ') OR (''TRUE''')"] ∧
    (∀ a ∈ atoms ++ atoms', ∀ n ∈ a.branchings, 2 ≤ n) ∧
    ∀ a ∈ atoms ++ atoms', ∀ b ∈ atoms ++ atoms', a.text = b.text → a = b := by
  have htexts : (JoinCondition.atoms paidOrQuoted paidStaff).map (List.map Formula.text) =
      .ok ["((v2 >= -1 AND v2 <= 1.5e3) OR v4 = ') OR (''TRUE''')"] := by
    decide +kernel
  obtain ⟨atoms, h, htext⟩ := map_eq_ok.1 htexts
  obtain ⟨atoms', h'⟩ := isOk_iff.1
    (by decide +kernel : (JoinCondition.atoms namedAndPaid paidStaff).isOk = true)
  have hone : IsNumeral "1" :=
    ⟨['1'], [], [], [], by decide, by simp [AllDigits], .inl rfl, List.forall_mem_nil _, by decide, .inl rfl⟩
  have hexponent : IsExponent ['e', '3'] :=
    ⟨'e', [], ['3'], rfl, .inl rfl, .inl rfl, by decide, by simp [AllDigits]⟩
  have hdecimal : IsNumeral "1.5e3" :=
    ⟨['1'], ['.'], ['5'], ['e', '3'], by decide, by simp [AllDigits], .inr rfl, by simp [AllDigits], by decide,
      .inr hexponent⟩
  have hnumbers : ∀ digits ∈ paidOrQuoted.expr.numbers ++ namedAndPaid.expr.numbers, IsNumeral digits := by
    have hlist : paidOrQuoted.expr.numbers ++ namedAndPaid.expr.numbers = ["1", "1.5e3", "1"] := by
      decide +kernel
    rw [hlist]
    simp [hone, hdecimal]
  exact ⟨atoms, atoms', h, h', htext, SqlCondition.eq_of_text_atoms_eq paidStaff paidOrQuoted namedAndPaid atoms atoms'
    (by decide +kernel) hnumbers h h'⟩

end Sample

end FromClause
