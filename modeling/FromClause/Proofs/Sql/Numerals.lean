import FromClause.Proofs.Data.Outcome
import FromClause.Sql.Lexer
import FromClause.Text.Digits
/-!
# Numerals

How a number is written in a statement: digits, perhaps with a point before, behind or among them, and perhaps with
an exponent. Every number among the tokens of a text is written so (`isNumeral_of_lex`). A numeral has no blanks,
quotes or brackets in it and starts with a digit or a point, so it carries no sign.

A whole number is written by its digits, and read back from them (`wholeNumber?_toDigits`).
-/

namespace FromClause

/-! ## Whole numbers -/

namespace Text

variable {cs : List Char}

theorem digit?_of_isDigit {c : Char} (h : c.isDigit = true) : digit? 10 c = some (c.toNat - '0'.toNat) := by
  have hlt : c.toNat - '0'.toNat < 10 := by
    obtain ⟨-, hle⟩ := Char.isDigit_iff_toNat.1 h
    have hzero : '0'.toNat = 48 := rfl
    have hnine : '9'.toNat = 57 := rfl
    omega
  rw [digit?, hexDigit?, if_pos h, Option.filter_some, if_pos (decide_eq_true hlt)]

/-- Digits are read from left to right, each one ten times the value of the next. -/
theorem foldlM_digits (h : ∀ c ∈ cs, c.isDigit = true) (n : Nat) :
    cs.foldlM (fun n c => (digit? 10 c).map (10 * n + ·)) n = some (Nat.ofDigitChars 10 cs n) := by
  induction cs generalizing n with
  | nil => rfl
  | cons c cs ih =>
    obtain ⟨hc, hcs⟩ := List.forall_mem_cons.1 h
    rw [List.foldlM_cons, digit?_of_isDigit hc, Nat.ofDigitChars_cons]
    exact ih hcs _

theorem isDigit_of_mem_toDigits (n : Nat) : ∀ c ∈ Nat.toDigits 10 n, c.isDigit = true :=
  fun _ hc => Nat.isDigit_of_mem_toDigits (by decide) (by decide) hc

/-- Digits, one at least, are read as a whole number. -/
theorem wholeNumber?_of_digits (hne : cs ≠ []) (h : ∀ c ∈ cs, c.isDigit = true) :
    wholeNumber? 10 cs = some (Nat.ofDigitChars 10 cs 0) := by
  have hread := foldlM_digits h 0
  obtain ⟨c, cs, rfl⟩ := List.exists_cons_of_ne_nil hne
  exact hread

theorem isDigit_of_digit? {c : Char} {n : Nat} (h : digit? 10 c = some n) : c.isDigit = true := by
  obtain ⟨hread, hlt⟩ := Option.filter_eq_some_iff.1 h
  by_contra hdigit
  rw [hexDigit?, if_neg hdigit] at hread
  -- a letter counts for ten at least
  have hge : 10 ≤ n := by
    split at hread
    · cases hread
      exact Nat.le_add_left _ _
    · split at hread
      · cases hread
        exact Nat.le_add_left _ _
      · cases hread
  exact absurd (of_decide_eq_true hlt) (Nat.not_lt.2 hge)

/-- What is read from left to right as a number is digits. -/
theorem isDigit_of_foldlM {n m : Nat}
    (h : cs.foldlM (fun n c => (digit? 10 c).map (10 * n + ·)) n = some m) : ∀ c ∈ cs, c.isDigit = true := by
  induction cs generalizing n with
  | nil => exact List.forall_mem_nil _
  | cons c cs ih =>
    rw [List.foldlM_cons] at h
    obtain ⟨k, hk, h⟩ := Option.bind_eq_some_iff.1 h
    obtain ⟨value, hvalue, -⟩ := Option.map_eq_some_iff.1 hk
    exact List.forall_mem_cons.2 ⟨isDigit_of_digit? hvalue, ih h⟩

/-- **What is read as a whole number**: digits, one at least, and nothing else. -/
theorem wholeNumber?_eq_some {n : Nat} :
    wholeNumber? 10 cs = some n ↔ cs ≠ [] ∧ (∀ c ∈ cs, c.isDigit = true) ∧ Nat.ofDigitChars 10 cs 0 = n := by
  constructor
  · intro h
    have hne : cs ≠ [] := by
      rintro rfl
      cases h
    obtain ⟨c, rest, rfl⟩ := List.exists_cons_of_ne_nil hne
    have hdigits : ∀ d ∈ c :: rest, d.isDigit = true := isDigit_of_foldlM h
    rw [wholeNumber?_of_digits hne hdigits, Option.some_inj] at h
    exact ⟨hne, hdigits, h⟩
  · rintro ⟨hne, hdigits, rfl⟩
    exact wholeNumber?_of_digits hne hdigits

/-- A whole number may be read without a sign, -/
theorem integer?_of_wholeNumber? {n : Nat} (h : wholeNumber? 10 cs = some n) : integer? cs = some n := by
  obtain ⟨-, hdigits, -⟩ := wholeNumber?_eq_some.1 h
  unfold integer?
  split
  next => cases hdigits '+' List.mem_cons_self
  next => cases hdigits '-' List.mem_cons_self
  next => exact congrArg (Option.map Int.ofNat) h

/-- and behind a minus sign. -/
theorem integer?_of_minus {n : Nat} (h : wholeNumber? 10 cs = some n) : integer? ('-' :: cs) = some (-(n : Int)) := by
  rw [integer?, h, Option.map_some]

/-- **A whole number is read back from its digits.** -/
theorem wholeNumber?_toDigits (n : Nat) : wholeNumber? 10 (Nat.toDigits 10 n) = some n := by
  rw [wholeNumber?_of_digits Nat.toDigits_ne_nil (isDigit_of_mem_toDigits n), Nat.ofDigitChars_ten_toDigits]

end Text

namespace Sql

/-- Some characters that are all digits. -/
def AllDigits (cs : List Char) : Prop := ∀ c ∈ cs, c.isDigit = true

/-- An exponent: the letter for it, perhaps a sign, and a digit at least. -/
def IsExponent (cs : List Char) : Prop :=
  ∃ letter sign digits, cs = letter :: (sign ++ digits) ∧ (letter = 'e' ∨ letter = 'E') ∧
    (sign = [] ∨ sign = ['+'] ∨ sign = ['-']) ∧ digits ≠ [] ∧ AllDigits digits

/-- **A number as it is written in a statement.** -/
structure IsNumeral (written : String) : Prop where
  /-- It has digits, a point among them if there is one, and an exponent if there is one. -/
  parts : ∃ whole point fraction exponent, written.toList = whole ++ point ++ fraction ++ exponent ∧
    AllDigits whole ∧ (point = [] ∨ point = ['.']) ∧ AllDigits fraction ∧ whole ++ fraction ≠ [] ∧
    (exponent = [] ∨ IsExponent exponent)

/-- The characters that numerals are made of. -/
def inNumeral (c : Char) : Bool := c.isDigit || "+-.Ee".toList.contains c

section Numerals

variable {cs : List Char}

theorem AllDigits.inNumeral (h : AllDigits cs) : ∀ c ∈ cs, inNumeral c = true := by
  intro c hc
  rw [Sql.inNumeral, h c hc, Bool.true_or]

theorem IsExponent.inNumeral (h : IsExponent cs) : ∀ c ∈ cs, inNumeral c = true := by
  obtain ⟨letter, sign, digits, rfl, hletter, hsign, -, hdigits⟩ := h
  rw [List.forall_mem_cons, List.forall_mem_append]
  refine ⟨?_, ?_, hdigits.inNumeral⟩
  · rcases hletter with rfl | rfl <;> rfl
  · rcases hsign with rfl | rfl | rfl <;> simp [Sql.inNumeral]

namespace IsNumeral

variable {written : String}

theorem inNumeral (h : IsNumeral written) : ∀ c ∈ written.toList, inNumeral c = true := by
  obtain ⟨whole, point, fraction, exponent, heq, hwhole, hpoint, hfraction, -, hexponent⟩ := h.parts
  rw [heq, List.forall_mem_append, List.forall_mem_append, List.forall_mem_append]
  refine ⟨⟨⟨hwhole.inNumeral, ?_⟩, hfraction.inNumeral⟩, ?_⟩
  · rcases hpoint with rfl | rfl <;> simp [Sql.inNumeral]
  · rcases hexponent with rfl | hexponent
    · exact List.forall_mem_nil _
    · exact hexponent.inNumeral

/-- A numeral starts with a digit or a point. -/
theorem exists_head (h : IsNumeral written) :
    ∃ c rest, written.toList = c :: rest ∧ (c.isDigit = true ∨ c = '.') := by
  obtain ⟨whole, point, fraction, exponent, heq, hwhole, hpoint, hfraction, hne, -⟩ := h.parts
  cases whole with
  | cons c whole => exact ⟨c, _, heq, .inl (hwhole c List.mem_cons_self)⟩
  | nil =>
    rcases hpoint with rfl | rfl
    · cases fraction with
      | nil => exact absurd rfl hne
      | cons c fraction => exact ⟨c, _, heq, .inl (hfraction c List.mem_cons_self)⟩
    · exact ⟨'.', _, heq, .inr rfl⟩

end IsNumeral

/-- The digits of a whole number are a numeral. -/
theorem isNumeral_toDigits (n : Nat) : IsNumeral (String.ofList (Nat.toDigits 10 n)) := by
  have hdigits : AllDigits (Nat.toDigits 10 n) := Text.isDigit_of_mem_toDigits n
  refine ⟨Nat.toDigits 10 n, [], [], [], ?_, hdigits, .inl rfl, List.forall_mem_nil _, ?_, .inl rfl⟩
  · simp
  · simp [Nat.toDigits_ne_nil]

end Numerals

/-! ## Numbers among tokens -/

section Lexer

variable {d : Dialect} {cs rest : List Char} {digits : String} {long : Bool}

theorem allDigits_readWhile (cs : List Char) : AllDigits (readWhile Char.isDigit cs).1 :=
  List.all_eq_true.1 List.all_takeWhile

/-- What is read as an exponent is one, if it is anything at all. -/
theorem isExponent_readExponent (cs : List Char) :
    (readExponent cs).1 = [] ∨ IsExponent (readExponent cs).1 := by
  unfold readExponent
  split
  next letter rest =>
    split
    next hletter =>
      dsimp only
      split
      next => exact .inl rfl
      next digits behind hne hread =>
        have hdigits : AllDigits digits := by
          have hfst : _ = digits := congrArg Prod.fst hread
          rw [← hfst]
          exact allDigits_readWhile _
        refine .inr ⟨letter, _, digits, rfl, hletter, ?_, hne, hdigits⟩
        -- the sign is what stands behind the letter, if that is one
        split
        next sign rest =>
          split
          next hsign =>
            rcases hsign with rfl | rfl
            · exact .inr (.inl rfl)
            · exact .inr (.inr rfl)
          next => exact .inl rfl
        next => exact .inl rfl
    next => exact .inl rfl
  next => exact .inl rfl

/-- Digits with or without a point, and what is read as an exponent, make a numeral. -/
theorem isNumeral_ofList {whole point fraction behind : List Char} (hwhole : AllDigits whole)
    (hpoint : point = [] ∨ point = ['.']) (hfraction : AllDigits fraction)
    (hne : ¬(whole.isEmpty && fraction.isEmpty) = true) :
    IsNumeral (String.ofList (whole ++ point ++ fraction ++ (readExponent behind).1)) := by
  have happend : whole ++ fraction ≠ [] := by
    intro hnil
    obtain ⟨rfl, rfl⟩ := List.append_eq_nil_iff.1 hnil
    exact hne rfl
  exact ⟨whole, point, fraction, (readExponent behind).1, String.toList_ofList, hwhole, hpoint, hfraction,
    happend, isExponent_readExponent behind⟩

/-- **What is read as a number is a numeral.** -/
theorem isNumeral_of_numberHead {afterWord : Bool}
    (h : numberHead afterWord cs = .token (.number digits long) rest) : IsNumeral digits := by
  have hwhole := allDigits_readWhile cs
  unfold numberHead at h
  cases hread : readWhile Char.isDigit cs with
  | mk whole behind =>
  rw [hread] at hwhole
  simp only [hread] at h
  split at h
  next => cases h
  next =>
    -- with a point behind the first digits, and without one
    split at h
    all_goals
      split at h
      next => split at h <;> cases h
      next =>
        split at h
        next => cases h
        next hne =>
          split at h
          all_goals
            cases h
            exact isNumeral_ofList hwhole (by simp) (allDigits_readWhile _) hne

/-- A head is no number. -/
def Head.NoNumber (head : Head) : Prop := ∀ digits long rest, head ≠ .token (.number digits long) rest

theorem noNumber_stringHead (d : Dialect) {token : String → Token} (cs : List Char)
    (htoken : ∀ value digits long, token value ≠ .number digits long) : (stringHead d token cs).NoNumber := by
  intro digits long rest h
  unfold stringHead at h
  split at h
  next value behind _ => exact htoken _ _ _ (Head.token.inj h).1
  next => cases h

theorem noNumber_wordHead (d : Dialect) (c : Char) (cs : List Char) : (wordHead d c cs).NoNumber := by
  have marked : ∀ d mark cs, (stringHead d (.marked mark) cs).NoNumber :=
    fun d mark cs => noNumber_stringHead d cs fun _ _ _ h => by cases h
  intro digits long rest h
  unfold wordHead at h
  dsimp only at h
  split at h
  -- a marked string, one that the dialect may not have, or a word
  all_goals
    first
    | exact marked _ _ _ _ _ _ h
    | split at h
      · exact marked _ _ _ _ _ _ h
      · cases h
    | cases h

theorem noNumber_dollarHead (cs : List Char) : (dollarHead cs).NoNumber := by
  intro digits long rest h
  unfold dollarHead at h
  dsimp only at h
  split at h
  next => split at h <;> cases h
  next => cases h

theorem noNumber_readSign (d : Dialect) (c : Char) (cs : List Char) :
    (Head.token (readSign d c cs).1 (readSign d c cs).2).NoNumber := by
  intro digits long rest h
  unfold readSign at h
  split at h
  next => cases h
  next => cases h
  next => split at h <;> cases h

/-- **A number at the head of a text is a numeral.** -/
theorem isNumeral_of_readHead {afterWord : Bool} {c : Char}
    (h : readHead d afterWord c cs = .token (.number digits long) rest) : IsNumeral digits := by
  unfold readHead at h
  split at h
  next => cases h
  split at h
  next => exact absurd h (noNumber_wordHead d c cs _ _ _)
  split at h
  next => exact absurd h (noNumber_stringHead d _ (fun _ _ _ h => by cases h) _ _ _)
  split at h
  next => split at h <;> cases h
  split at h
  next => exact isNumeral_of_numberHead h
  split at h
  next => exact absurd h (noNumber_dollarHead cs _ _ _)
  split at h
  next => cases h
  -- signs and comments are left
  dsimp only at h
  split at h
  next => cases h
  next => split at h <;> cases h
  next =>
    split at h
    next => cases h
    next => exact absurd h (noNumber_readSign d _ _ _ _ _)
  next =>
    split at h
    next => cases h
    next => exact absurd h (noNumber_readSign d _ _ _ _ _)
  next => exact absurd h (noNumber_readSign d _ _ _ _ _)

/-- **Every number among the tokens of a text is a numeral.** -/
theorem isNumeral_of_lexFrom {fuel : Nat} {afterWord : Bool} {position : Position} {lexemes : List Lexeme}
    (h : lexFrom d fuel afterWord position cs = .ok lexemes) :
    ∀ l ∈ lexemes, ∀ digits long, l.token = .number digits long → IsNumeral digits := by
  induction fuel generalizing afterWord position cs lexemes with
  | zero =>
    cases h
    exact List.forall_mem_nil _
  | succ fuel ih =>
    cases cs with
    | nil =>
      cases h
      exact List.forall_mem_nil _
    | cons c rest =>
      unfold lexFrom at h
      cases hhead : readHead d afterWord c rest with
      | fault reason left =>
        simp only [hhead] at h
        cases h
      | blank left =>
        simp only [hhead] at h
        exact ih h
      | token token left =>
        simp only [hhead] at h
        obtain ⟨behind, hbehind, rfl⟩ := map_eq_ok.1 h
        refine List.forall_mem_cons.2 ⟨?_, ih hbehind⟩
        intro digits long htoken
        exact isNumeral_of_readHead (hhead.trans (congrArg (Head.token · left) htoken))

/-- The same for a whole text. -/
theorem isNumeral_of_lex {text : String} {lexemes : List Lexeme} (h : lex d text = .ok lexemes) :
    ∀ l ∈ lexemes, ∀ digits long, l.token = .number digits long → IsNumeral digits :=
  isNumeral_of_lexFrom h

end Lexer

end Sql

end FromClause
