import FromClause.Proofs.Sql.Numerals
import FromClause.Sql.Parser.Statement
import Mathlib.Data.List.TakeWhile
import Mathlib.Data.Option.Basic
/-!
# Places in messages

The message of a parse error ends with the place that the error is about. What it says before may quote the text that
is parsed, and so it may say anything, the labels of a place included. The place is read back by the first occurrence of
each label (`numberAfter?_eq_some`), so it is the one at the end if no label stands before it; a label that does counts
instead, and so does the blank behind what the message says (`locate_appended`).

So an error is reported at its own place when its wording names no other (`locate_message`). A string in the text that
is parsed can name another one (`locate_quoted`).
-/

namespace FromClause

namespace Sql

/-! ## Labels -/

/-- A label stands in a text with the rest behind it, and it has not occurred before. -/
def FirstOccurrence (label text rest : List Char) : Prop :=
  ∃ before, text = before ++ label ++ rest ∧ ¬label <:+: (before ++ label).dropLast

section Labels

variable {label text rest : List Char} {c : Char}

/-- A label occurs first at the start of a text, or in what follows the first character. -/
theorem firstOccurrence_cons (hne : label ≠ []) : FirstOccurrence label (c :: text) rest ↔
    c :: text = label ++ rest ∨ ¬label <+: c :: text ∧ FirstOccurrence label text rest := by
  have hlast : ∀ before, (c :: before ++ label).dropLast = c :: (before ++ label).dropLast := fun before =>
    List.dropLast_cons_of_ne_nil (List.append_ne_nil_of_right_ne_nil before hne)
  constructor
  · rintro ⟨before, heq, hfirst⟩
    cases before with
    | nil => exact .inl heq
    | cons b before =>
      obtain ⟨rfl, rfl⟩ := List.cons.inj heq
      refine .inr ⟨fun hstart => hfirst ?_, before, rfl, fun hinfix => hfirst ?_⟩
      · -- at the start the label would end before the place where it occurs first
        have hpart : (c :: before ++ label).dropLast <+: c :: (before ++ label ++ rest) :=
          (List.dropLast_prefix _).trans (List.prefix_append (c :: before ++ label) rest)
        refine (List.prefix_of_prefix_length_le hstart hpart ?_).isInfix
        rw [List.length_dropLast, List.length_append, List.length_cons]
        omega
      · rw [hlast]
        exact hinfix.trans (List.suffix_cons c _).isInfix
  · rintro (heq | ⟨hstart, before, rfl, hfirst⟩)
    · refine ⟨[], heq, fun hinfix => ?_⟩
      have hle := hinfix.length_le
      have hpos := List.length_pos_iff.2 hne
      rw [List.nil_append, List.length_dropLast] at hle
      omega
    · refine ⟨c :: before, rfl, ?_⟩
      rw [hlast, List.infix_cons_iff, not_or]
      refine ⟨fun h => hstart (h.trans ?_), hfirst⟩
      rw [← hlast]
      exact (List.dropLast_prefix _).trans (List.prefix_append (c :: before ++ label) rest)

/-- **What is found behind a label** stands behind its first occurrence. -/
theorem afterLabel?_eq_some (hne : label ≠ []) :
    afterLabel? label text = some rest ↔ FirstOccurrence label text rest := by
  induction text with
  | nil =>
    rw [afterLabel?, if_neg (by simpa using hne)]
    refine ⟨nofun, ?_⟩
    rintro ⟨before, heq, -⟩
    simp [hne] at heq
  | cons c text ih =>
    rw [afterLabel?, firstOccurrence_cons hne]
    split
    next hprefix =>
      have hstart := List.isPrefixOf_iff_prefix.1 hprefix
      obtain ⟨tail, heq⟩ := hstart
      rw [← heq, List.drop_left, Option.some_inj, List.append_cancel_left_eq]
      exact ⟨.inl, fun h => h.resolve_right fun h => h.1 (List.prefix_append label tail)⟩
    next hprefix =>
      have hstart := mt List.isPrefixOf_iff_prefix.2 hprefix
      rw [ih, and_iff_right hstart]
      exact ⟨.inr, fun h => h.resolve_left fun heq => hstart ⟨rest, heq.symm⟩⟩

/-- A label is found in the texts in which it occurs. -/
theorem afterLabel?_eq_none (hne : label ≠ []) : afterLabel? label text = none ↔ ¬label <:+: text := by
  induction text with
  | nil =>
    rw [afterLabel?, if_neg (by simpa using hne), List.infix_nil]
    exact ⟨fun _ => hne, fun _ => rfl⟩
  | cons c text ih =>
    rw [afterLabel?, List.infix_cons_iff, not_or, ← List.isPrefixOf_iff_prefix]
    split
    next hprefix => exact ⟨nofun, fun h => absurd hprefix h.1⟩
    next hprefix => rw [ih, and_iff_right hprefix]

/-- More text behind does not change where a label occurs first. -/
theorem FirstOccurrence.append (h : FirstOccurrence label text rest) (after : List Char) :
    FirstOccurrence label (text ++ after) (rest ++ after) := by
  obtain ⟨before, rfl, hfirst⟩ := h
  exact ⟨before, List.append_assoc .., hfirst⟩

/-- A label in front of a text ends before a character that it does not have. -/
theorem prefix_of_prefix_append {after : List Char} (h : label <+: text ++ c :: after) (hc : c ∉ label) :
    label <+: text := by
  have hthrough : text ++ [c] <+: text ++ c :: after := ⟨after, by simp⟩
  have hmem : c ∈ text ++ [c] := List.mem_append_right text List.mem_cons_self
  rcases List.prefix_or_prefix_of_prefix h hthrough with hle | hle
  · rcases List.prefix_concat_iff.1 hle with rfl | hle
    · exact absurd hmem hc
    · exact hle
  · exact absurd (hle.subset hmem) hc

/-- A label that does not occur in a text is looked for behind it, if a character that it does not have keeps the two
apart. -/
theorem afterLabel?_append {after : List Char} (h : ¬label <:+: text) (hc : c ∉ label) :
    afterLabel? label (text ++ c :: after) = afterLabel? label (c :: after) := by
  induction text with
  | nil => rfl
  | cons x text ih =>
    rw [List.infix_cons_iff, not_or] at h
    have hprefix : ¬label <+: x :: (text ++ c :: after) := fun hle => h.1 (prefix_of_prefix_append hle hc)
    rw [List.cons_append, afterLabel?, if_neg (List.isPrefixOf_iff_prefix.not.2 hprefix)]
    exact ih h.2

end Labels

/-! ## Numbers behind labels -/

/-- Digits that make up a number of a place. -/
structure IsPlace (digits : List Char) : Prop where
  /-- There is a digit at least. -/
  ne_nil : digits ≠ []
  /-- There is nothing but digits. -/
  all : AllDigits digits
  /-- The number is not too large. -/
  le : Nat.ofDigitChars 10 digits 0 ≤ maxPlace

/-- **A number is the first one behind a label**: it is made up of all digits behind the first occurrence of the
label. -/
def FirstNumber (label text : List Char) (n : Nat) : Prop :=
  ∃ digits after, FirstOccurrence label text (digits ++ after) ∧ IsPlace digits ∧
    (∀ c ∈ after.head?, c.isDigit = false) ∧ Nat.ofDigitChars 10 digits 0 = n

section Numbers

variable {label text digits rest after : List Char} {c : Char} {n : Nat}

/-- Digits end at the first character that is none. -/
theorem takeWhile_isDigit (hdigits : AllDigits digits) (hafter : ∀ c ∈ after.head?, c.isDigit = false) :
    (digits ++ after).takeWhile Char.isDigit = digits := by
  rw [List.takeWhile_append_of_pos hdigits]
  cases after with
  | nil => simp
  | cons c after => rw [List.takeWhile_cons_of_neg (by simpa using hafter c rfl), List.append_nil]

/-- The number that a text starts with. -/
def leadingNumber? (text : List Char) : Option Nat := do
  let number ← Text.wholeNumber? 10 (text.takeWhile Char.isDigit)
  guard (number ≤ maxPlace)
  return number

theorem numberAfter?_of_occurrence (hne : label ≠ []) (h : FirstOccurrence label text rest) :
    numberAfter? label text = leadingNumber? rest := by
  rw [numberAfter?, (afterLabel?_eq_some hne).2 h]
  rfl

/-- The number that a text starts with is made up of all its digits in front. -/
theorem leadingNumber?_eq_some : leadingNumber? text = some n ↔
    ∃ digits after, text = digits ++ after ∧ IsPlace digits ∧ (∀ c ∈ after.head?, c.isDigit = false) ∧
      Nat.ofDigitChars 10 digits 0 = n := by
  constructor
  · intro h
    have hdigits : AllDigits (text.takeWhile Char.isDigit) := fun c hc => List.mem_takeWhile_imp hc
    obtain ⟨number, hnumber, h⟩ := Option.bind_eq_some_iff.1 h
    obtain ⟨⟨⟩, hle, h⟩ := Option.bind_eq_some_iff.1 h
    cases h
    have hne : text.takeWhile Char.isDigit ≠ [] := by
      intro hnil
      rw [hnil] at hnumber
      cases hnumber
    rw [Text.wholeNumber?_of_digits hne hdigits, Option.some_inj] at hnumber
    refine ⟨_, text.dropWhile Char.isDigit, List.takeWhile_append_dropWhile.symm, ⟨hne, hdigits, ?_⟩, ?_,
      hnumber⟩
    · rw [hnumber]
      exact (Option.guard_eq_some' ()).1 hle
    · intro c hc
      rw [← List.find?_not_eq_head?_dropWhile] at hc
      simpa using List.find?_some hc
  · rintro ⟨digits, after, rfl, ⟨hne, hdigits, hle⟩, hafter, rfl⟩
    rw [leadingNumber?, takeWhile_isDigit hdigits hafter, Text.wholeNumber?_of_digits hne hdigits]
    simp [hle]

/-- **The number behind a label** is the first one behind it. -/
theorem numberAfter?_eq_some (hne : label ≠ []) : numberAfter? label text = some n ↔ FirstNumber label text n := by
  constructor
  · intro h
    obtain ⟨rest, hrest, h⟩ := Option.bind_eq_some_iff.1 h
    obtain ⟨digits, after, rfl, hplace, hafter, hn⟩ := leadingNumber?_eq_some.1 h
    exact ⟨digits, after, (afterLabel?_eq_some hne).1 hrest, hplace, hafter, hn⟩
  · rintro ⟨digits, after, hfirst, hplace, hafter, hn⟩
    rw [numberAfter?_of_occurrence hne hfirst]
    exact leadingNumber?_eq_some.2 ⟨digits, after, rfl, hplace, hafter, hn⟩

/-- What a text starts with is settled by the part in front of a character that is no digit. -/
theorem leadingNumber?_append (hc : c.isDigit = false) : leadingNumber? (text ++ c :: after) = leadingNumber? text := by
  have htake : (text ++ c :: after).takeWhile Char.isDigit = text.takeWhile Char.isDigit := by
    rw [List.takeWhile_append, List.takeWhile_cons_of_neg (by simp [hc]), List.append_nil]
    split
    next hall => exact ((List.takeWhile_sublist _).eq_of_length hall).symm
    next => rfl
  rw [leadingNumber?, htake]
  rfl

/-- **A label in the first part of a text** counts, whatever stands behind. -/
theorem numberAfter?_append_of_occurs (hne : label ≠ []) (h : label <:+: text) (hc : c.isDigit = false) :
    numberAfter? label (text ++ c :: after) = numberAfter? label text := by
  obtain ⟨rest, hrest⟩ := Option.ne_none_iff_exists'.1 (mt (afterLabel?_eq_none hne).1 (not_not.2 h))
  have hfirst := (afterLabel?_eq_some hne).1 hrest
  rw [numberAfter?_of_occurrence hne (hfirst.append (c :: after)), numberAfter?_of_occurrence hne hfirst,
    leadingNumber?_append hc]

/-- A label that does not stand there is looked for behind. -/
theorem numberAfter?_append_of_not_occurs (h : ¬label <:+: text) (hc : c ∉ label) :
    numberAfter? label (text ++ c :: after) = numberAfter? label (c :: after) := by
  rw [numberAfter?, numberAfter?, afterLabel?_append h hc]

end Numbers

/-! ## Messages -/

/-- The label of a line. -/
def lineLabel : List Char := "Line: ".toList

/-- The label of a column. -/
def columnLabel : List Char := "Column: ".toList

/-- **A number is shown by a label** in a message that says something and names a number behind it. It is the one behind
if the label does not occur in what is said, and else the first one there. -/
inductive Shown (label said : List Char) (behind : Nat) : Nat → Prop
  /-- The label stands at the end only. -/
  | behind : ¬label <:+: said → Shown label said behind behind
  /-- The label stands in what is said. -/
  | quoted {n : Nat} : FirstNumber label said n → Shown label said behind n

section Messages

variable {label said : List Char} {reason line column : String}

/-- A message shows the number that is read behind a label. -/
theorem shown_iff {c : Char} {after : List Char} {behind n : Nat} (hne : label ≠ []) (hdigit : c.isDigit = false)
    (hc : c ∉ label) (hbehind : numberAfter? label (c :: after) = some behind) :
    numberAfter? label (said ++ c :: after) = some n ↔ Shown label said behind n := by
  by_cases h : label <:+: said
  · rw [numberAfter?_append_of_occurs hne h hdigit, numberAfter?_eq_some hne]
    refine ⟨.quoted, fun hshown => ?_⟩
    cases hshown with
    | behind hnot => exact absurd h hnot
    | quoted hfirst => exact hfirst
  · rw [numberAfter?_append_of_not_occurs h hc, hbehind, Option.some_inj]
    constructor
    · rintro rfl
      exact .behind h
    · intro hshown
      cases hshown with
      | behind => rfl
      | quoted hfirst =>
        obtain ⟨digits, after, ⟨before, rfl, -⟩, -⟩ := hfirst
        exact absurd ⟨before, digits ++ after, rfl⟩ h

/-- Digits at the end, or in front of something else, are a number. -/
theorem leadingNumber?_of_isPlace {digits after : List Char} (h : IsPlace digits)
    (hafter : ∀ c ∈ after.head?, c.isDigit = false) :
    leadingNumber? (digits ++ after) = some (Nat.ofDigitChars 10 digits 0) :=
  leadingNumber?_eq_some.2 ⟨digits, after, rfl, h, hafter, rfl⟩

/-- A message that ends with a place. -/
def appended (reason line column : String) : String := reason ++ " at Line: " ++ line ++ ", Column: " ++ column

/-- The place that it ends with, behind the first blank. -/
def ending (line column : String) : List Char :=
  'a' :: 't' :: ' ' :: (lineLabel ++ (line.toList ++ ',' :: ' ' :: (columnLabel ++ column.toList)))

/-- The blank counts to what the message says. -/
theorem toList_appended (reason line column : String) :
    (appended reason line column).toList = (reason ++ " ").toList ++ ending line column := by
  have hline : " at Line: ".toList = " ".toList ++ 'a' :: 't' :: ' ' :: lineLabel := by decide +kernel
  have hcolumn : ", Column: ".toList = ',' :: ' ' :: columnLabel := by decide +kernel
  simp only [appended, ending, String.toList_append, hline, hcolumn, List.append_assoc, List.cons_append]

/-- The line that the ending names. -/
theorem numberAfter?_line (hline : IsPlace line.toList) :
    numberAfter? lineLabel (ending line column) = some (Nat.ofDigitChars 10 line.toList 0) := by
  have hfirst : FirstOccurrence lineLabel (ending line column)
      (line.toList ++ ',' :: ' ' :: (columnLabel ++ column.toList)) :=
    ⟨['a', 't', ' '], by simp [ending], by decide +kernel⟩
  rw [numberAfter?_of_occurrence (by decide) hfirst]
  exact leadingNumber?_of_isPlace hline (by simp)

/-- The column that it names. -/
theorem numberAfter?_column (hline : IsPlace line.toList) (hcolumn : IsPlace column.toList) :
    numberAfter? columnLabel (ending line column) = some (Nat.ofDigitChars 10 column.toList 0) := by
  have hsplit : ending line column =
      ('a' :: 't' :: ' ' :: lineLabel ++ line.toList) ++ ',' :: ' ' :: (columnLabel ++ column.toList) := by
    simp [ending]
  have habsent : ¬columnLabel <:+: 'a' :: 't' :: ' ' :: lineLabel ++ line.toList := by
    intro hinfix
    have hmem : 'C' ∈ 'a' :: 't' :: ' ' :: lineLabel ++ line.toList := hinfix.subset (by decide)
    rcases List.mem_append.1 hmem with hmem | hmem
    · exact absurd hmem (by decide)
    · cases hline.all 'C' hmem
  have hfirst : FirstOccurrence columnLabel (',' :: ' ' :: (columnLabel ++ column.toList)) (column.toList ++ []) :=
    ⟨[',', ' '], by simp, by decide +kernel⟩
  rw [hsplit, numberAfter?_append_of_not_occurs habsent (by decide), numberAfter?_of_occurrence (by decide) hfirst]
  exact leadingNumber?_of_isPlace hcolumn (by simp)

theorem locate_of_some {message : String} {l c : Nat} (hline : numberAfter? lineLabel message.toList = some l)
    (hcolumn : numberAfter? columnLabel message.toList = some c) : locate message = (l, c) := by
  have hline : numberAfter? "Line: ".toList message.toList = some l := hline
  have hcolumn : numberAfter? "Column: ".toList message.toList = some c := hcolumn
  rw [locate, hline, hcolumn]

theorem locate_of_none {message : String} (h : numberAfter? lineLabel message.toList = none ∨
    numberAfter? columnLabel message.toList = none) : locate message = (0, 0) := by
  rw [locate]
  split
  next hline hcolumn =>
    rcases h with h | h
    · cases h.symm.trans hline
    · cases h.symm.trans hcolumn
  next => rfl

/-- **The place that is read from a message** that ends with one. Both numbers are those at the end if neither label
stands in what the message says before, where the blank behind it counts. For a label that does, the number is the first
one behind it there; and if it has no number behind it, no place is read at all. -/
theorem locate_appended (reason line column : String) (hline : IsPlace line.toList) (hcolumn : IsPlace column.toList) :
    let said := (reason ++ " ").toList
    let l := Nat.ofDigitChars 10 line.toList 0
    let c := Nat.ofDigitChars 10 column.toList 0
    (¬lineLabel <:+: said → ¬columnLabel <:+: said → locate (appended reason line column) = (l, c)) ∧
    (∀ m n, Shown lineLabel said l m → Shown columnLabel said c n →
      locate (appended reason line column) = (m, n)) ∧
    ((∀ m, ¬Shown lineLabel said l m) ∨ (∀ n, ¬Shown columnLabel said c n) →
      locate (appended reason line column) = (0, 0)) := by
  intro said l c
  have hl : ∀ m, numberAfter? lineLabel (appended reason line column).toList = some m ↔
      Shown lineLabel said l m := by
    intro m
    rw [toList_appended]
    exact shown_iff (by decide) rfl (by decide) (numberAfter?_line hline)
  have hc : ∀ n, numberAfter? columnLabel (appended reason line column).toList = some n ↔
      Shown columnLabel said c n := by
    intro n
    rw [toList_appended]
    exact shown_iff (by decide) rfl (by decide) (numberAfter?_column hline hcolumn)
  have hboth : ∀ m n, Shown lineLabel said l m → Shown columnLabel said c n →
      locate (appended reason line column) = (m, n) := fun m n hm hn => locate_of_some ((hl m).2 hm) ((hc n).2 hn)
  refine ⟨fun hnol hnoc => hboth l c (.behind hnol) (.behind hnoc), hboth, fun hnone => locate_of_none ?_⟩
  simp only [← hl, ← hc, ← Option.eq_none_iff_forall_ne_some] at hnone
  exact hnone

end Messages

/-! ## Parse errors -/

namespace ParseError

/-- What the message of an error says before the place. -/
def reason : ParseError → String
  | lexical reason _ | invalid reason _ => "sql parser error: " ++ reason
  | expected what none => "sql parser error: Expected: " ++ what ++ ", found: EOF"
  | expected what (some lexeme) => "sql parser error: Expected: " ++ what ++ ", found: " ++ lexeme.token.text
  | tooDeep => "sql parser error: recursion limit exceeded"

/-- The place that an error is about, if it knows one. -/
def position? : ParseError → Option Position
  | lexical _ position => some position
  | expected _ found => found.map Lexeme.position
  | invalid _ position => position
  | tooDeep => none

end ParseError

section Errors

variable {error : ParseError} {position : Position}

/-- A number fits a place if it is not too large. -/
theorem isPlace_toString {n : Nat} (h : n ≤ maxPlace) : IsPlace (toString n).toList := by
  have hdigits : (toString n).toList = Nat.toDigits 10 n := by
    rw [Nat.toString_eq_ofList_toDigits, String.toList_ofList]
  rw [hdigits]
  refine ⟨Nat.toDigits_ne_nil, Text.isDigit_of_mem_toDigits n, ?_⟩
  rwa [Nat.ofDigitChars_ten_toDigits]

theorem ofDigitChars_toString (n : Nat) : Nat.ofDigitChars 10 (toString n).toList 0 = n := by
  rw [Nat.toString_eq_ofList_toDigits, String.toList_ofList, Nat.ofDigitChars_ten_toDigits]

/-- The message of an error that knows its place ends with it. -/
theorem message_eq_appended (h : error.position? = some position) :
    error.message = appended error.reason (toString position.line) (toString position.column) := by
  have hends : ∀ said, said ++ position.text = appended said (toString position.line) (toString position.column) := by
    intro said
    have htext : position.text =
        " at Line: " ++ toString position.line ++ ", Column: " ++ toString position.column := rfl
    rw [htext, appended]
    simp only [String.append_assoc]
  cases error with
  | lexical reason place =>
    cases h
    exact hends _
  | expected what found =>
    obtain ⟨lexeme, rfl, rfl⟩ := Option.map_eq_some_iff.1 h
    exact hends _
  | invalid reason place =>
    cases h
    exact hends _
  | tooDeep => cases h

/-- The message of an error that knows no place is all that it says. -/
theorem message_eq_reason (h : error.position? = none) : error.message = error.reason := by
  cases error with
  | lexical reason place => cases h
  | expected what found =>
    obtain rfl := Option.map_eq_none_iff.1 h
    rfl
  | invalid reason place =>
    cases h
    rfl
  | tooDeep => rfl

/-- **An error is reported at its place** if its wording has no label of a place. -/
theorem locate_message (h : error.position? = some position) (hline : position.line ≤ maxPlace)
    (hcolumn : position.column ≤ maxPlace) (hnoline : ¬lineLabel <:+: (error.reason ++ " ").toList)
    (hnocolumn : ¬columnLabel <:+: (error.reason ++ " ").toList) :
    locate error.message = (position.line, position.column) := by
  obtain ⟨hplace, -⟩ := locate_appended error.reason _ _ (isPlace_toString hline) (isPlace_toString hcolumn)
  rw [message_eq_appended h, hplace hnoline hnocolumn, ofDigitChars_toString, ofDigitChars_toString]

/-- An error that knows no place is reported at none, if one of the labels is missing from its wording. -/
theorem locate_message_of_none (h : error.position? = none)
    (hlabel : ¬lineLabel <:+: error.reason.toList ∨ ¬columnLabel <:+: error.reason.toList) :
    locate error.message = (0, 0) := by
  have hnone : ∀ label, label ≠ [] → ¬label <:+: error.reason.toList →
      numberAfter? label error.reason.toList = none := by
    intro label hne hnot
    rw [numberAfter?, (afterLabel?_eq_none hne).2 hnot]
    rfl
  rw [message_eq_reason h]
  exact locate_of_none (hlabel.imp (hnone _ (by decide)) (hnone _ (by decide)))

end Errors

end Sql

/-! ## A string that names a place -/

namespace Sample

open Sql

/-- The place of a string behind the alias of a table. -/
def aliasError (value : String) : ParseError := .expected "end of statement" (some ⟨.string value, ⟨1, 23⟩⟩)

theorem isPlace_aliasError : IsPlace "1".toList ∧ IsPlace "23".toList :=
  ⟨⟨by decide, by simp [AllDigits], by decide⟩, ⟨by decide, by simp [AllDigits], by decide⟩⟩

/-- A string that has only a part of a label does not matter. -/
theorem locate_aliasError : IsPlace "1".toList ∧ IsPlace "23".toList ∧
    (aliasError "Line:").message = appended (aliasError "Line:").reason "1" "23" ∧
    locate (aliasError "Line:").message = (1, 23) := by
  obtain ⟨hline, hcolumn⟩ := isPlace_aliasError
  have hmessage : (aliasError "Line:").message = appended (aliasError "Line:").reason "1" "23" := by decide +kernel
  obtain ⟨hplace, -⟩ := locate_appended (aliasError "Line:").reason "1" "23" hline hcolumn
  exact ⟨hline, hcolumn, hmessage, hmessage ▸ hplace (by decide +kernel) (by decide +kernel)⟩

/-- **A string in the text is taken for the place.** The text has a string behind the alias of its table, in column 23
of the only line. The error is about this place, and its message ends with it, but line 7 and column 8 are read, because
the string names them. -/
theorem locate_quoted :
    (Dialect.duckdb.parse "SELECT * FROM staff s 'Line: 7, Column: 8'").map (fun _ => ()) =
      .error (.malformed (aliasError "Line: 7, Column: 8")) ∧
    IsPlace "1".toList ∧ IsPlace "23".toList ∧
    (aliasError "Line: 7, Column: 8").message = appended (aliasError "Line: 7, Column: 8").reason "1" "23" ∧
    locate (aliasError "Line: 7, Column: 8").message = (7, 8) := by
  obtain ⟨hline, hcolumn⟩ := isPlace_aliasError
  exact ⟨by decide +kernel, hline, hcolumn, by decide +kernel, by decide +kernel⟩

end Sample

end FromClause
