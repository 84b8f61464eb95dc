import FromClause.Proofs.Logic.Formula
/-!
# Formulas are told apart by their texts

A formula that is built from tests is printed without a bracket around a negation or a comparison, and one bracket
around each conjunction and disjunction. That is enough. Given that the arguments can be read off a text
(`Readable`), so can the formula: two formulas at the head of the same text are the same, and so is what stands behind
them, as long as that may stand behind a formula (`Spelled.told`).

The first characters tell a bracket, a negation and a test apart (`Spelled`); the first two behind the leading
argument tell the tests apart (`Test.eq_of_append_eq`). The connective of a bracket shows in front of its second part,
which is why no connective may join fewer than two.
-/

namespace FromClause

namespace Formula

variable {τ : Type}

/-! ## Connectives -/

mutual

/-- The numbers of parts that the conjunctions and disjunctions in a formula have, from the outside in. -/
def branchings : Formula τ → List Nat
  | .data .. | .compare .. | .isNull .. | .truth _ => []
  | .not f => f.branchings
  | .and fs => fs.length :: branchingsOf fs
  | .or fs => fs.length :: branchingsOf fs

/-- The numbers of parts in several formulas. -/
def branchingsOf : List (Formula τ) → List Nat
  | [] => []
  | f :: fs => f.branchings ++ branchingsOf fs

end

theorem branchingsOf_eq_flatMap (fs : List (Formula τ)) : branchingsOf fs = fs.flatMap branchings := by
  induction fs with
  | nil => rfl
  | cons f fs ih => rw [branchingsOf, ih, List.flatMap_cons]

/-- **Every conjunction and disjunction has two parts at least**, in what is built from tests. -/
theorem Built.two_le_branchings {T : τ → Prop} {f : Formula τ} (h : Built T f) : ∀ n ∈ f.branchings, 2 ≤ n := by
  induction h with
  | compare | isNull | truth => exact List.forall_mem_nil _
  | not _ ih => exact ih
  | and hlength _ ih | or hlength _ ih =>
    rw [branchings, branchingsOf_eq_flatMap, List.forall_mem_cons]
    exact ⟨hlength, List.forall_mem_flatMap.2 ih⟩

/-- A connective that joins several parts. -/
inductive Connective where
  /-- Conjunction. -/
  | and
  /-- Disjunction. -/
  | or

namespace Connective

/-- The connective as it is printed between two parts. -/
def word : Connective → String
  | and => " AND "
  | or => " OR "

/-- The parts, joined by the connective. -/
def join : Connective → List (Formula τ) → Formula τ
  | and => .and
  | or => .or

/-- The second part and those behind it, each with the connective before it. -/
def behind [ToString τ] (c : Connective) (fs : List (Formula τ)) : List Char :=
  fs.flatMap fun f => c.word.toList ++ f.text.toList

variable [ToString τ]

theorem toList_intercalate_texts (c : Connective) (f : Formula τ) (fs : List (Formula τ)) :
    (c.word.intercalate (texts (f :: fs))).toList = f.text.toList ++ c.behind fs := by
  induction fs generalizing f with
  | nil =>
    rw [texts, texts, String.intercalate_singleton]
    exact (List.append_nil _).symm
  | cons g fs ih =>
    have hcons : texts (f :: g :: fs) = f.text :: texts (g :: fs) := rfl
    have hsplit : c.word.intercalate (texts (f :: g :: fs)) =
        f.text ++ c.word ++ c.word.intercalate (texts (g :: fs)) := by
      rw [hcons]
      exact String.intercalate_cons_cons
    rw [hsplit, String.toList_append, String.toList_append, ih g, behind, behind, List.flatMap_cons,
      List.append_assoc, List.append_assoc]

/-- **A connective stands between brackets.** -/
theorem toList_text_join (c : Connective) (f : Formula τ) (fs : List (Formula τ)) :
    (c.join (f :: fs)).text.toList = '(' :: (f.text.toList ++ (c.behind fs ++ [')'])) := by
  have hjoin : (c.join (f :: fs)).text = "(" ++ c.word.intercalate (texts (f :: fs)) ++ ")" := by
    cases c <;> rw [join, text, word]
  rw [hjoin, String.toList_append, String.toList_append, toList_intercalate_texts, List.append_assoc, List.append_assoc]
  rfl

/-- A connective is told by its word. -/
theorem word_append_inj {c c' : Connective} {rest rest' : List Char}
    (h : c.word.toList ++ rest = c'.word.toList ++ rest') : c = c' ∧ rest = rest' := by
  cases c <;> cases c' <;> simp_all [word]

end Connective

/-! ## What may stand behind -/

/-- What may stand behind an argument: nothing, or a blank or closing bracket and anything more. -/
def Stops (rest : List Char) : Prop := ∀ c ∈ rest.head?, c = ' ' ∨ c = ')'

/-- What may stand behind a formula: nothing, or a closing bracket or a connective and anything more. -/
inductive Ends : List Char → Prop
  /-- The text ends. -/
  | nil : Ends []
  /-- The bracket around the formula is closed. -/
  | bracket (rest : List Char) : Ends (')' :: rest)
  /-- The next part of the bracket follows. -/
  | word (c : Connective) (rest : List Char) : Ends (c.word.toList ++ rest)

theorem Ends.stops {rest : List Char} (h : Ends rest) : Stops rest := by
  cases h with
  | nil => simp [Stops]
  | bracket rest => simp [Stops]
  | word c rest => cases c <;> simp [Stops, Connective.word]

/-- **Arguments that can be read off a text.** -/
structure Readable [ToString τ] (T : τ → Prop) : Prop where
  /-- An argument at the head of a text is told by the text, if something that may stand behind it does. -/
  append_inj {t u : τ} {rest rest' : List Char} : T t → T u → Stops rest → Stops rest' →
    (toString t).toList ++ rest = (toString u).toList ++ rest' → t = u ∧ rest = rest'
  /-- No argument starts with a bracket. -/
  ne_bracket {t : τ} {rest rest' : List Char} : T t → (toString t).toList ++ rest ≠ '(' :: rest'
  /-- None is the word for negation. -/
  ne_not {t : τ} {rest rest' : List Char} : T t → Stops rest → (toString t).toList ++ rest ≠ "NOT ".toList ++ rest'
  /-- A truth value is printed as an argument is. -/
  truth (value : Bool) : ∃ t, T t ∧ toString t = truthWord value

variable [ToString τ] {T : τ → Prop}

/-! ## Tests -/

/-- **A test, the argument it starts with, and what is printed behind that.** A truth value used as a condition is
printed like an argument with nothing behind it. -/
inductive Test (T : τ → Prop) : Formula τ → τ → List Char → Prop
  /-- A comparison. -/
  | compare {op : Comparison} {left right : τ} : T left → T right →
    Test T (.compare op left right) left (' ' :: (op.symbol.toList ++ ' ' :: (toString right).toList))
  /-- A test for the missing value. -/
  | isNull {negated : Bool} {arg : τ} : T arg →
    Test T (.isNull negated arg) arg (if negated then " IS NOT NULL" else " IS NULL").toList
  /-- A truth value. -/
  | truth {value : Bool} {t : τ} : T t → toString t = truthWord value → Test T (.truth value) t []

/-- How an argument goes on: with a comparison, with a test for the missing value, or not at all. -/
inductive Continuation where
  /-- With the sign of a comparison. -/
  | sign
  /-- With the words of a test. -/
  | words
  /-- Not at all. -/
  | none

/-- How the argument before a text goes on. The second character tells it. -/
def continuation : List Char → Continuation
  | ' ' :: '=' :: _ | ' ' :: '<' :: _ | ' ' :: '>' :: _ => .sign
  | ' ' :: 'I' :: _ => .words
  | _ => .none

/-- How the leading argument of a formula goes on. -/
def goesOn : Formula τ → Continuation
  | .compare .. => .sign
  | .isNull .. => .words
  | .truth _ | .data .. | .not _ | .and _ | .or _ => .none

theorem Ends.continuation {rest : List Char} (h : Ends rest) : continuation rest = .none := by
  cases h with
  | nil => rfl
  | bracket rest => rfl
  | word c rest => cases c <;> rfl

end Formula

/-- The sign of a comparison is told by what stands before a blank. -/
theorem Comparison.symbol_append_inj {op op' : Comparison} {rest rest' : List Char}
    (h : op.symbol.toList ++ ' ' :: rest = op'.symbol.toList ++ ' ' :: rest') : op = op' ∧ rest = rest' := by
  cases op <;> cases op' <;> simp_all [symbol]

namespace Formula

variable {τ : Type} [ToString τ] {T : τ → Prop} {a b : Formula τ} {t u : τ} {tail tail' rest rest' : List Char}

/-- The words of a test are told apart. -/
theorem missing_append_inj {negated negated' : Bool}
    (h : (if negated then " IS NOT NULL" else " IS NULL").toList ++ rest =
      (if negated' then " IS NOT NULL" else " IS NULL").toList ++ rest') : negated = negated' ∧ rest = rest' := by
  cases negated <;> cases negated' <;> simp_all

theorem truthWord_inj {value value' : Bool} (h : truthWord value = truthWord value') : value = value' := by
  cases value <;> cases value' <;> simp_all [truthWord]

namespace Test

theorem toList_text (h : Test T a t tail) : a.text.toList = (toString t).toList ++ tail := by
  cases h with
  | compare hl hr => simp [text]
  | isNull ht => simp [text]
  | truth ht heq => rw [text, heq, List.append_nil]

theorem property (h : Test T a t tail) : T t := by
  cases h with
  | compare hl hr => exact hl
  | isNull ht => exact ht
  | truth ht heq => exact ht

theorem stops (h : Test T a t tail) (hrest : Ends rest) : Stops (tail ++ rest) := by
  cases h with
  | compare hl hr => simp [Stops]
  | @isNull negated _ ht => cases negated <;> simp [Stops]
  | truth ht heq => exact hrest.stops

/-- What is printed behind the leading argument shows how that goes on. -/
theorem continuation_eq (h : Test T a t tail) (hrest : Ends rest) : continuation (tail ++ rest) = a.goesOn := by
  cases h with
  | @compare op _ _ _ _ => cases op <;> rfl
  | @isNull negated _ _ => cases negated <;> rfl
  | truth _ _ => exact hrest.continuation

/-- **Behind the same argument, tests are told apart** by the sign or the words that follow. -/
theorem eq_of_append_eq (hT : Readable T) (ha : Test T a t tail) (hb : Test T b t tail') (hrest : Ends rest)
    (hrest' : Ends rest') (h : tail ++ rest = tail' ++ rest') : a = b ∧ rest = rest' := by
  have hsame : a.goesOn = b.goesOn := by
    rw [← ha.continuation_eq hrest, ← hb.continuation_eq hrest', h]
  cases ha with
  | compare hl hr =>
    cases hb with
    | compare hl' hr' =>
      simp only [List.cons_append, List.append_assoc, List.cons.injEq, true_and] at h
      obtain ⟨rfl, hright⟩ := Comparison.symbol_append_inj h
      obtain ⟨rfl, hbehind⟩ := hT.append_inj hr hr' hrest.stops hrest'.stops hright
      exact ⟨rfl, hbehind⟩
    | isNull _ => cases hsame
    | truth _ _ => cases hsame
  | isNull ht =>
    cases hb with
    | isNull ht' =>
      obtain ⟨rfl, hbehind⟩ := missing_append_inj h
      exact ⟨rfl, hbehind⟩
    | compare _ _ => cases hsame
    | truth _ _ => cases hsame
  | truth ht heq =>
    cases hb with
    | truth ht' heq' =>
      obtain rfl := truthWord_inj (heq.symm.trans heq')
      exact ⟨rfl, h⟩
    | compare _ _ => cases hsame
    | isNull _ => cases hsame

/-- **Tests are told apart by their texts.** -/
theorem text_append_inj (hT : Readable T) (ha : Test T a t tail) (hb : Test T b u tail') (hrest : Ends rest)
    (hrest' : Ends rest') (h : a.text.toList ++ rest = b.text.toList ++ rest') : a = b ∧ rest = rest' := by
  rw [ha.toList_text, hb.toList_text, List.append_assoc, List.append_assoc] at h
  obtain ⟨rfl, htail⟩ := hT.append_inj ha.property hb.property (ha.stops hrest) (hb.stops hrest') h
  exact eq_of_append_eq hT ha hb hrest hrest' htail

end Test

/-! ## Formulas -/

/-- **What is built from tests, by the way it is printed**: a test, a negation, or a bracket around two parts or
more. -/
inductive Spelled (T : τ → Prop) : Formula τ → Prop
  /-- A test. -/
  | test {a : Formula τ} {t : τ} {tail : List Char} : Test T a t tail → Spelled T a
  /-- A negation. -/
  | not {g : Formula τ} : Spelled T g → Spelled T (.not g)
  /-- A bracket. -/
  | join (c : Connective) {g : Formula τ} {gs : List (Formula τ)} : gs ≠ [] → Spelled T g →
    (∀ f ∈ gs, Spelled T f) → Spelled T (c.join (g :: gs))

theorem Spelled.join_of_two_le (c : Connective) {gs : List (Formula τ)} (hlength : 2 ≤ gs.length)
    (h : ∀ g ∈ gs, Spelled T g) : Spelled T (c.join gs) := by
  match gs with
  | [] => cases hlength
  | [g] => exact absurd hlength (Nat.lt_irrefl 1)
  | g :: g' :: gs =>
    obtain ⟨hg, hgs⟩ := List.forall_mem_cons.1 h
    exact .join c (List.cons_ne_nil _ _) hg hgs

theorem Built.spelled (hT : Readable T) (h : Built T a) : Spelled T a := by
  induction h with
  | compare hl hr => exact .test (.compare hl hr)
  | isNull ht => exact .test (.isNull ht)
  | @truth value =>
    obtain ⟨t, ht, heq⟩ := hT.truth value
    exact .test (.truth ht heq)
  | not _ ih => exact .not ih
  | and hlength _ ih => exact .join_of_two_le .and hlength ih
  | or hlength _ ih => exact .join_of_two_le .or hlength ih

/-- A formula is told by its text, whatever stands behind it. -/
def Told (T : τ → Prop) (a : Formula τ) : Prop :=
  ∀ {b : Formula τ} {rest rest' : List Char}, Spelled T b → Ends rest → Ends rest' →
    a.text.toList ++ rest = b.text.toList ++ rest' → a = b ∧ rest = rest'

namespace Connective

variable {c c' : Connective} {g g' : Formula τ} {gs gs' : List (Formula τ)}

theorem behind_cons : c.behind (g :: gs) = c.word.toList ++ (g.text.toList ++ c.behind gs) := by
  rw [behind, List.flatMap_cons, List.append_assoc]
  rfl

/-- Behind a part of a bracket, the next one follows or the bracket is closed. -/
theorem ends_behind (c : Connective) (gs : List (Formula τ)) (rest : List Char) :
    Ends (c.behind gs ++ ')' :: rest) := by
  cases gs with
  | nil => exact .bracket rest
  | cons g gs =>
    rw [behind_cons, List.append_assoc]
    exact .word c _

/-- **The parts of a bracket are told one after another**, up to the closing bracket. The connective shows if there is
a part behind the first. -/
theorem behind_append_inj (hgs : ∀ g ∈ gs, Told T g) (hgs' : ∀ g ∈ gs', Spelled T g)
    (h : c.behind gs ++ ')' :: rest = c'.behind gs' ++ ')' :: rest') :
    (gs ≠ [] → c = c') ∧ gs = gs' ∧ rest = rest' := by
  induction gs generalizing gs' with
  | nil =>
    cases gs' with
    | nil => exact ⟨absurd rfl, rfl, (List.cons.inj h).2⟩
    | cons g' gs' =>
      rw [behind_cons] at h
      cases c' <;> cases h
  | cons g gs ih =>
    cases gs' with
    | nil =>
      rw [behind_cons] at h
      cases c <;> cases h
    | cons g' gs' =>
      obtain ⟨hg, htold⟩ := List.forall_mem_cons.1 hgs
      obtain ⟨hg', hspelled⟩ := List.forall_mem_cons.1 hgs'
      rw [behind_cons, behind_cons, List.append_assoc, List.append_assoc, List.append_assoc, List.append_assoc] at h
      obtain ⟨rfl, hparts⟩ := word_append_inj h
      obtain ⟨rfl, hmore⟩ := hg hg' (c.ends_behind gs rest) (c.ends_behind gs' rest') hparts
      obtain ⟨-, rfl, rfl⟩ := ih htold hspelled hmore
      exact ⟨fun _ => rfl, rfl, rfl⟩

end Connective

theorem toList_text_not (g : Formula τ) : (Formula.not g).text.toList = "NOT ".toList ++ g.text.toList := by
  rw [text, String.toList_append]

/-- A test is not printed like a negation. -/
theorem Test.text_ne_not (hT : Readable T) (ha : Test T a t tail) (hrest : Ends rest) (g : Formula τ) :
    a.text.toList ++ rest ≠ (Formula.not g).text.toList ++ rest' := by
  rw [ha.toList_text, toList_text_not, List.append_assoc, List.append_assoc]
  exact hT.ne_not ha.property (ha.stops hrest)

/-- Nor is it printed like a bracket. -/
theorem Test.text_ne_join (hT : Readable T) (ha : Test T a t tail) (c : Connective) (g : Formula τ)
    (gs : List (Formula τ)) : a.text.toList ++ rest ≠ (c.join (g :: gs)).text.toList ++ rest' := by
  rw [ha.toList_text, c.toList_text_join, List.append_assoc, List.cons_append]
  exact hT.ne_bracket ha.property

/-- Nor is a negation. -/
theorem text_not_ne_join (c : Connective) (f g : Formula τ) (gs : List (Formula τ)) :
    (Formula.not f).text.toList ++ rest ≠ (c.join (g :: gs)).text.toList ++ rest' := by
  rw [toList_text_not, c.toList_text_join]
  intro h
  cases h

/-- **What is built from tests is told by its text**, whatever stands behind it. -/
theorem Spelled.told (hT : Readable T) (ha : Spelled T a) : Told T a := by
  induction ha with
  | test ha =>
    intro b rest rest' hb hrest hrest' h
    cases hb with
    | test hb => exact ha.text_append_inj hT hb hrest hrest' h
    | not _ => exact absurd h (ha.text_ne_not hT hrest _)
    | join c _ _ _ => exact absurd h (ha.text_ne_join hT c _ _)
  | @not f _ ih =>
    intro b rest rest' hb hrest hrest' h
    cases hb with
    | test hb => exact absurd h.symm (hb.text_ne_not hT hrest' f)
    | not hg =>
      rw [toList_text_not, toList_text_not, List.append_assoc, List.append_assoc] at h
      obtain ⟨rfl, hbehind⟩ := ih hg hrest hrest' (List.append_cancel_left h)
      exact ⟨rfl, hbehind⟩
    | join c _ _ _ => exact absurd h (text_not_ne_join c f _ _)
  | @join c g gs hne _ _ ih ihgs =>
    intro b rest rest' hb hrest hrest' h
    cases hb with
    | test hb => exact absurd h.symm (hb.text_ne_join hT c g gs)
    | not _ => exact absurd h.symm (text_not_ne_join c _ g gs)
    | @join c' g' gs' hne' hg hgs =>
      rw [c.toList_text_join, c'.toList_text_join] at h
      simp only [List.cons_append, List.append_assoc, List.nil_append, List.cons.injEq, true_and] at h
      -- the first part ends where the connective or the closing bracket stands
      obtain ⟨rfl, hparts⟩ := ih hg (c.ends_behind gs rest) (c'.ends_behind gs' rest') h
      obtain ⟨hconnective, rfl, rfl⟩ := Connective.behind_append_inj ihgs hgs hparts
      obtain rfl := hconnective hne
      exact ⟨rfl, rfl⟩

/-- **Formulas that are built from tests are told apart by their texts**, given that their arguments are. -/
theorem Built.eq_of_text_eq (hT : Readable T) (ha : Built T a) (hb : Built T b) (h : a.text = b.text) : a = b := by
  have hlists : a.text.toList ++ [] = b.text.toList ++ [] := by rw [h]
  exact ((ha.spelled hT).told hT (hb.spelled hT) .nil .nil hlists).1

end Formula

end FromClause
