import FromClause.Proofs.Sql.Numerals
import FromClause.Sql.Parser.Statement
import Mathlib
/-!
# What parsers leave of the tokens

Parsers only take tokens off, so whatever the lexer guarantees of a token holds of all that come later. What is wanted
here is that numbers are numerals (`Lexed`). `Leaves` says that a parser keeps to this, and `Yields` that its values
have a property besides. Both are triples over the tokens, so the parsers that are made up of others are followed step
by step; what is inside each other is assumed of the level below (`Level.Sound`).
-/

open Std.Do

set_option mvcgen.warning false

namespace FromClause

namespace Sql

/-! ## Tokens -/

/-- **Tokens as the lexer yields them**: the numbers among them are numerals. -/
def Lexed (tokens : List Lexeme) : Prop :=
  ∀ l ∈ tokens, ∀ digits long, l.token = .number digits long → IsNumeral digits

namespace Lexed

variable {l : Lexeme} {tokens : List Lexeme}

theorem sublist {rest : List Lexeme} (h : Lexed tokens) (hrest : rest.Sublist tokens) : Lexed rest :=
  fun l hl => h l (hrest.subset hl)

theorem drop (h : Lexed tokens) (n : Nat) : Lexed (tokens.drop n) := h.sublist (List.drop_sublist n tokens)

@[grind →]
theorem tail (h : Lexed (l :: tokens)) : Lexed tokens := h.sublist (List.sublist_cons_self l tokens)

theorem isNumeral_head? (h : Lexed tokens) {digits : String} {long : Bool}
    (hnumber : tokens.head?.map Lexeme.token = some (.number digits long)) : IsNumeral digits := by
  obtain ⟨l, hl, htoken⟩ := Option.map_eq_some_iff.1 hnumber
  exact h l (List.mem_of_mem_head? hl) digits long htoken

end Lexed

/-- The tokens of a text are lexed. -/
theorem lexed_of_lex {d : Dialect} {text : String} {tokens : List Lexeme} (h : lex d text = .ok tokens) :
    Lexed tokens := isNumeral_of_lex h

namespace Parser

variable {α β : Type}

/-! ## Parsers -/

/-- **What a triple says of a parser**: of all values that it yields, with the tokens that are left. -/
theorem triple_iff {p : Parser α} {P : List Lexeme → Prop} {Q : α → List Lexeme → Prop} :
    ⦃fun tokens => ⌜P tokens⌝⦄ p ⦃⇓? a rest => ⌜Q a rest⌝⦄ ↔
      ∀ tokens, P tokens → ∀ a rest, p tokens = .ok (a, rest) → Q a rest := by
  rw [Triple.iff]
  refine forall_congr' fun tokens => imp_congr_right fun _ => ?_
  have hrun : wp⟦p⟧ (PostCond.mayThrow fun a rest => ⌜Q a rest⌝) tokens =
    wp⟦p tokens⟧ (PostCond.mayThrow fun r => ⌜Q r.1 r.2⌝) := rfl
  rw [hrun]
  cases p tokens with
  | ok r =>
    change Q r.1 r.2 ↔ _
    refine ⟨fun h a rest heq => ?_, fun h => h _ _ rfl⟩
    cases heq
    exact h
  | error e =>
    change True ↔ _
    refine ⟨fun _ a rest heq => ?_, fun _ => trivial⟩
    cases heq

/-- A parser leaves lexed tokens of lexed ones. -/
abbrev Leaves (p : Parser α) : Prop := ⦃fun tokens => ⌜Lexed tokens⌝⦄ p ⦃⇓? _ rest => ⌜Lexed rest⌝⦄

/-- Besides, its values have a property then. -/
abbrev Yields (p : Parser α) (P : α → Prop) : Prop :=
  ⦃fun tokens => ⌜Lexed tokens⌝⦄ p ⦃⇓? a rest => ⌜Lexed rest ∧ P a⌝⦄

/-! ## Failing -/

section Failing

@[spec 2000]
theorem throw_never (e : ParseError) : ⦃fun _ => ⌜True⌝⦄ (throw e : Parser α) ⦃⇓? _ _ => ⌜False⌝⦄ :=
  triple_iff.2 fun _ _ _ _ h => by cases h

@[spec]
theorem expected_never (what : String) : ⦃fun _ => ⌜True⌝⦄ (expected what : Parser α) ⦃⇓? _ _ => ⌜False⌝⦄ :=
  triple_iff.2 fun _ _ _ _ h => by cases h

@[spec]
theorem invalid_never (reason : String) : ⦃fun _ => ⌜True⌝⦄ (invalid reason : Parser α) ⦃⇓? _ _ => ⌜False⌝⦄ :=
  triple_iff.2 fun _ _ _ _ h => by cases h

end Failing

/-! ## Looking ahead and taking tokens -/

@[spec]
theorem peek_yields :
    peek.Yields fun token => ∀ digits long, token = some (.number digits long) → IsNumeral digits := by
  mvcgen [peek]
  exact ⟨‹_›, fun _ _ hnumber => Lexed.isNumeral_head? ‹_› hnumber⟩

@[spec]
theorem peekSecond_leaves : peekSecond.Leaves := by
  mvcgen [peekSecond]

@[spec]
theorem peekKey_leaves : peekKey.Leaves := by
  mvcgen [peekKey] with grind

@[spec]
theorem peekSecondKey_leaves : peekSecondKey.Leaves := by
  mvcgen [peekSecondKey]

@[spec]
theorem atSign_leaves (text : String) : (atSign text).Leaves := by
  mvcgen [atSign] with grind

@[spec]
theorem atWord_leaves (word : String) : (atWord word).Leaves := by
  mvcgen [atWord]

@[spec]
theorem advance_leaves : advance.Leaves := by
  mvcgen [advance] with exact Lexed.drop ‹_› 1

@[spec]
theorem sign?_leaves (text : String) : (sign? text).Leaves := by
  mvcgen [sign?]

@[spec]
theorem sign_leaves (text : String) : (sign text).Leaves := by
  mvcgen [sign] with grind

@[spec]
theorem word?_leaves (text : String) : (word? text).Leaves := by
  mvcgen [word?]

@[spec]
theorem word_leaves (text : String) : (word text).Leaves := by
  mvcgen [word] with grind

@[spec]
theorem words?_leaves (texts : List String) : (words? texts).Leaves := by
  mvcgen [words?] with exact Lexed.drop ‹_› _

@[spec]
theorem words_leaves (texts : List String) : (words texts).Leaves := by
  induction texts with
  | nil => exact triple_iff.2 fun tokens h _ _ heq => by cases heq; exact h
  | cons text texts ih =>
    have hwords : words (text :: texts) = (do word text; words texts) := rfl
    rw [hwords]
    mvcgen [ih]

@[spec]
theorem oneOf?_leaves (texts : List String) : (oneOf? texts).Leaves := by
  mvcgen [oneOf?]

/-! ## Combining -/

section Combining

variable {p : Parser α} {round : Nat → Parser α} {P : α → Prop}

/-- Nothing need be known of the values. -/
theorem Leaves.yields (h : p.Leaves) : p.Yields fun _ => True :=
  triple_iff.2 fun tokens htokens a rest heq => ⟨triple_iff.1 h tokens htokens a rest heq, trivial⟩

theorem Yields.leaves (h : p.Yields P) : p.Leaves :=
  triple_iff.2 fun tokens htokens a rest heq => (triple_iff.1 h tokens htokens a rest heq).1

@[spec]
theorem discard_leaves (h : p.Leaves) : (discard p : Parser PUnit).Leaves := by
  have hdiscard : (discard p : Parser PUnit) = (do let _ ← p; return ⟨⟩) := rfl
  rw [hdiscard]
  mvcgen [h]

theorem bracketed_yields (h : p.Yields P) : (bracketed p).Yields P := by
  mvcgen [bracketed, h] with grind

@[spec 500]
theorem bracketed_leaves (h : p.Leaves) : (bracketed p).Leaves := by
  mvcgen [bracketed, h]

theorem after?_yields (texts : List String) (h : p.Yields P) : (after? texts p).Yields fun r => ∀ a ∈ r, P a := by
  mvcgen [after?, h] with grind

@[spec 500]
theorem after?_leaves (texts : List String) (h : p.Leaves) : (after? texts p).Leaves := by
  mvcgen [after?, h]

/-- What fails takes no token off. -/
theorem attempt_yields (h : p.Yields P) : (attempt p).Yields fun r => ∀ a ∈ r, P a := by
  refine triple_iff.2 fun tokens htokens r rest heq => ?_
  rw [attempt] at heq
  split at heq
  next hp =>
    cases heq
    obtain ⟨hrest, ha⟩ := triple_iff.1 h tokens htokens _ _ hp
    exact ⟨hrest, by simpa using ha⟩
  next => cases heq
  next =>
    cases heq
    exact ⟨htokens, by simp⟩

@[spec 500]
theorem attempt_leaves (h : p.Leaves) : (attempt p).Leaves :=
  (attempt_yields h.yields).leaves

theorem loop_yields (h : ∀ rounds, (round rounds).Yields P) : (loop round).Yields P := by
  mvcgen [loop, h]

@[spec 500]
theorem loop_leaves (h : ∀ rounds, (round rounds).Leaves) : (loop round).Leaves := by
  mvcgen [loop, h]

@[spec]
theorem listEnds_leaves (reserved : List String) : (listEnds reserved).Leaves := by
  mvcgen [listEnds] with grind

theorem listRounds_yields (trailing : Option (List String)) (h : p.Yields P) (rounds : Nat) :
    (listRounds trailing p rounds).Yields fun as => ∀ a ∈ as, P a := by
  induction rounds with
  | zero =>
    mvcgen [listRounds]
    grind
  | succ rounds ih => mvcgen [listRounds, h, ih] with grind

/-- **The values of a list** have the property that each of them has. -/
theorem list_yields (trailing : Option (List String)) (h : p.Yields P) :
    (list trailing p).Yields fun as => ∀ a ∈ as, P a :=
  loop_yields fun rounds => listRounds_yields trailing h rounds

@[spec 500]
theorem list_leaves (trailing : Option (List String)) (h : p.Leaves) : (list trailing p).Leaves :=
  (list_yields trailing h.yields).leaves

end Combining

end Parser

end Sql

end FromClause
