import FromClause.Proofs.Relation.Merging
/-!
# Joins on equal columns, from either side

The sides of a join on equal columns are not treated alike: the search for a shared relation goes through the left
one, and the joined names denote the columns of the left one afterwards. This file says that nothing else comes of
the order (`joinUsing_exchange`). Either order fails with the same error; or both give sources that tell the same
names apart in the same way and differ in which of two equated variables stands for a joined name.

The sources may be any, well formed or not. So a bare name may be unbound although its column is there, and the
errors that come of that have to agree as well.
-/

namespace FromClause

open Std

namespace Expression

variable {left right x y : Expression} {R : RelationId} {c : Identifier} {columns : List Identifier}

/-! ## What does not depend on the order -/

theorem LeastShared.symm (h : LeastShared left right R) : LeastShared right left R :=
  ⟨h.1.symm, fun S hS hS' => h.2 S hS' hS⟩

/-- Both orders report the same shared relation. -/
theorem shared?_comm (left right : Expression) : shared? left right = shared? right left := by
  refine Option.ext fun R => ?_
  rw [shared?_eq_some, shared?_eq_some]
  exact ⟨LeastShared.symm, LeastShared.symm⟩

/-- **Both products look up the same.** -/
theorem dictionary_product_comm (hs : shared? left right = none) :
    (product left right).dictionary = (product right left).dictionary := by
  have hqualified : ∀ R c, (product left right).dictionary.get? (.qualified R c) =
      (product right left).dictionary.get? (.qualified R c) := by
    intro R c
    refine Option.ext fun v => ?_
    rw [get?_qualified_product_iff hs, get?_qualified_product_iff (shared?_comm right left ▸ hs), or_comm]
  refine Dictionary.ext_qualified_bare (Dictionary.qualified_congr hqualified) fun c => Option.ext fun v => ?_
  rw [bare?_product, bare?_product, product_scope, product_scope, Scope.union_comm]
  simp only [hqualified]

/-- The common names are the same, in the same order. -/
theorem commonColumns_comm (left right : Expression) : commonColumns left right = commonColumns right left := by
  refine eq_of_pairwise_asymm (fun c d hlt => ?_) pairwise_commonColumns pairwise_commonColumns fun c => ?_
  · exact OrientedCmp.not_lt_of_lt hlt
  · exact Scope.mem_common.trans (and_comm.trans Scope.mem_common.symm)

theorem bareVariables?_comm (left right : Expression) (c : Identifier) :
    bareVariables? right left c = (bareVariables? left right c).map fun p => (p.1, p.2.2, p.2.1) := by
  rw [bareVariables?, bareVariables?]
  cases left.dictionary.bare? c <;> cases right.dictionary.bare? c <;> rfl

/-- **Both orders fail alike.** -/
theorem joinUsing_error_comm {error : JoinError} (h : left.joinUsing right columns = .error error) :
    right.joinUsing left columns = .error error := by
  have hambiguous : (fun c => right.scope.isAmbiguous c || left.scope.isAmbiguous c) =
      fun c => left.scope.isAmbiguous c || right.scope.isAmbiguous c := funext fun c => Bool.or_comm _ _
  have hmissing : (fun c => !right.scope.contains c || !left.scope.contains c) =
      fun c => !left.scope.contains c || !right.scope.contains c := funext fun c => Bool.or_comm _ _
  have hpairs := mapM_eq_map (bareVariables?_comm left right) (firsts columns)
  rw [joinUsing] at h ⊢
  simp only [shared?_comm right left, hambiguous, hmissing, hpairs]
  cases hs : shared? left right with
  | some R => simpa only [hs] using h
  | none =>
    simp only [hs] at h ⊢
    split at h
    next => exact h
    next =>
      split at h
      next => exact h
      next =>
        cases hm : (firsts columns).mapM (bareVariables? left right) with
        | error e =>
          rw [hm] at h
          exact h
        | ok pairs =>
          rw [hm] at h
          cases h

theorem Joinable.symm (h : Joinable left right c) : Joinable right left c where
  left_unambiguous := h.right_unambiguous
  right_unambiguous := h.left_unambiguous
  left_contains := h.right_contains
  right_contains := h.left_contains
  bound := by
    obtain ⟨v, w, hv, hw⟩ := h.bound
    exact ⟨w, v, hw, hv⟩

/-- **Both orders succeed alike.** -/
theorem exists_joinUsing_comm (h : left.joinUsing right columns = .ok x) :
    ∃ y, right.joinUsing left columns = .ok y := by
  obtain ⟨hs, hj⟩ := exists_joinUsing_eq_ok.1 ⟨x, h⟩
  exact exists_joinUsing_eq_ok.2 ⟨shared?_comm left right ▸ hs, fun c hc => (hj c hc).symm⟩

/-! ## What does -/

/-- Two sources that differ in the representatives of some columns: each of these columns denotes the one side of an
equality in the first source and the other side in the second one, and the equalities are written the other way
round. -/
structure Exchanged (columns : List Identifier) (x y : Expression) : Prop where
  /-- The scopes are the same. -/
  scope : x.scope = y.scope
  /-- So are the qualified entries. -/
  qualified : x.dictionary.qualified = y.dictionary.qualified
  /-- The same bare names are bound. -/
  bare_iff : ∀ c, (∃ v, x.dictionary.bare? c = some v) ↔ ∃ w, y.dictionary.bare? c = some w
  /-- Outside the columns they denote the same. -/
  bare_other : ∀ c ∉ columns, x.dictionary.bare? c = y.dictionary.bare? c
  /-- What a column denotes in the two sources is equated in both, each with its own variable first. -/
  equated : ∀ c ∈ columns, ∃ v w, x.dictionary.bare? c = some v ∧ y.dictionary.bare? c = some w ∧
    .equality (.var v) (.var w) ∈ x.atoms ∧ .equality (.var w) (.var v) ∈ y.atoms
  /-- Up to order the atoms are the same, but for one equality for each column, which is turned round. -/
  atoms : ∃ distinct rest added turned, FirstOccurrences columns distinct ∧
    List.Forall₂ (Equation x y) distinct added ∧ List.Forall₂ (Equation y x) distinct turned ∧
    x.atoms.Perm (rest ++ added) ∧ y.atoms.Perm (rest ++ turned)

/-- **The outcomes of a join in both orders**: the same error, or sources that differ in the representatives of the
columns only. -/
inductive ExchangedOutcome (columns : List Identifier) :
    Except JoinError Expression → Except JoinError Expression → Prop
  /-- Both fail, with the same error. -/
  | fails {error : JoinError} : ExchangedOutcome columns (.error error) (.error error)
  /-- Both succeed. -/
  | succeeds {x y : Expression} : Exchanged columns x y → ExchangedOutcome columns (.ok x) (.ok y)

/-- Equations between two sources are equations between any two that bind the columns likewise. -/
theorem forall₂_equation {distinct : List Identifier} {added : List Atom}
    (h : List.Forall₂ (Equation left right) distinct added)
    (hx : ∀ c ∈ distinct, x.dictionary.bare? c = left.dictionary.bare? c)
    (hy : ∀ c ∈ distinct, y.dictionary.bare? c = right.dictionary.bare? c) :
    List.Forall₂ (Equation x y) distinct added := by
  refine forall₂_imp_of_mem h fun c hc a hequation => ?_
  obtain ⟨v, w, hv, hw, ha⟩ := hequation
  exact ⟨v, w, (hx c hc).trans hv, (hy c hc).trans hw, ha⟩

/-- **The two joins differ in representatives only.** -/
theorem exchanged_of_joinUsing (hx : left.joinUsing right columns = .ok x)
    (hy : right.joinUsing left columns = .ok y) : Exchanged columns x y := by
  obtain ⟨base, hbase, hmx⟩ := merge_of_joinUsing hx
  obtain ⟨base', hbase', hmy⟩ := merge_of_joinUsing hy
  obtain ⟨hs, rfl⟩ := crossJoin_eq_ok.1 hbase
  obtain ⟨-, rfl⟩ := crossJoin_eq_ok.1 hbase'
  have hdictionary := dictionary_product_comm hs
  obtain ⟨distinct, added, hd, hxatoms, hadded⟩ := hmx.atoms
  obtain ⟨distinct', turned, hd', hyatoms, hturned⟩ := hmy.atoms
  obtain rfl := hd.unique hd'
  have hbarex : ∀ c ∈ distinct, x.dictionary.bare? c = left.dictionary.bare? c :=
    fun c hc => hmx.bare_listed c (hd.mem_iff.1 hc)
  have hbarey : ∀ c ∈ distinct, y.dictionary.bare? c = right.dictionary.bare? c :=
    fun c hc => hmy.bare_listed c (hd.mem_iff.1 hc)
  have hadded := forall₂_equation hadded hbarex hbarey
  have hturned := forall₂_equation hturned hbarey hbarex
  have hother : ∀ c ∉ columns, x.dictionary.bare? c = y.dictionary.bare? c := by
    intro c hc
    rw [hmx.bare_other c hc, hmy.bare_other c hc, hdictionary]
  have hequated : ∀ c ∈ columns, ∃ v w, x.dictionary.bare? c = some v ∧ y.dictionary.bare? c = some w ∧
      .equality (.var v) (.var w) ∈ x.atoms ∧ .equality (.var w) (.var v) ∈ y.atoms := by
    intro c hc
    have hmem := hd.mem_iff.2 hc
    obtain ⟨a, ha, v, w, hv, hw, rfl⟩ := exists_of_mem_forall₂ hadded.flip hmem
    obtain ⟨b, hb, w', v', hw', hv', rfl⟩ := exists_of_mem_forall₂ hturned.flip hmem
    obtain rfl := Option.some_inj.1 (hv.symm.trans hv')
    obtain rfl := Option.some_inj.1 (hw.symm.trans hw')
    refine ⟨v, w, hv, hw, ?_, ?_⟩
    · rw [hxatoms]
      exact List.mem_append_right _ ha
    · rw [hyatoms]
      exact List.mem_append_right _ hb
  refine ⟨?_, ?_, ?_, hother, hequated, distinct, left.atoms ++ right.atoms, added, turned, hd, hadded, hturned,
    ?_, ?_⟩
  · rw [hmx.scope, hmy.scope, product_scope, product_scope, Scope.union_comm]
  · rw [hmx.qualified, hmy.qualified, hdictionary]
  · intro c
    by_cases hc : c ∈ columns
    · obtain ⟨v, w, hv, hw, -⟩ := hequated c hc
      exact ⟨fun _ => ⟨w, hw⟩, fun _ => ⟨v, hv⟩⟩
    · rw [hother c hc]
  · rw [hxatoms]
    exact .rfl
  · rw [hyatoms]
    exact List.perm_append_comm.append_right turned

/-- **The operands of a join on equal columns may change places.** For any two sources and any columns, USING in the
two orders gives the same error, or two sources that differ in the representatives of the columns only; so does the
natural join. -/
theorem joinUsing_exchange (left right : Expression) :
    (∀ columns, ExchangedOutcome columns (left.joinUsing right columns) (right.joinUsing left columns)) ∧
    ExchangedOutcome (commonColumns left right) (left.naturalJoin right) (right.naturalJoin left) := by
  have husing : ∀ columns, ExchangedOutcome columns (left.joinUsing right columns) (right.joinUsing left columns) := by
    intro columns
    cases hx : left.joinUsing right columns with
    | error error =>
      rw [joinUsing_error_comm hx]
      exact .fails
    | ok x =>
      obtain ⟨y, hy⟩ := exists_joinUsing_comm hx
      rw [hy]
      exact .succeeds (exchanged_of_joinUsing hx hy)
  refine ⟨husing, ?_⟩
  rw [naturalJoin, naturalJoin, commonColumns_comm right left]
  exact husing (commonColumns left right)

end Expression

end FromClause
