import FromClause.Proofs.Relation.Tree
/-!
# Cross joins, in any order and any brackets

A tree of cross joins denotes what its leaves denote together: how they are bracketed does not matter, and
their order shows in the order of the atoms only (`fold_cross_perm`). The leaves may be any sources.

The bare names are the part that takes an argument. A product drops those of its operands and binds them anew,
from a scope that has grown on the way up. Over the whole tree this comes to one rule at the root
(`bare?_fold_cross`), which mentions the scope and the qualified references alone, and those are settled by the
leaves.
-/

namespace FromClause

/-- No relation qualifies references over both sources. -/
def Expression.Apart (x y : Expression) : Prop := ∀ R ∈ x.relations.toList, R ∉ y.relations.toList

instance {x y : Expression} : Decidable (x.Apart y) := by
  unfold Expression.Apart
  infer_instance

theorem Expression.Apart.symm {x y : Expression} (h : x.Apart y) : y.Apart x :=
  fun R hy hx => h R hx hy

namespace JoinTree

variable {α κ : Type}

/-! ## Trees of cross joins -/

/-- Every join of the tree is a cross join. -/
def OnlyCross (t : JoinTree α κ) : Prop := ∀ kind ∈ t.kinds, kind = .cross

theorem onlyCross_join {kind : JoinKind κ} {left right : JoinTree α κ} :
    (join kind left right).OnlyCross ↔ kind = .cross ∧ left.OnlyCross ∧ right.OnlyCross := by
  simp only [OnlyCross, kinds, List.forall_mem_cons, List.forall_mem_append]

theorem leaves_ne_nil (t : JoinTree α κ) : t.leaves ≠ [] := by
  induction t with
  | leaf source => exact List.cons_ne_nil _ _
  | join kind left right ihl _ => exact fun h => ihl (List.append_eq_nil_iff.1 h).1

/-- A tree over a single leaf is that leaf. -/
theorem eq_leaf_of_leaves {t : JoinTree α κ} {source : α} (h : t.leaves = [source]) : t = leaf source := by
  cases t with
  | leaf s => rw [List.singleton_inj.1 h]
  | join kind left right =>
    have hlen : left.leaves.length + right.leaves.length = 1 := by
      rw [← List.length_append]
      exact congrArg List.length h
    have hl := List.length_pos_iff.2 left.leaves_ne_nil
    have hr := List.length_pos_iff.2 right.leaves_ne_nil
    omega

variable [JoinCondition κ] {t u : JoinTree Expression κ} {e : Expression}

/-! ## When they fold -/

/-- A tree of cross joins fails for a shared relation only. -/
theorem fold_cross_error (ht : t.OnlyCross) {error : JoinError} (h : t.fold = .error error) :
    ∃ R, error = .sharedRelation R := by
  induction t generalizing error with
  | leaf source => cases h
  | join kind left right ihl ihr =>
    obtain ⟨rfl, hl, hr⟩ := onlyCross_join.1 ht
    rw [fold] at h
    cases hx : left.fold with
    | error e =>
      rw [hx] at h
      cases h
      exact ihl hl hx
    | ok x =>
      cases hy : right.fold with
      | error e =>
        rw [hx, hy] at h
        cases h
        exact ihr hr hy
      | ok y =>
        rw [hx, hy] at h
        have h : Expression.crossJoin x y = .error error := h
        rw [Expression.crossJoin] at h
        split at h
        · cases h
          exact ⟨_, rfl⟩
        · cases h

/-- **A tree of cross joins folds** when no two of its leaves share a relation, and only then. -/
theorem exists_fold_cross_iff (ht : t.OnlyCross) :
    (∃ e, t.fold = .ok e) ↔ t.leaves.Pairwise Expression.Apart := by
  induction t with
  | leaf source => exact ⟨fun _ => List.pairwise_singleton _ _, fun _ => ⟨source, rfl⟩⟩
  | join kind left right ihl ihr =>
    obtain ⟨rfl, hl, hr⟩ := onlyCross_join.1 ht
    rw [leaves, List.pairwise_append, ← ihl hl, ← ihr hr]
    constructor
    · rintro ⟨e, h⟩
      obtain ⟨x, y, hx, hy, he⟩ := fold_join_eq_ok.1 h
      obtain ⟨hs, -⟩ := Expression.crossJoin_eq_ok.1 he
      exact ⟨⟨x, hx⟩, ⟨y, hy⟩, (shared?_fold_eq_none hx hy).1 hs⟩
    · rintro ⟨⟨x, hx⟩, ⟨y, hy⟩, hapart⟩
      have hs := (shared?_fold_eq_none hx hy).2 hapart
      exact ⟨_, fold_join_eq_ok.2 ⟨x, y, hx, hy, Expression.crossJoin_eq_ok.2 ⟨hs, rfl⟩⟩⟩

/-! ## What they fold to -/

/-- The atoms are those of the leaves, from left to right. -/
theorem atoms_fold_cross (ht : t.OnlyCross) (h : t.fold = .ok e) :
    e.atoms = t.leaves.flatMap Expression.atoms := by
  induction t generalizing e with
  | leaf source =>
    cases h
    exact (List.flatMap_singleton ..).symm
  | join kind left right ihl ihr =>
    obtain ⟨rfl, hl, hr⟩ := onlyCross_join.1 ht
    obtain ⟨x, y, hx, hy, he⟩ := fold_join_eq_ok.1 h
    obtain ⟨-, rfl⟩ := Expression.crossJoin_eq_ok.1 he
    rw [leaves, List.flatMap_append, ← ihl hl hx, ← ihr hr hy]
    rfl

/-- **A bare name over cross joins** denotes the column of the only relation that exposes it. -/
theorem bare?_fold_cross {left right : JoinTree Expression κ} (h : (join .cross left right).fold = .ok e)
    {c : Identifier} {v : Variable} :
    e.dictionary.bare? c = some v ↔
      ∃ R, e.scope.occurrences c = [R] ∧ e.dictionary.get? (.qualified R c) = some v := by
  obtain ⟨x, y, -, -, he⟩ := fold_join_eq_ok.1 h
  obtain ⟨-, rfl⟩ := Expression.crossJoin_eq_ok.1 he
  exact Expression.bare?_product

/-- **The dictionary of cross joins is settled by the leaves.** -/
theorem dictionary_fold_cross_congr {x y : Expression} (ht : t.OnlyCross) (hu : u.OnlyCross)
    (hx : t.fold = .ok x) (hy : u.fold = .ok y) (h : t.leaves.Perm u.leaves) :
    x.dictionary = y.dictionary := by
  have hmem : ∀ s, s ∈ t.leaves ↔ s ∈ u.leaves := fun s => h.mem_iff
  have hscope : x.scope = y.scope := scope_fold_congr hx hy hmem
  have hqualified : ∀ R c, x.dictionary.get? (.qualified R c) = y.dictionary.get? (.qualified R c) :=
    fun R c => get?_qualified_fold_congr hx hy hmem
  cases t with
  | leaf a =>
    -- the other tree has no more than the one leaf, so it is the same tree
    obtain rfl : u = leaf a := eq_leaf_of_leaves (List.perm_singleton.1 h.symm)
    rw [Except.ok.inj (hx.symm.trans hy)]
  | join kind left right =>
    cases u with
    | leaf b =>
      have heq := eq_leaf_of_leaves (t := join kind left right) (List.perm_singleton.1 h)
      cases heq
    | join kind' left' right' =>
      obtain rfl := (onlyCross_join.1 ht).1
      obtain rfl := (onlyCross_join.1 hu).1
      refine SortedMap.ext_get? fun r => ?_
      rcases r.eq_bare_or_eq_qualified with hr | ⟨R, hr⟩
      · rw [hr]
        refine Option.ext fun v => ?_
        refine (bare?_fold_cross hx).trans (Iff.trans ?_ (bare?_fold_cross hy).symm)
        simp only [hscope, hqualified]
      · rw [hr, hqualified]

/-- **Cross joins do not depend on brackets or order.** Of two trees of cross joins over the same leaves either
both fail, for a relation that is shared, because two leaves share one; or no two leaves do, and both have
sources, with the same dictionary and the same scope, and with the same atoms up to their order. The atoms
stand in the same order where the leaves do. -/
theorem fold_cross_perm (ht : t.OnlyCross) (hu : u.OnlyCross) (h : t.leaves.Perm u.leaves) :
    (¬t.leaves.Pairwise Expression.Apart ∧ (∃ R, t.fold = .error (.sharedRelation R)) ∧
      ∃ R, u.fold = .error (.sharedRelation R)) ∨
    (t.leaves.Pairwise Expression.Apart ∧ ∃ x y, t.fold = .ok x ∧ u.fold = .ok y ∧
      x.dictionary = y.dictionary ∧ x.scope = y.scope ∧ x.atoms.Perm y.atoms ∧
      (t.leaves = u.leaves → x.atoms = y.atoms)) := by
  have hiff : t.leaves.Pairwise Expression.Apart ↔ u.leaves.Pairwise Expression.Apart :=
    h.pairwise_iff fun h => h.symm
  have fails : ∀ {t : JoinTree Expression κ}, t.OnlyCross → ¬t.leaves.Pairwise Expression.Apart →
      ∃ R, t.fold = .error (.sharedRelation R) := by
    intro t ht hnot
    cases hx : t.fold with
    | error error =>
      obtain ⟨R, rfl⟩ := fold_cross_error ht hx
      exact ⟨R, rfl⟩
    | ok x => exact absurd ((exists_fold_cross_iff ht).1 ⟨x, hx⟩) hnot
  by_cases hapart : t.leaves.Pairwise Expression.Apart
  · obtain ⟨x, hx⟩ := (exists_fold_cross_iff ht).2 hapart
    obtain ⟨y, hy⟩ := (exists_fold_cross_iff hu).2 (hiff.1 hapart)
    refine .inr ⟨hapart, x, y, hx, hy, dictionary_fold_cross_congr ht hu hx hy h,
      scope_fold_congr hx hy fun s => h.mem_iff, ?_, fun hleaves => ?_⟩
    · rw [atoms_fold_cross ht hx, atoms_fold_cross hu hy]
      exact h.flatMap_right Expression.atoms
    · rw [atoms_fold_cross ht hx, atoms_fold_cross hu hy, hleaves]
  · exact .inl ⟨hapart, fails ht hapart, fails hu (hapart ∘ hiff.2)⟩

end JoinTree

namespace Sample

open JoinTree

/-- A source that is put together by hand: its scope has a name that no relation exposes. -/
def adrift : Expression := ⟨[.truth true], ∅, SortedMap.ofList [(id, ∅)]⟩

/-- Three sources in one order and in the other, under other brackets. -/
theorem fold_cross_regrouped :
    ∃ x y, (join .cross (join .cross (leaf salary.expression) (leaf staff.expression)) (leaf adrift) :
        JoinTree Expression Expression.Translation).fold = .ok x ∧
      (join .cross (leaf adrift) (join .cross (leaf staff.expression) (leaf salary.expression)) :
        JoinTree Expression Expression.Translation).fold = .ok y ∧
      x.dictionary = y.dictionary ∧ x.scope = y.scope ∧ x.atoms.Perm y.atoms := by
  have hleaves : [salary.expression, staff.expression, adrift].Perm
      [adrift, staff.expression, salary.expression] := (List.reverse_perm _).symm
  have hapart : [salary.expression, staff.expression, adrift].Pairwise Expression.Apart := by decide
  obtain ⟨hnot, -⟩ | ⟨-, x, y, hx, hy, hd, hs, ha, -⟩ := fold_cross_perm
    (t := (join .cross (join .cross (leaf salary.expression) (leaf staff.expression)) (leaf adrift) :
      JoinTree Expression Expression.Translation))
    (u := join .cross (leaf adrift) (join .cross (leaf staff.expression) (leaf salary.expression)))
    (by simp [OnlyCross, kinds]) (by simp [OnlyCross, kinds]) hleaves
  · exact absurd hapart hnot
  · exact ⟨x, y, hx, hy, hd, hs, ha⟩

end Sample

end FromClause
