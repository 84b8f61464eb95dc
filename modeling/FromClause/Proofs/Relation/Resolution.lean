import FromClause.Proofs.Relation.Tree
/-!
# Bare names over a whole tree

Which bare column names can be resolved over the source of a tree, and to what. A name is rebuilt at every
node from the scopes below it, and a merging join binds it once more; what comes out depends only on how many
leaves expose the name and on the join at the root (`resolve_bare_source`). A name that a join further down
has merged is lost again above it, because two leaves expose it there.

Whatever a reference denotes is a column of a leaf, and has the name that the reference gives it
(`hasColumn_of_get?`).
-/

namespace FromClause

namespace Expression

variable {left right e : Expression} {r : Reference} {c : Identifier} {v : Variable}

/-! ## The outcomes of a resolution -/

theorem resolve_eq_ok : e.resolve r = .ok v ↔ e.dictionary.get? r = some v := by
  rw [resolve]
  cases e.dictionary.get? r with
  | some w => simp
  | none =>
    simp only [reduceCtorEq, iff_false]
    split <;> simp

/-- An absent bare name is ambiguous when several relations expose it, and unresolved otherwise. -/
theorem resolve_bare_of_none (h : e.dictionary.bare? c = none) :
    e.resolve (.bare c) =
      if 1 < (e.scope.occurrences c).length then .error (.ambiguous (.bare c))
      else .error (.unresolved (.bare c)) := by
  rw [Dictionary.bare?] at h
  simp only [resolve, h, Reference.isQualified_bare, Bool.not_false, Bool.true_and,
    Reference.column_bare, Scope.isAmbiguous_iff]

theorem resolve_bare_eq_ambiguous :
    e.resolve (.bare c) = .error (.ambiguous (.bare c)) ↔
      e.dictionary.bare? c = none ∧ 1 < (e.scope.occurrences c).length := by
  cases h : e.dictionary.bare? c with
  | some v => simp [resolve_eq_ok.2 h]
  | none =>
    rw [resolve_bare_of_none h]
    split <;> simp_all

theorem resolve_bare_eq_unresolved :
    e.resolve (.bare c) = .error (.unresolved (.bare c)) ↔
      e.dictionary.bare? c = none ∧ (e.scope.occurrences c).length ≤ 1 := by
  cases h : e.dictionary.bare? c with
  | some v => simp [resolve_eq_ok.2 h]
  | none =>
    rw [resolve_bare_of_none h]
    split <;> simp_all

/-- **A bare name after a join** denotes the left column when the join merges it, and otherwise what it denotes
in the product. -/
theorem bare?_join_iff {κ : Type} [JoinCondition κ] {kind : JoinKind κ} (h : left.join right kind = .ok e) :
    e.dictionary.bare? c = some v ↔
      c ∈ kind.merged left right ∧ left.dictionary.bare? c = some v ∨
        (∀ w, ¬(c ∈ kind.merged left right ∧ left.dictionary.bare? c = some w)) ∧
          (product left right).dictionary.bare? c = some v := by
  obtain ⟨-, -, atoms, bound, rfl, hbound⟩ := join_ok h
  have single : ∀ c v w, (c, v) ∈ bound → (c, w) ∈ bound → v = w := fun c v w hv hw =>
    Option.some_inj.1 (((hbound c v).1 hv).2.symm.trans ((hbound c w).1 hw).2)
  simp only [extend_dictionary, Dictionary.bare?_rebind single, hbound]

/-- Where the sides are well formed, it is a merged column, which denotes the left one, or a name that a single
relation exposes. -/
theorem bare?_join {κ : Type} [JoinCondition κ] {kind : JoinKind κ} (hl : left.WellFormed)
    (hr : right.WellFormed) (h : left.join right kind = .ok e) :
    e.dictionary.bare? c = some v ↔
      c ∈ kind.merged left right ∧ left.dictionary.bare? c = some v ∨
        ∃ R, e.scope.occurrences c = [R] ∧ e.dictionary.get? (.qualified R c) = some v := by
  rw [bare?_join_iff h]
  obtain ⟨hs, hj, atoms, bound, rfl, -⟩ := join_ok h
  simp only [extend_dictionary, extend_scope, bare?_product, Dictionary.get?_qualified_rebind]
  refine or_congr_right (and_iff_right_of_imp ?_)
  -- a merged name has two relations behind it, so it is not exposed by a single one
  rintro ⟨R, hR, -⟩ w ⟨hc, -⟩
  have := hl.occurrences_of_merged hr hs (hj c hc)
  rw [hR, List.length_singleton] at this
  omega

end Expression

namespace JoinTree

/-! ## Columns of the leaves -/

section Columns

variable {κ : Type} {t : JoinTree Leaf κ} {c : Identifier} {v : Variable}

/-- Some leaf of the tree binds a column name to a variable. -/
def HasColumn (t : JoinTree Leaf κ) (c : Identifier) (v : Variable) : Prop :=
  ∃ l ∈ t.leaves, (c, v) ∈ l.columns

theorem hasColumn_join {kind : JoinKind κ} {left right : JoinTree Leaf κ} :
    (join kind left right).HasColumn c v ↔ left.HasColumn c v ∨ right.HasColumn c v := by
  simp only [HasColumn, leaves, List.mem_append, or_and_right, exists_or]

variable [JoinCondition κ] {e : Expression}

/-- A qualified reference over a tree denotes a column of a leaf. -/
theorem hasColumn_of_get?_qualified {R : RelationId} (h : t.source = .ok e)
    (hv : e.dictionary.get? (.qualified R c) = some v) : t.HasColumn c v := by
  obtain ⟨s, hs, hv⟩ := (get?_qualified_fold h).1 hv
  rw [leaves_map] at hs
  obtain ⟨l, hl, rfl⟩ := List.mem_map.1 hs
  exact ⟨l, hl, Leaf.mem_columns_of_get? hv⟩

/-- **Whatever a tree looks up is a column of a leaf**, of the name that the reference has. -/
theorem hasColumn_of_get? (h : t.source = .ok e) {r : Reference} (hv : e.dictionary.get? r = some v) :
    t.HasColumn r.column v := by
  induction t generalizing e r with
  | leaf l =>
    cases h
    exact ⟨l, List.mem_singleton_self l, Leaf.mem_columns_of_get? hv⟩
  | join kind left right ihl ihr =>
    rcases r.eq_bare_or_eq_qualified with hr | ⟨R, hr⟩
    · obtain ⟨x, y, hx, hy, he⟩ := source_join_eq_ok.1 h
      obtain ⟨hs, -⟩ := Expression.join_ok he
      rw [hr] at hv
      rcases (Expression.bare?_join_iff he).1 hv with ⟨-, hv⟩ | ⟨-, hv⟩
      · -- the join has merged the name, which denotes what it denotes on the left
        have hleft : left.HasColumn r.column v := ihl (r := .bare r.column) hx hv
        exact hasColumn_join.2 (.inl hleft)
      · -- otherwise the name is that of the only relation that exposes it
        obtain ⟨R, -, hv⟩ := Expression.bare?_product.1 hv
        have hcolumn := hasColumn_of_get?_qualified (source_cross hx hy hs) hv
        exact hasColumn_join.2 (hasColumn_join.1 hcolumn)
    · rw [hr] at hv
      exact hasColumn_of_get?_qualified h hv

/-- **A reference that a tree resolves is one that some leaf resolves.** -/
theorem exists_leaf_resolve (h : t.source = .ok e) {r : Reference} (hv : e.resolve r = .ok v) :
    ∃ l ∈ t.leaves, ∃ w, l.expression.resolve r = .ok w := by
  simp only [Expression.resolve_eq_ok] at hv ⊢
  rcases r.eq_bare_or_eq_qualified with hr | ⟨R, hr⟩
  · obtain ⟨l, hl, hcolumn⟩ := hasColumn_of_get? h hv
    rw [hr]
    exact ⟨l, hl, Leaf.exists_bare?_of_mem_columns hcolumn⟩
  · rw [hr] at hv ⊢
    obtain ⟨s, hs, hv⟩ := (get?_qualified_fold h).1 hv
    rw [leaves_map] at hs
    obtain ⟨l, hl, rfl⟩ := List.mem_map.1 hs
    exact ⟨l, hl, v, hv⟩

end Columns

/-! ## Names that leaves expose -/

variable {κ : Type} [JoinCondition κ] {t : JoinTree Leaf κ} {e : Expression} {c : Identifier}
  {v : Variable}

/-- A merged column is exposed by one leaf on either side. -/
theorem length_exposing_of_mergesAtRoot {kind : JoinKind κ} {left right : JoinTree Leaf κ}
    (distinct : (join kind left right).Distinct) (h : (join kind left right).source = .ok e)
    (hc : (join kind left right).MergesAtRoot c) :
    (left.exposing c).length = 1 ∧ (right.exposing c).length = 1 := by
  obtain ⟨hdl, hdr⟩ := distinct_join.1 distinct
  obtain ⟨x, y, hx, hy, he⟩ := source_join_eq_ok.1 h
  obtain ⟨-, hj, -⟩ := Expression.join_ok he
  exact (joinable_source hdl hdr hx hy).1 (hj c ((mem_merged hdl hdr hx hy).2 hc))

/-- Where a column has been merged, two leaves at least expose it. -/
theorem two_le_of_merges (distinct : t.Distinct) (h : t.source = .ok e) (hc : t.Merges c) :
    2 ≤ (t.exposing c).length := by
  induction t generalizing e with
  | leaf l => exact hc.elim
  | join kind left right ihl ihr =>
    obtain ⟨hdl, hdr⟩ := distinct_join.1 distinct
    obtain ⟨x, y, hx, hy, -⟩ := source_join_eq_ok.1 h
    rw [exposing_join, List.length_append]
    rcases hc with hc | hc | hc
    · have := length_exposing_of_mergesAtRoot distinct h hc
      omega
    · have := ihl hdl hx hc
      omega
    · have := ihr hdr hy hc
      omega

/-- **A bare name over a join of trees**: the join merges it, and it denotes the column of the only leaf on the
left that exposes it, or only one leaf exposes it. -/
theorem bare?_source_join {kind : JoinKind κ} {left right : JoinTree Leaf κ}
    (distinct : (join kind left right).Distinct) (h : (join kind left right).source = .ok e) :
    e.dictionary.bare? c = some v ↔
      (join kind left right).MergesAtRoot c ∧ (∃ l, left.exposing c = [l] ∧ (c, v) ∈ l.columns) ∨
        ∃ l, (join kind left right).exposing c = [l] ∧ (c, v) ∈ l.columns := by
  obtain ⟨hdl, hdr⟩ := distinct_join.1 distinct
  obtain ⟨x, y, hx, hy, he⟩ := source_join_eq_ok.1 h
  rw [Expression.bare?_join (wellFormed_source hdl hx) (wellFormed_source hdr hy) he,
    mem_merged hdl hdr hx hy]
  refine or_congr (and_congr_right fun hc => ?_) (exposed_once_iff distinct h)
  obtain ⟨l, hl⟩ := List.length_eq_one_iff.1 (length_exposing_of_mergesAtRoot distinct h hc).1
  rw [bare?_source_of_unique hdl hx hl]
  simp [hl]

/-- A bare name is bound when one leaf exposes it or the root merges it, and only then. -/
theorem exists_bare?_source (distinct : t.Distinct) (h : t.source = .ok e) :
    (∃ v, e.dictionary.bare? c = some v) ↔ (t.exposing c).length = 1 ∨ t.MergesAtRoot c := by
  have unique : (t.exposing c).length = 1 → ∃ v, e.dictionary.bare? c = some v := fun hlen => by
    obtain ⟨l, hl⟩ := List.length_eq_one_iff.1 hlen
    obtain ⟨v, hv⟩ := exists_column hl
    exact ⟨v, (bare?_source_of_unique distinct h hl).2 hv⟩
  refine ⟨fun ⟨v, hv⟩ => ?_, fun hor => hor.elim unique fun hc => ?_⟩
  · cases t with
    | leaf l =>
      cases h
      have hc := Leaf.mem_names.2 ⟨v, (Leaf.bare?_expression (distinct l (List.mem_singleton_self l))).1 hv⟩
      exact .inl (by simp [hc])
    | join kind left right =>
      rcases (bare?_source_join distinct h).1 hv with ⟨hc, -⟩ | ⟨l, hl, -⟩
      · exact .inr hc
      · exact .inl (by rw [hl, List.length_singleton])
  · cases t with
    | leaf l => exact hc.elim
    | join kind left right =>
      obtain ⟨l, hl⟩ := List.length_eq_one_iff.1 (length_exposing_of_mergesAtRoot distinct h hc).1
      obtain ⟨v, hv⟩ := exists_column hl
      exact ⟨v, (bare?_source_join distinct h).2 (.inl ⟨hc, l, hl, hv⟩)⟩

/-! ## What a bare name resolves to -/

theorem bare?_source_eq_none_iff (distinct : t.Distinct) (h : t.source = .ok e) :
    e.dictionary.bare? c = none ↔ (t.exposing c).length ≠ 1 ∧ ¬t.MergesAtRoot c := by
  rw [← not_or, ← exists_bare?_source distinct h, ← Option.isSome_iff_exists,
    Option.not_isSome_iff_eq_none]

/-- A name that one leaf exposes resolves to the column of that leaf. -/
theorem resolve_bare_of_unique (distinct : t.Distinct) (h : t.source = .ok e) {l : Leaf}
    (hl : t.exposing c = [l]) : ∃ v, (c, v) ∈ l.columns ∧ e.resolve (.bare c) = .ok v := by
  obtain ⟨v, hv⟩ := exists_column hl
  exact ⟨v, hv, Expression.resolve_eq_ok.2 ((bare?_source_of_unique distinct h hl).2 hv)⟩

/-- A name that the root merges resolves to the column of the only leaf on the left that exposes it. -/
theorem resolve_bare_of_mergesAtRoot {kind : JoinKind κ} {left right : JoinTree Leaf κ}
    (distinct : (join kind left right).Distinct) (h : (join kind left right).source = .ok e)
    (hc : (join kind left right).MergesAtRoot c) :
    ∃ l v, left.exposing c = [l] ∧ (c, v) ∈ l.columns ∧ e.resolve (.bare c) = .ok v := by
  obtain ⟨l, hl⟩ := List.length_eq_one_iff.1 (length_exposing_of_mergesAtRoot distinct h hc).1
  obtain ⟨v, hv⟩ := exists_column hl
  have hbare : e.dictionary.bare? c = some v := (bare?_source_join distinct h).2 (.inl ⟨hc, l, hl, hv⟩)
  exact ⟨l, v, hl, hv, Expression.resolve_eq_ok.2 hbare⟩

/-- A name is unresolved when no leaf exposes it. -/
theorem resolve_bare_unresolved_iff (distinct : t.Distinct) (h : t.source = .ok e) :
    e.resolve (.bare c) = .error (.unresolved (.bare c)) ↔ (t.exposing c).length = 0 := by
  rw [Expression.resolve_bare_eq_unresolved, bare?_source_eq_none_iff distinct h,
    length_occurrences_source distinct h]
  constructor
  · rintro ⟨⟨hone, -⟩, hle⟩
    omega
  · intro hzero
    refine ⟨⟨by omega, fun hc => ?_⟩, by omega⟩
    have := two_le_of_merges distinct h hc.merges
    omega

/-- A name is ambiguous when leaves expose it, but not one alone, and the root does not merge it. -/
theorem resolve_bare_ambiguous_iff (distinct : t.Distinct) (h : t.source = .ok e) :
    e.resolve (.bare c) = .error (.ambiguous (.bare c)) ↔
      (t.exposing c).length ≠ 0 ∧ (t.exposing c).length ≠ 1 ∧ ¬t.MergesAtRoot c := by
  rw [Expression.resolve_bare_eq_ambiguous, bare?_source_eq_none_iff distinct h,
    length_occurrences_source distinct h]
  constructor
  · rintro ⟨⟨hone, hc⟩, hlt⟩
    exact ⟨by omega, hone, hc⟩
  · rintro ⟨hzero, hone, hc⟩
    exact ⟨⟨hone, hc⟩, by omega⟩

/-- **A name that a join below the root merges** is ambiguous. -/
theorem resolve_bare_of_merges {kind : JoinKind κ} {left right : JoinTree Leaf κ}
    (distinct : (join kind left right).Distinct) (h : (join kind left right).source = .ok e)
    (hc : left.Merges c ∨ right.Merges c) :
    e.resolve (.bare c) = .error (.ambiguous (.bare c)) := by
  obtain ⟨hdl, hdr⟩ := distinct_join.1 distinct
  obtain ⟨x, y, hx, hy, -⟩ := source_join_eq_ok.1 h
  have htwo : 2 ≤ (left.exposing c).length ∨ 2 ≤ (right.exposing c).length :=
    hc.imp (two_le_of_merges hdl hx) (two_le_of_merges hdr hy)
  rw [resolve_bare_ambiguous_iff distinct h, exposing_join, List.length_append]
  refine ⟨by omega, by omega, fun hroot => ?_⟩
  -- the root could merge the name only if one leaf of either side exposed it
  have := length_exposing_of_mergesAtRoot distinct h hroot
  omega

/-- **Bare names over the source of a tree.** A name is resolved when one leaf exposes it, to the column of
that leaf, or when the root merges it, to the column of the only leaf on the left that exposes it. A name that
no leaf exposes is unresolved; every other name is ambiguous, among them each that a join below the root
merges. -/
theorem resolve_bare_source (distinct : t.Distinct) (h : t.source = .ok e) (c : Identifier) :
    ((∃ v, e.resolve (.bare c) = .ok v) ↔ (t.exposing c).length = 1 ∨ t.MergesAtRoot c) ∧
    (∀ l, t.exposing c = [l] → ∃ v, (c, v) ∈ l.columns ∧ e.resolve (.bare c) = .ok v) ∧
    (∀ kind left right, t = join kind left right → t.MergesAtRoot c →
      ∃ l v, left.exposing c = [l] ∧ (c, v) ∈ l.columns ∧ e.resolve (.bare c) = .ok v) ∧
    (e.resolve (.bare c) = .error (.unresolved (.bare c)) ↔ (t.exposing c).length = 0) ∧
    (e.resolve (.bare c) = .error (.ambiguous (.bare c)) ↔
      (t.exposing c).length ≠ 0 ∧ (t.exposing c).length ≠ 1 ∧ ¬t.MergesAtRoot c) ∧
    ∀ kind left right, t = join kind left right → left.Merges c ∨ right.Merges c →
      e.resolve (.bare c) = .error (.ambiguous (.bare c)) := by
  refine ⟨?_, fun l hl => resolve_bare_of_unique distinct h hl, ?_,
    resolve_bare_unresolved_iff distinct h, resolve_bare_ambiguous_iff distinct h, ?_⟩
  · exact (exists_congr fun _ => Expression.resolve_eq_ok).trans (exists_bare?_source distinct h)
  · rintro kind left right rfl hc
    exact resolve_bare_of_mergesAtRoot distinct h hc
  · rintro kind left right rfl hc
    exact resolve_bare_of_merges distinct h hc

end JoinTree

namespace Sample

open JoinTree

/-- Above the natural join its column is ambiguous, while a name of one leaf is found there. -/
theorem resolve_bare_clause :
    ∃ e, (clause .cross : JoinTree Leaf Expression.Translation).source = .ok e ∧
      e.resolve (.bare id) = .error (.ambiguous (.bare id)) ∧
      ∃ v, (name, v) ∈ staff.columns ∧ e.resolve (.bare name) = .ok v := by
  obtain ⟨e, h⟩ := isOk_iff.1 (by decide :
    (clause .cross : JoinTree Leaf Expression.Translation).source.isOk = true)
  obtain ⟨-, -, -, -, -, hbelow⟩ := resolve_bare_source (distinct_clause _) h id
  obtain ⟨-, hunique, -⟩ := resolve_bare_source (distinct_clause _) h name
  have hmerged : (join .natural (leaf salary) (leaf staff) :
      JoinTree Leaf Expression.Translation).MergesAtRoot id :=
    ⟨List.cons_ne_nil _ _, List.cons_ne_nil _ _⟩
  exact ⟨e, h, hbelow _ _ _ rfl (.inl hmerged.merges), hunique staff rfl⟩

end Sample

end FromClause
