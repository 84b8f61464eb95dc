import FromClause.Proofs.Relation.Join
import FromClause.Proofs.Relation.Leaf
/-!
# What every source keeps

A source has its columns three times over: in the dictionary under qualified references, in the dictionary
under bare names, and in the scope. `WellFormed` says how the three agree. It is weaker than what one would
write down first, in two places. A merged name is bound although two relations expose it, so a bare name only
has to denote *some* column of that name. And a catalog leaf with a schema also answers to its bare table
name, which is no relation of the scope, so a qualified reference may have to be traced to the full name.

Leaves are well formed and every join keeps it (`WellFormed.join`); the argument for a join needs that its
operands share no relation, which is why a merged column always has two relations behind it.
-/

namespace FromClause

namespace Expression

variable {left right e : Expression} {R S : RelationId} {c : Identifier} {v : Variable}

/-- **The agreement of scope, dictionary and atoms** that leaves have and joins keep. -/
structure WellFormed (e : Expression) : Prop where
  /-- Every name in the scope is exposed by a relation. -/
  occurrences_ne_nil {c : Identifier} :
    e.scope.contains c = true → e.scope.occurrences c ≠ []
  /-- A relation that exposes a name qualifies it. -/
  qualified_of_exposed {c : Identifier} {R : RelationId} :
    R ∈ e.scope.occurrences c → ∃ v, e.dictionary.get? (.qualified R c) = some v
  /-- A qualified reference denotes the column of a relation that exposes its name: of the qualifying one, or
  of one with a schema whose bare table name qualifies it. -/
  exposed_of_qualified {c : Identifier} {R : RelationId} {v : Variable} :
    e.dictionary.get? (.qualified R c) = some v →
      ∃ S ∈ e.scope.occurrences c, e.dictionary.get? (.qualified S c) = some v ∧
        (S = R ∨ R.schema = none ∧ S.hasSchema = true ∧ S.table = R.table)
  /-- A name that one relation exposes is bound to the column of that relation. -/
  bare_of_unique {c : Identifier} {R : RelationId} :
    e.scope.occurrences c = [R] →
      ∃ v, e.dictionary.bare? c = some v ∧ e.dictionary.get? (.qualified R c) = some v
  /-- A bare name is in the scope and denotes the column of a relation that exposes it. -/
  exposed_of_bare {c : Identifier} {v : Variable} :
    e.dictionary.bare? c = some v → e.scope.contains c = true ∧
      ∃ R ∈ e.scope.occurrences c, e.dictionary.get? (.qualified R c) = some v
  /-- Every variable of the dictionary is an argument of a relation. -/
  mem_data {r : Reference} {v : Variable} :
    e.dictionary.get? r = some v → ∃ p args, .data p args ∈ e.atoms ∧ .var v ∈ args

/-! ## Leaves -/

/-- **A leaf is well formed**, given that no column name of it repeats. -/
theorem WellFormed.ofLeaf {l : Leaf} (h : l.Distinct) : WellFormed l.expression where
  occurrences_ne_nil {c} hc := by
    rw [Leaf.contains_scope] at hc
    exact List.ne_nil_of_mem (Leaf.mem_occurrences.2 ⟨rfl, hc⟩)
  qualified_of_exposed {c R} hR := by
    obtain ⟨rfl, hc⟩ := Leaf.mem_occurrences.1 hR
    obtain ⟨v, hv⟩ := Leaf.mem_names.1 hc
    exact ⟨v, (Leaf.get?_qualified h).2 ⟨l.answersTo_exposed, hv⟩⟩
  exposed_of_qualified {c R v} hv := by
    obtain ⟨hR, hv⟩ := (Leaf.get?_qualified h).1 hv
    refine ⟨l.exposed, Leaf.mem_occurrences.2 ⟨rfl, Leaf.mem_names.2 ⟨v, hv⟩⟩, ?_, hR.eq_exposed_or⟩
    exact (Leaf.get?_qualified h).2 ⟨l.answersTo_exposed, hv⟩
  bare_of_unique {c R} hR := by
    obtain ⟨rfl, hc⟩ := Leaf.mem_occurrences.1 (hR ▸ List.mem_singleton_self R)
    obtain ⟨v, hv⟩ := Leaf.mem_names.1 hc
    exact ⟨v, (Leaf.bare?_expression h).2 hv, (Leaf.get?_qualified h).2 ⟨l.answersTo_exposed, hv⟩⟩
  exposed_of_bare {c v} hv := by
    rw [Leaf.bare?_expression h] at hv
    have hc : c ∈ l.names := Leaf.mem_names.2 ⟨v, hv⟩
    exact ⟨Leaf.contains_scope.2 hc, l.exposed, Leaf.mem_occurrences.2 ⟨rfl, hc⟩,
      (Leaf.get?_qualified h).2 ⟨l.answersTo_exposed, hv⟩⟩
  mem_data {r v} hv := by
    obtain ⟨-, hv⟩ := (Leaf.get?_expression h).1 hv
    rw [Leaf.expression_atoms]
    exact ⟨_, _, List.mem_singleton_self _, List.mem_map.2 ⟨_, hv, rfl⟩⟩

/-! ## Joins -/

theorem mem_relations_of_get? (h : e.dictionary.get? (.qualified R c) = some v) :
    R ∈ e.relations.toList :=
  Dictionary.mem_relations.2 ⟨c, v, h⟩

/-- Operands without a common relation hand on their qualified references unchanged. -/
theorem get?_qualified_product_iff (hs : shared? left right = none) :
    (product left right).dictionary.get? (.qualified R c) = some v ↔
      left.dictionary.get? (.qualified R c) = some v ∨
        right.dictionary.get? (.qualified R c) = some v := by
  rw [get?_qualified_product, Option.or_eq_some_iff]
  constructor
  · rintro (h | ⟨-, h⟩)
    · exact .inr h
    · exact .inl h
  · rintro (h | h)
    · -- the right side has no entry for the relation, so it does not hide this one
      refine .inr ⟨?_, h⟩
      by_contra hne
      obtain ⟨w, hw⟩ := Option.ne_none_iff_exists'.1 hne
      exact shared?_eq_none.1 hs R (mem_relations_of_get? h) (mem_relations_of_get? hw)
    · exact .inl h

namespace WellFormed

/-- A relation that exposes a name is a relation of the source. -/
theorem mem_relations (h : WellFormed e) (hR : R ∈ e.scope.occurrences c) : R ∈ e.relations.toList :=
  let ⟨_, hv⟩ := h.qualified_of_exposed hR
  mem_relations_of_get? hv

/-- The name is there when a relation exposes it, and only then. -/
theorem contains_iff (h : WellFormed e) : e.scope.contains c = true ↔ e.scope.occurrences c ≠ [] := by
  refine ⟨h.occurrences_ne_nil, fun hne => ?_⟩
  obtain ⟨R, hR⟩ := List.exists_mem_of_ne_nil _ hne
  exact Scope.contains_of_mem_occurrences hR

/-- No relation exposes a name on both sides of a join. -/
theorem not_mem_occurrences (hl : WellFormed left) (hr : WellFormed right)
    (hs : shared? left right = none) (hR : R ∈ left.scope.occurrences c) :
    R ∉ right.scope.occurrences c := fun hR' =>
  shared?_eq_none.1 hs R (hl.mem_relations hR) (hr.mem_relations hR')

/-- **The occurrences of a join add up.** -/
theorem length_occurrences (hl : WellFormed left) (hr : WellFormed right)
    (hs : shared? left right = none) (c : Identifier) :
    ((product left right).scope.occurrences c).length =
      (left.scope.occurrences c).length + (right.scope.occurrences c).length :=
  Scope.length_occurrences_union fun _ hR => hl.not_mem_occurrences hr hs hR

/-- **What USING asks of a column, counted**: one relation on either side exposes it. The bare names are then
found without fail. -/
theorem joinable_iff (hl : WellFormed left) (hr : WellFormed right) :
    Joinable left right c ↔
      (left.scope.occurrences c).length = 1 ∧ (right.scope.occurrences c).length = 1 := by
  constructor
  · intro h
    have hnl := List.length_pos_iff.2 (hl.occurrences_ne_nil h.left_contains)
    have hnr := List.length_pos_iff.2 (hr.occurrences_ne_nil h.right_contains)
    have := h.left_unambiguous
    have := h.right_unambiguous
    omega
  · rintro ⟨hnl, hnr⟩
    obtain ⟨R, hR⟩ := List.length_eq_one_iff.1 hnl
    obtain ⟨S, hS⟩ := List.length_eq_one_iff.1 hnr
    obtain ⟨x, hx, -⟩ := hl.bare_of_unique hR
    obtain ⟨y, hy, -⟩ := hr.bare_of_unique hS
    exact ⟨Nat.le_of_eq hnl, Nat.le_of_eq hnr, (hl.exposed_of_bare hx).1, (hr.exposed_of_bare hy).1, x, y, hx, hy⟩

/-- A merged name has a relation behind it on either side, so two in the join. -/
theorem occurrences_of_merged (hl : WellFormed left) (hr : WellFormed right)
    (hs : shared? left right = none) (hc : Joinable left right c) :
    ((product left right).scope.occurrences c).length = 2 := by
  obtain ⟨hnl, hnr⟩ := (hl.joinable_iff hr).1 hc
  rw [hl.length_occurrences hr hs, hnl, hnr]

/-- A relation that exposes a name in the product qualifies it there. -/
theorem qualified_product (hl : WellFormed left) (hr : WellFormed right) (hs : shared? left right = none)
    (hR : R ∈ (Expression.product left right).scope.occurrences c) :
    ∃ v, (Expression.product left right).dictionary.get? (.qualified R c) = some v := by
  rcases Scope.mem_occurrences_union.1 hR with hR | hR
  · obtain ⟨v, hv⟩ := hl.qualified_of_exposed hR
    exact ⟨v, (get?_qualified_product_iff hs).2 (.inl hv)⟩
  · obtain ⟨v, hv⟩ := hr.qualified_of_exposed hR
    exact ⟨v, (get?_qualified_product_iff hs).2 (.inr hv)⟩

/-- **The product of two well formed sources is well formed**, if they share no relation. -/
theorem product (hl : WellFormed left) (hr : WellFormed right) (hs : shared? left right = none) :
    WellFormed (product left right) where
  occurrences_ne_nil {c} hc := by
    rcases Scope.contains_union.1 hc with hc | hc
    · obtain ⟨R, hR⟩ := List.exists_mem_of_ne_nil _ (hl.occurrences_ne_nil hc)
      exact List.ne_nil_of_mem (Scope.mem_occurrences_union.2 (.inl hR))
    · obtain ⟨R, hR⟩ := List.exists_mem_of_ne_nil _ (hr.occurrences_ne_nil hc)
      exact List.ne_nil_of_mem (Scope.mem_occurrences_union.2 (.inr hR))
  qualified_of_exposed hR := hl.qualified_product hr hs hR
  exposed_of_qualified {c R v} hv := by
    rcases (get?_qualified_product_iff hs).1 hv with hv | hv
    · obtain ⟨S, hS, hSv, hSR⟩ := hl.exposed_of_qualified hv
      exact ⟨S, Scope.mem_occurrences_union.2 (.inl hS), (get?_qualified_product_iff hs).2 (.inl hSv), hSR⟩
    · obtain ⟨S, hS, hSv, hSR⟩ := hr.exposed_of_qualified hv
      exact ⟨S, Scope.mem_occurrences_union.2 (.inr hS), (get?_qualified_product_iff hs).2 (.inr hSv), hSR⟩
  bare_of_unique {c R} hR := by
    obtain ⟨v, hv⟩ := hl.qualified_product hr hs (hR ▸ List.mem_singleton_self R)
    exact ⟨v, bare?_product.2 ⟨R, hR, hv⟩, hv⟩
  exposed_of_bare {c v} hv := by
    obtain ⟨R, hR, hv⟩ := bare?_product.1 hv
    have hmem : R ∈ (Expression.product left right).scope.occurrences c := hR ▸ List.mem_singleton_self R
    exact ⟨Scope.contains_of_mem_occurrences hmem, R, hmem, hv⟩
  mem_data {r v} hv := by
    -- a bare name of the product denotes a column that is qualified as well
    obtain ⟨R, hv⟩ : ∃ R, (Expression.product left right).dictionary.get? (.qualified R r.column) = some v := by
      rcases r.eq_bare_or_eq_qualified with hr | ⟨R, hr⟩
      · rw [hr] at hv
        obtain ⟨R, -, hv⟩ := bare?_product.1 hv
        exact ⟨R, hv⟩
      · exact ⟨R, hr ▸ hv⟩
    rcases (get?_qualified_product_iff hs).1 hv with hv | hv
    · obtain ⟨p, args, hp, ha⟩ := hl.mem_data hv
      exact ⟨p, args, List.mem_append_left _ hp, ha⟩
    · obtain ⟨p, args, hp, ha⟩ := hr.mem_data hv
      exact ⟨p, args, List.mem_append_right _ hp, ha⟩

/-- **Binding ambiguous names keeps a source well formed**, if each is bound to a column of its name. -/
theorem extend (h : WellFormed e) {atoms : List Atom} {bound : List (Identifier × Variable)}
    (single : ∀ c v w, (c, v) ∈ bound → (c, w) ∈ bound → v = w)
    (hbound : ∀ c v, (c, v) ∈ bound → 1 < (e.scope.occurrences c).length ∧
      ∃ R ∈ e.scope.occurrences c, e.dictionary.get? (.qualified R c) = some v) :
    WellFormed (e.extend atoms bound) where
  occurrences_ne_nil := h.occurrences_ne_nil
  qualified_of_exposed hR := by
    simpa using h.qualified_of_exposed hR
  exposed_of_qualified hv := by
    simpa using h.exposed_of_qualified (by simpa using hv)
  bare_of_unique {c R} hR := by
    obtain ⟨v, hv, hRv⟩ := h.bare_of_unique hR
    have hfree : ∀ w, (c, w) ∉ bound := by
      intro w hw
      have := (hbound c w hw).1
      rw [extend_scope] at hR
      rw [hR, List.length_singleton] at this
      omega
    exact ⟨v, (Dictionary.bare?_rebind single).2 (.inr ⟨hfree, hv⟩), by simpa using hRv⟩
  exposed_of_bare {c v} hv := by
    rw [extend_dictionary, Dictionary.bare?_rebind single] at hv
    obtain ⟨R, hR, hRv⟩ : ∃ R ∈ e.scope.occurrences c, e.dictionary.get? (.qualified R c) = some v := by
      rcases hv with hv | ⟨-, hv⟩
      · exact (hbound c v hv).2
      · exact (h.exposed_of_bare hv).2
    exact ⟨Scope.contains_of_mem_occurrences hR, R, hR, by simpa using hRv⟩
  mem_data {r v} hv := by
    obtain ⟨r, hv⟩ : ∃ r, e.dictionary.get? r = some v := by
      rcases r.eq_bare_or_eq_qualified with hr | ⟨R, hr⟩
      · rw [hr] at hv
        rcases (Dictionary.bare?_rebind single).1 hv with hv | ⟨-, hv⟩
        · obtain ⟨-, R, -, hv⟩ := hbound _ v hv
          exact ⟨_, hv⟩
        · exact ⟨_, hv⟩
      · rw [hr, extend_dictionary, Dictionary.get?_qualified_rebind] at hv
        exact ⟨_, hv⟩
    obtain ⟨p, args, hp, ha⟩ := h.mem_data hv
    exact ⟨p, args, List.mem_append_left _ hp, ha⟩

/-- **Every join keeps sources well formed.** -/
theorem join {κ : Type} [JoinCondition κ] {kind : JoinKind κ} (hl : WellFormed left)
    (hr : WellFormed right) (h : left.join right kind = .ok e) : WellFormed e := by
  obtain ⟨hs, hj, atoms, bound, rfl, hbound⟩ := join_ok h
  refine (hl.product hr hs).extend ?_ ?_
  · intro c v w hv hw
    exact Option.some_inj.1 (((hbound c v).1 hv).2.symm.trans ((hbound c w).1 hw).2)
  · intro c v hv
    obtain ⟨hc, hv⟩ := (hbound c v).1 hv
    obtain ⟨-, R, hR, hRv⟩ := hl.exposed_of_bare hv
    refine ⟨by rw [hl.occurrences_of_merged hr hs (hj c hc)]; omega, R, ?_, ?_⟩
    · exact Scope.mem_occurrences_union.2 (.inl hR)
    · exact (get?_qualified_product_iff hs).2 (.inl hRv)

end WellFormed

/-! ## What leaves and joins can build -/

/-- The sources built from leaves without repeated column names, by joins that succeed. -/
inductive Reachable : Expression → Prop
  /-- A leaf. -/
  | leaf {l : Leaf} (distinct : l.Distinct) : Reachable l.expression
  /-- A cross join. -/
  | cross {left right e : Expression} (hl : Reachable left) (hr : Reachable right)
      (h : crossJoin left right = .ok e) : Reachable e
  /-- A join on a condition of any kind. -/
  | on {κ : Type} [JoinCondition κ] {condition : κ} {left right e : Expression}
      (hl : Reachable left) (hr : Reachable right) (h : joinOn left right condition = .ok e) :
      Reachable e
  /-- A join on equal columns. -/
  | equal {columns : List Identifier} {left right e : Expression} (hl : Reachable left)
      (hr : Reachable right) (h : joinUsing left right columns = .ok e) : Reachable e
  /-- A natural join. -/
  | natural {left right e : Expression} (hl : Reachable left) (hr : Reachable right)
      (h : naturalJoin left right = .ok e) : Reachable e

/-- A condition given by its translation, as a join kind carries it. -/
abbrev Translation := Expression → Except JoinError (List Atom)

/-- **Every source that can be built is well formed.** -/
theorem wellFormed_of_reachable (h : Reachable e) : WellFormed e := by
  induction h with
  | leaf distinct => exact WellFormed.ofLeaf distinct
  | cross _ _ h ihl ihr =>
    exact ihl.join ihr (show join _ _ (.cross : JoinKind Translation) = .ok _ from h)
  | @on _ _ condition _ _ _ _ _ h ihl ihr =>
    exact ihl.join ihr (show join _ _ (.on condition) = .ok _ from h)
  | @equal columns _ _ _ _ _ h ihl ihr =>
    exact ihl.join ihr (show join _ _ (.using columns : JoinKind Translation) = .ok _ from h)
  | natural _ _ h ihl ihr =>
    exact ihl.join ihr (show join _ _ (.natural : JoinKind Translation) = .ok _ from h)

/-- USING exposes a merged name of two relations, and the source stays well formed. -/
theorem wellFormed_sample :
    ∃ e, Sample.salary.expression.joinUsing Sample.staff.expression [Sample.id] = .ok e ∧
      (e.scope.occurrences Sample.id).length = 2 ∧ e.WellFormed := by
  obtain ⟨e, h⟩ := isOk_iff.1 (by decide :
    (Sample.salary.expression.joinUsing Sample.staff.expression [Sample.id]).isOk = true)
  refine ⟨e, h, ?_, wellFormed_of_reachable (.equal (.leaf (by decide)) (.leaf (by decide)) h)⟩
  obtain ⟨-, -, pairs, -, rfl⟩ := joinUsing_eq_ok.1 h
  rw [extend_scope]
  decide

end Expression

end FromClause
