import FromClause.Proofs.Relation.WellFormed
import FromClause.Relation.JoinTree
/-!
# Join trees, by their leaves

What a folded tree looks up is what its leaves look up: names, relations and qualified references are those of
some leaf, whatever the joins are. This half holds for trees over any sources.

Over the leaves of a FROM clause more can be said. The folded tree is well formed, and the number of relations
that expose a name is the number of leaves that do (`length_occurrences_source`). The count needs the joins to
have refused shared relations at every node, and it is what turns the checks of a join, which count relations,
into conditions on the leaves below it.
-/

namespace FromClause

namespace JoinTree

variable {α β κ : Type} {R : RelationId} {c : Identifier} {v : Variable}

@[simp] theorem leaves_map (f : α → β) (t : JoinTree α κ) : (t.map f).leaves = t.leaves.map f := by
  induction t with
  | leaf source => rfl
  | join kind left right ihl ihr => simp [map, leaves, ihl, ihr]

section Sources

variable [JoinCondition κ] {t : JoinTree Expression κ} {e : Expression}

/-- A tree is folded by folding both sides and joining the results. -/
theorem fold_join_eq_ok {kind : JoinKind κ} {left right : JoinTree Expression κ} :
    (join kind left right).fold = .ok e ↔
      ∃ x y, left.fold = .ok x ∧ right.fold = .ok y ∧ x.join y kind = .ok e := by
  simp only [fold, bind_eq_ok]
  constructor
  · rintro ⟨x, hx, y, hy, he⟩
    exact ⟨x, y, hx, hy, he⟩
  · rintro ⟨x, y, hx, hy, he⟩
    exact ⟨x, hx, y, hy, he⟩

/-- **The scope of a folded tree** has the names of its leaves. -/
theorem contains_fold (h : t.fold = .ok e) :
    e.scope.contains c = true ↔ ∃ s ∈ t.leaves, s.scope.contains c = true := by
  induction t generalizing e with
  | leaf source =>
    cases h
    simp [leaves]
  | join kind left right ihl ihr =>
    obtain ⟨x, y, hx, hy, he⟩ := fold_join_eq_ok.1 h
    obtain ⟨-, -, atoms, bound, rfl, -⟩ := Expression.join_ok he
    rw [Expression.extend_scope, Expression.product_scope, Scope.contains_union, ihl hx, ihr hy]
    simp only [leaves, List.mem_append, or_and_right, exists_or]

/-- A relation exposes a name in the folded tree when it does so in some leaf. -/
theorem mem_occurrences_fold (h : t.fold = .ok e) :
    R ∈ e.scope.occurrences c ↔ ∃ s ∈ t.leaves, R ∈ s.scope.occurrences c := by
  induction t generalizing e with
  | leaf source =>
    cases h
    simp [leaves]
  | join kind left right ihl ihr =>
    obtain ⟨x, y, hx, hy, he⟩ := fold_join_eq_ok.1 h
    obtain ⟨-, -, atoms, bound, rfl, -⟩ := Expression.join_ok he
    rw [Expression.extend_scope, Expression.product_scope, Scope.mem_occurrences_union, ihl hx, ihr hy]
    simp only [leaves, List.mem_append, or_and_right, exists_or]

/-- **A qualified reference over a folded tree** denotes what it denotes over some leaf. -/
theorem get?_qualified_fold (h : t.fold = .ok e) :
    e.dictionary.get? (.qualified R c) = some v ↔
      ∃ s ∈ t.leaves, s.dictionary.get? (.qualified R c) = some v := by
  induction t generalizing e with
  | leaf source =>
    cases h
    simp [leaves]
  | join kind left right ihl ihr =>
    obtain ⟨x, y, hx, hy, he⟩ := fold_join_eq_ok.1 h
    obtain ⟨hs, -, atoms, bound, rfl, -⟩ := Expression.join_ok he
    rw [Expression.extend_dictionary, Dictionary.get?_qualified_rebind,
      Expression.get?_qualified_product_iff hs, ihl hx, ihr hy]
    simp only [leaves, List.mem_append, or_and_right, exists_or]

/-- The relations of a folded tree are those of its leaves. -/
theorem mem_relations_fold (h : t.fold = .ok e) :
    R ∈ e.relations.toList ↔ ∃ s ∈ t.leaves, R ∈ s.relations.toList := by
  simp only [Expression.relations, Dictionary.mem_relations, get?_qualified_fold h]
  constructor
  · rintro ⟨c, v, s, hs, hv⟩
    exact ⟨s, hs, c, v, hv⟩
  · rintro ⟨s, hs, c, v, hv⟩
    exact ⟨c, v, s, hs, hv⟩

/-- Two folded trees share no relation when no two of their leaves do. -/
theorem shared?_fold_eq_none {s : JoinTree Expression κ} {x y : Expression} (hx : s.fold = .ok x)
    (hy : t.fold = .ok y) :
    Expression.shared? x y = none ↔ ∀ a ∈ s.leaves, ∀ b ∈ t.leaves,
      ∀ R ∈ a.relations.toList, R ∉ b.relations.toList := by
  rw [Expression.shared?_eq_none]
  constructor
  · intro h a ha b hb R hR hR'
    exact h R ((mem_relations_fold hx).2 ⟨a, ha, hR⟩) ((mem_relations_fold hy).2 ⟨b, hb, hR'⟩)
  · intro h R hR hR'
    obtain ⟨a, ha, hR⟩ := (mem_relations_fold hx).1 hR
    obtain ⟨b, hb, hR'⟩ := (mem_relations_fold hy).1 hR'
    exact h a ha b hb R hR hR'

/-- **The scope of a folded tree is settled by its leaves**, whatever the joins are. -/
theorem scope_fold_congr {κ' : Type} [JoinCondition κ'] {u : JoinTree Expression κ'} {x y : Expression}
    (hx : t.fold = .ok x) (hy : u.fold = .ok y) (h : ∀ s, s ∈ t.leaves ↔ s ∈ u.leaves) :
    x.scope = y.scope := by
  refine Scope.ext_occurrences (fun c => ?_) fun c R => ?_
  · rw [contains_fold hx, contains_fold hy]
    exact exists_congr fun s => and_congr_left fun _ => h s
  · rw [mem_occurrences_fold hx, mem_occurrences_fold hy]
    exact exists_congr fun s => and_congr_left fun _ => h s

/-- So are the qualified references. -/
theorem get?_qualified_fold_congr {κ' : Type} [JoinCondition κ'] {u : JoinTree Expression κ'}
    {x y : Expression} (hx : t.fold = .ok x) (hy : u.fold = .ok y)
    (h : ∀ s, s ∈ t.leaves ↔ s ∈ u.leaves) :
    x.dictionary.get? (.qualified R c) = y.dictionary.get? (.qualified R c) := by
  refine Option.ext fun v => ?_
  rw [get?_qualified_fold hx, get?_qualified_fold hy]
  exact exists_congr fun s => and_congr_left fun _ => h s

end Sources

/-! ## Trees over the leaves of a FROM clause -/

/-- The leaves that expose a column name. -/
def exposing (t : JoinTree Leaf κ) (column : Identifier) : List Leaf :=
  t.leaves.filter fun l => column ∈ l.names

@[simp] theorem exposing_leaf (l : Leaf) (c : Identifier) :
    (leaf l : JoinTree Leaf κ).exposing c = if c ∈ l.names then [l] else [] := by
  by_cases h : c ∈ l.names <;> simp [exposing, leaves, h]

@[simp] theorem exposing_join (kind : JoinKind κ) (left right : JoinTree Leaf κ) (c : Identifier) :
    (join kind left right).exposing c = left.exposing c ++ right.exposing c :=
  List.filter_append ..

theorem mem_exposing {t : JoinTree Leaf κ} {l : Leaf} :
    l ∈ t.exposing c ↔ l ∈ t.leaves ∧ c ∈ l.names := by
  rw [exposing, List.mem_filter, decide_eq_true_iff]

/-- A leaf that alone exposes a name has a column of that name. -/
theorem exists_column {t : JoinTree Leaf κ} {l : Leaf} (hl : t.exposing c = [l]) :
    ∃ v, (c, v) ∈ l.columns :=
  Leaf.mem_names.1 (mem_exposing.1 (hl ▸ List.mem_singleton_self l)).2

/-- The join at the root merges a column name: it lists the name, or it is natural and leaves on both sides
expose the name. -/
def MergesAtRoot : JoinTree Leaf κ → Identifier → Prop
  | join (.using columns) _ _, c => c ∈ columns
  | join .natural left right, c => left.exposing c ≠ [] ∧ right.exposing c ≠ []
  | join .cross _ _, _ | join (.on _) _ _, _ | leaf _, _ => False

/-- Some join of the tree merges a column name. -/
def Merges : JoinTree Leaf κ → Identifier → Prop
  | leaf _, _ => False
  | join kind left right, c => (join kind left right).MergesAtRoot c ∨ left.Merges c ∨ right.Merges c

theorem MergesAtRoot.merges {t : JoinTree Leaf κ} (h : t.MergesAtRoot c) : t.Merges c := by
  cases t with
  | leaf l => exact h
  | join kind left right => exact .inl h

/-- No column name repeats inside a leaf of the tree. -/
def Distinct (t : JoinTree Leaf κ) : Prop := ∀ l ∈ t.leaves, l.Distinct

theorem distinct_join {kind : JoinKind κ} {left right : JoinTree Leaf κ} :
    (join kind left right).Distinct ↔ left.Distinct ∧ right.Distinct := by
  simp only [Distinct, leaves, List.mem_append, or_imp, forall_and]

variable [JoinCondition κ] {t : JoinTree Leaf κ} {e : Expression}

/-- The source that a tree over leaves denotes. -/
def source (t : JoinTree Leaf κ) : Except JoinError Expression := (t.map Leaf.expression).fold

theorem source_join (kind : JoinKind κ) (left right : JoinTree Leaf κ) :
    (join kind left right).source = (do
      let x ← left.source
      let y ← right.source
      x.join y kind) := rfl

theorem source_join_eq_ok {kind : JoinKind κ} {left right : JoinTree Leaf κ} :
    (join kind left right).source = .ok e ↔
      ∃ x y, left.source = .ok x ∧ right.source = .ok y ∧ x.join y kind = .ok e :=
  fold_join_eq_ok

/-- Trees whose sources share no relation can be cross joined, to the product of the two. -/
theorem source_cross {left right : JoinTree Leaf κ} {x y : Expression} (hx : left.source = .ok x)
    (hy : right.source = .ok y) (hs : Expression.shared? x y = none) :
    (join .cross left right : JoinTree Leaf κ).source = .ok (Expression.product x y) :=
  source_join_eq_ok.2 ⟨x, y, hx, hy, Expression.crossJoin_eq_ok.2 ⟨hs, rfl⟩⟩

/-- **The source of a tree is well formed.** -/
theorem wellFormed_source (distinct : t.Distinct) (h : t.source = .ok e) : e.WellFormed := by
  induction t generalizing e with
  | leaf l =>
    cases h
    exact .ofLeaf (distinct l (List.mem_singleton_self l))
  | join kind left right ihl ihr =>
    obtain ⟨hdl, hdr⟩ := distinct_join.1 distinct
    obtain ⟨x, y, hx, hy, he⟩ := source_join_eq_ok.1 h
    exact (ihl hdl hx).join (ihr hdr hy) he

/-- **The relations that expose a name are counted by the leaves that do.** -/
theorem length_occurrences_source (distinct : t.Distinct) (h : t.source = .ok e) (c : Identifier) :
    (e.scope.occurrences c).length = (t.exposing c).length := by
  induction t generalizing e with
  | leaf l =>
    cases h
    rw [exposing_leaf]
    split
    next hc =>
      have hperm : (l.expression.scope.occurrences c).Perm [l.exposed] := by
        refine (List.perm_ext_iff_of_nodup (Scope.nodup_occurrences _ _) (List.nodup_singleton _)).2 ?_
        intro R
        rw [Leaf.mem_occurrences, List.mem_singleton, and_iff_left hc]
      exact hperm.length_eq
    next hc =>
      have : l.expression.scope.occurrences c = [] :=
        List.eq_nil_iff_forall_not_mem.2 fun R hR => hc (Leaf.mem_occurrences.1 hR).2
      rw [this]
      rfl
  | join kind left right ihl ihr =>
    obtain ⟨hdl, hdr⟩ := distinct_join.1 distinct
    obtain ⟨x, y, hx, hy, he⟩ := source_join_eq_ok.1 h
    obtain ⟨hs, -, atoms, bound, rfl, -⟩ := Expression.join_ok he
    rw [Expression.extend_scope,
      (wellFormed_source hdl hx).length_occurrences (wellFormed_source hdr hy) hs, ihl hdl hx, ihr hdr hy,
      exposing_join, List.length_append]

/-- The scope has a name when a leaf exposes it. -/
theorem contains_source (distinct : t.Distinct) (h : t.source = .ok e) :
    e.scope.contains c = true ↔ t.exposing c ≠ [] := by
  rw [(wellFormed_source distinct h).contains_iff, ← List.length_pos_iff, ← List.length_pos_iff,
    length_occurrences_source distinct h]

/-- A qualified reference denotes the column of a leaf that answers to the relation. -/
theorem get?_qualified_source (distinct : t.Distinct) (h : t.source = .ok e) :
    e.dictionary.get? (.qualified R c) = some v ↔
      ∃ l ∈ t.leaves, l.AnswersTo R ∧ (c, v) ∈ l.columns := by
  rw [get?_qualified_fold h, leaves_map]
  simp only [List.mem_map, exists_exists_and_eq_and]
  refine exists_congr fun l => and_congr_right fun hl => ?_
  exact Leaf.get?_qualified (distinct l hl)

/-- **A name that one relation exposes is a name that one leaf exposes**, and what it denotes under the relation
is the column of the leaf. -/
theorem exposed_once_iff (distinct : t.Distinct) (h : t.source = .ok e) :
    (∃ R, e.scope.occurrences c = [R] ∧ e.dictionary.get? (.qualified R c) = some v) ↔
      ∃ l, t.exposing c = [l] ∧ (c, v) ∈ l.columns := by
  have hlen := length_occurrences_source distinct h c
  -- a variable of the name under a relation is a column of the leaf, for want of another leaf
  have column : ∀ l R v, t.exposing c = [l] → e.dictionary.get? (.qualified R c) = some v →
      (c, v) ∈ l.columns := by
    intro l R v hl hv
    obtain ⟨l', hl', -, hv'⟩ := (get?_qualified_source distinct h).1 hv
    have hmem : l' ∈ t.exposing c := mem_exposing.2 ⟨hl', Leaf.mem_names.2 ⟨v, hv'⟩⟩
    rw [hl, List.mem_singleton] at hmem
    exact hmem ▸ hv'
  constructor
  · rintro ⟨R, hR, hv⟩
    rw [hR, List.length_singleton] at hlen
    obtain ⟨l, hl⟩ := List.length_eq_one_iff.1 hlen.symm
    exact ⟨l, hl, column l R v hl hv⟩
  · rintro ⟨l, hl, hv⟩
    rw [hl, List.length_singleton] at hlen
    obtain ⟨R, hR⟩ := List.length_eq_one_iff.1 hlen
    obtain ⟨w, -, hw⟩ := (wellFormed_source distinct h).bare_of_unique hR
    have hmem : l ∈ t.leaves := (mem_exposing.1 (hl ▸ List.mem_singleton_self l)).1
    obtain rfl : w = v := (distinct l hmem).single (column l R w hl hw) hv
    exact ⟨R, hR, hw⟩

/-- **A name that one leaf exposes** is found by its bare name, in that leaf. -/
theorem bare?_source_of_unique (distinct : t.Distinct) (h : t.source = .ok e) {l : Leaf}
    (hl : t.exposing c = [l]) : e.dictionary.bare? c = some v ↔ (c, v) ∈ l.columns := by
  obtain ⟨w, hw⟩ := exists_column hl
  have hmem : l ∈ t.leaves := (mem_exposing.1 (hl ▸ List.mem_singleton_self l)).1
  obtain ⟨R, hR, hRw⟩ := (exposed_once_iff distinct h).2 ⟨l, hl, hw⟩
  obtain ⟨w', hw', hRw'⟩ := (wellFormed_source distinct h).bare_of_unique hR
  obtain rfl : w' = w := Option.some_inj.1 (hRw'.symm.trans hRw)
  rw [hw', Option.some_inj]
  exact ⟨fun heq => heq ▸ hw, fun hv => (distinct l hmem).single hw hv⟩

/-- The columns that a join merges, told by the leaves below it. -/
theorem mem_merged {kind : JoinKind κ} {left right : JoinTree Leaf κ} {x y : Expression}
    (hdl : left.Distinct) (hdr : right.Distinct) (hx : left.source = .ok x) (hy : right.source = .ok y) :
    c ∈ kind.merged x y ↔ (join kind left right).MergesAtRoot c := by
  cases kind with
  | cross => exact List.mem_nil_iff c
  | on condition => exact List.mem_nil_iff c
  | natural => exact Scope.mem_common.trans (and_congr (contains_source hdl hx) (contains_source hdr hy))
  | «using» columns => exact Iff.rfl

/-- What USING asks of a column, told by the leaves. -/
theorem joinable_source {left right : JoinTree Leaf κ} {x y : Expression} (hdl : left.Distinct)
    (hdr : right.Distinct) (hx : left.source = .ok x) (hy : right.source = .ok y) :
    Expression.Joinable x y c ↔ (left.exposing c).length = 1 ∧ (right.exposing c).length = 1 := by
  rw [(wellFormed_source hdl hx).joinable_iff (wellFormed_source hdr hy),
    length_occurrences_source hdl hx, length_occurrences_source hdr hy]

end JoinTree

/-! ## A tree over three leaves -/

namespace Sample

open JoinTree

/-- `HR.SALARY NATURAL JOIN STAFF AS S`, joined with `GRADE`. The inner join merges `ID`, and `AMOUNT` is
exposed on both sides of the outer one. -/
def clause {κ : Type} (kind : JoinKind κ) : JoinTree Leaf κ :=
  join kind (join .natural (leaf salary) (leaf staff)) (leaf grade)

theorem distinct_clause {κ : Type} (kind : JoinKind κ) : (clause kind).Distinct := by
  change ∀ l ∈ [salary, staff, grade], l.Distinct
  decide

end Sample

end FromClause
