import FromClause.Proofs.Relation.Tree
/-!
# Which trees can be folded

Each join of a tree checks its two operands, with scopes and dictionaries that have grown on the way up. Seen
from the leaves, these checks come to four conditions: no two leaves share a relation, the columns of USING
and of natural joins are each exposed by one leaf on either side, and every condition can be read over the
product of the sources that it joins (`exists_source_eq_ok_iff`). The first three are about names alone, and
under them a merging join finds the variable of every name that it merges.
-/

namespace FromClause

namespace JoinTree

variable {κ : Type}

/-- Every join of the tree meets a condition on its kind and its two sides. -/
def Everywhere (P : JoinKind κ → JoinTree Leaf κ → JoinTree Leaf κ → Prop) : JoinTree Leaf κ → Prop
  | leaf _ => True
  | join kind left right => P kind left right ∧ left.Everywhere P ∧ right.Everywhere P

/-- No relation qualifies columns of two leaves. -/
def RelationsDisjoint (t : JoinTree Leaf κ) : Prop :=
  t.leaves.Pairwise fun a b =>
    ∀ R ∈ a.expression.relations.toList, R ∉ b.expression.relations.toList

/-- A listed column is exposed by one leaf of either side. -/
def ListedOnce : JoinKind κ → JoinTree Leaf κ → JoinTree Leaf κ → Prop
  | .using columns, left, right =>
    ∀ c ∈ columns, (left.exposing c).length = 1 ∧ (right.exposing c).length = 1
  | .cross, _, _ | .on _, _, _ | .natural, _, _ => True

/-- A name that both sides of a natural join expose is exposed by one leaf of either side. -/
def CommonOnce : JoinKind κ → JoinTree Leaf κ → JoinTree Leaf κ → Prop
  | .natural, left, right => ∀ c, left.exposing c ≠ [] → right.exposing c ≠ [] →
    (left.exposing c).length = 1 ∧ (right.exposing c).length = 1
  | .cross, _, _ | .on _, _, _ | .using _, _, _ => True

/-- Over a join, no relation is shared on either side or between them. -/
theorem relationsDisjoint_join {kind : JoinKind κ} {left right : JoinTree Leaf κ} :
    (join kind left right).RelationsDisjoint ↔
      left.RelationsDisjoint ∧ right.RelationsDisjoint ∧ ∀ a ∈ left.leaves, ∀ b ∈ right.leaves,
        ∀ R ∈ a.expression.relations.toList, R ∉ b.expression.relations.toList :=
  List.pairwise_append

variable [JoinCondition κ]

/-- A condition can be read over the cross join of the two sources. -/
def ConditionReads : JoinKind κ → JoinTree Leaf κ → JoinTree Leaf κ → Prop
  | .on condition, left, right => ∀ x y joined, left.source = .ok x → right.source = .ok y →
    x.crossJoin y = .ok joined → ∃ atoms, JoinCondition.atoms condition joined = .ok atoms
  | .cross, _, _ | .natural, _, _ | .using _, _, _ => True

/-- The bare names that a join merges are found in both sources. -/
def MergedFound (kind : JoinKind κ) (left right : JoinTree Leaf κ) : Prop :=
  ∀ x y, left.source = .ok x → right.source = .ok y →
    ∀ c ∈ kind.merged x y, ∃ p, x.bareVariables? y c = .ok p

/-! ## One join -/

section Join

variable {kind : JoinKind κ} {left right : JoinTree Leaf κ} {x y : Expression}

/-- The sources of two trees share no relation when no two of their leaves do. -/
theorem shared?_source_eq_none (hx : left.source = .ok x) (hy : right.source = .ok y) :
    Expression.shared? x y = none ↔ ∀ a ∈ left.leaves, ∀ b ∈ right.leaves,
      ∀ R ∈ a.expression.relations.toList, R ∉ b.expression.relations.toList := by
  rw [shared?_fold_eq_none hx hy]
  simp only [leaves_map, List.forall_mem_map]

/-- **The columns of a join are joinable** when each is exposed once on either side. -/
theorem joinable_merged_iff (hdl : left.Distinct) (hdr : right.Distinct) (hx : left.source = .ok x)
    (hy : right.source = .ok y) :
    (∀ c ∈ kind.merged x y, Expression.Joinable x y c) ↔
      ListedOnce kind left right ∧ CommonOnce kind left right := by
  simp only [mem_merged hdl hdr hx hy, joinable_source hdl hdr hx hy]
  cases kind with
  | cross => simp [MergesAtRoot, ListedOnce, CommonOnce]
  | on condition => simp [MergesAtRoot, ListedOnce, CommonOnce]
  | natural => simp only [MergesAtRoot, ListedOnce, CommonOnce, and_imp, true_and]
  | «using» columns => simp only [MergesAtRoot, ListedOnce, CommonOnce, and_true]

/-- **When the join of two trees has a source**, once its sides have theirs. -/
theorem exists_join_source_eq_ok_iff (hdl : left.Distinct) (hdr : right.Distinct)
    (hx : left.source = .ok x) (hy : right.source = .ok y) :
    (∃ e, (join kind left right).source = .ok e) ↔
      (∀ a ∈ left.leaves, ∀ b ∈ right.leaves,
        ∀ R ∈ a.expression.relations.toList, R ∉ b.expression.relations.toList) ∧
      (ListedOnce kind left right ∧ CommonOnce kind left right) ∧ ConditionReads kind left right := by
  have hjoin : (∃ e, (join kind left right).source = .ok e) ↔ ∃ e, x.join y kind = .ok e := by
    simp only [source_join_eq_ok, hx, hy, Except.ok.injEq]
    grind
  rw [hjoin, Expression.exists_join_eq_ok, joinable_merged_iff hdl hdr hx hy, shared?_source_eq_none hx hy]
  refine and_congr_right fun hdisjoint => and_congr_right fun _ => ?_
  have hs := (shared?_source_eq_none hx hy).2 hdisjoint
  cases kind with
  | on condition =>
    simp only [JoinKind.Reads, ConditionReads, hx, hy, Except.ok.injEq, Expression.crossJoin_eq_ok]
    constructor
    · rintro hreads _ _ _ rfl rfl ⟨-, rfl⟩
      exact hreads
    · exact fun h => h x y _ rfl rfl ⟨hs, rfl⟩
  | cross => exact Iff.rfl
  | natural => exact Iff.rfl
  | «using» columns => exact Iff.rfl

end Join

/-! ## The whole tree -/

variable {t : JoinTree Leaf κ}

/-- **A tree that has a source meets all conditions**, and one that meets them has a source. -/
theorem exists_source_iff (distinct : t.Distinct) :
    (∃ e, t.source = .ok e) ↔ t.RelationsDisjoint ∧ t.Everywhere ListedOnce ∧ t.Everywhere CommonOnce ∧
      t.Everywhere ConditionReads := by
  induction t with
  | leaf l =>
    refine ⟨fun _ => ⟨List.pairwise_singleton _ _, trivial, trivial, trivial⟩, fun _ => ?_⟩
    exact ⟨l.expression, rfl⟩
  | join kind left right ihl ihr =>
    obtain ⟨hdl, hdr⟩ := distinct_join.1 distinct
    rw [relationsDisjoint_join]
    simp only [Everywhere]
    constructor
    · rintro ⟨e, h⟩
      obtain ⟨x, y, hx, hy, -⟩ := source_join_eq_ok.1 h
      obtain ⟨hrl, hll, hcl, hql⟩ := (ihl hdl).1 ⟨x, hx⟩
      obtain ⟨hrr, hlr, hcr, hqr⟩ := (ihr hdr).1 ⟨y, hy⟩
      obtain ⟨hcross, ⟨hlisted, hcommon⟩, hreads⟩ :=
        (exists_join_source_eq_ok_iff hdl hdr hx hy).1 ⟨e, h⟩
      exact ⟨⟨hrl, hrr, hcross⟩, ⟨hlisted, hll, hlr⟩, ⟨hcommon, hcl, hcr⟩, hreads, hql, hqr⟩
    · rintro ⟨⟨hrl, hrr, hcross⟩, ⟨hlisted, hll, hlr⟩, ⟨hcommon, hcl, hcr⟩, hreads, hql, hqr⟩
      obtain ⟨x, hx⟩ := (ihl hdl).2 ⟨hrl, hll, hcl, hql⟩
      obtain ⟨y, hy⟩ := (ihr hdr).2 ⟨hrr, hlr, hcr, hqr⟩
      exact (exists_join_source_eq_ok_iff hdl hdr hx hy).2 ⟨hcross, ⟨hlisted, hcommon⟩, hreads⟩

/-- Where the names fit, every merging join finds the variables of its columns. -/
theorem everywhere_mergedFound (distinct : t.Distinct) (hlisted : t.Everywhere ListedOnce)
    (hcommon : t.Everywhere CommonOnce) : t.Everywhere MergedFound := by
  induction t with
  | leaf l => trivial
  | join kind left right ihl ihr =>
    obtain ⟨hdl, hdr⟩ := distinct_join.1 distinct
    obtain ⟨hlisted, hll, hlr⟩ := hlisted
    obtain ⟨hcommon, hcl, hcr⟩ := hcommon
    refine ⟨fun x y hx hy c hc => ?_, ihl hdl hll hcl, ihr hdr hlr hcr⟩
    obtain ⟨v, w, hv, hw⟩ := ((joinable_merged_iff hdl hdr hx hy).2 ⟨hlisted, hcommon⟩ c hc).bound
    exact ⟨(c, v, w), Expression.bareVariables?_eq_ok.2 ⟨rfl, hv, hw⟩⟩

/-- **Which trees can be folded.** A tree has a source exactly when no two leaves share a relation, USING and
natural joins merge only names that one leaf of either side exposes, and every condition can be read over the
cross join of its two sides. The conditions on names are enough for a merging join to find the variable of
every name that it merges. -/
theorem exists_source_eq_ok_iff (distinct : t.Distinct) :
    ((∃ e, t.source = .ok e) ↔ t.RelationsDisjoint ∧ t.Everywhere ListedOnce ∧
      t.Everywhere CommonOnce ∧ t.Everywhere ConditionReads) ∧
    (t.RelationsDisjoint → t.Everywhere ListedOnce → t.Everywhere CommonOnce →
      t.Everywhere MergedFound) :=
  ⟨exists_source_iff distinct, fun _ => everywhere_mergedFound distinct⟩

end JoinTree

namespace Sample

/-- A condition on the two columns that are called `AMOUNT`, told apart by their tables. -/
def sameAmount : Expression.Translation := fun source => do
  let paid ← source.resolve (.qualified (.bare salary.exposed.table) amount)
  let due ← source.resolve (.qualified grade.exposed amount)
  return [.equality (.var paid) (.var due)]

theorem conditions_clause : (clause (.on sameAmount)).RelationsDisjoint ∧
    (clause (.on sameAmount)).Everywhere JoinTree.ListedOnce ∧
    (clause (.on sameAmount)).Everywhere JoinTree.CommonOnce ∧
    (clause (.on sameAmount)).Everywhere JoinTree.ConditionReads ∧
    (clause (.on sameAmount)).Everywhere JoinTree.MergedFound := by
  obtain ⟨hiff, hfound⟩ := JoinTree.exists_source_eq_ok_iff (distinct_clause (.on sameAmount))
  obtain ⟨hdisjoint, hlisted, hcommon, hreads⟩ := hiff.1 (isOk_iff.1 (by decide))
  exact ⟨hdisjoint, hlisted, hcommon, hreads, hfound hdisjoint hlisted hcommon⟩

end Sample

end FromClause
