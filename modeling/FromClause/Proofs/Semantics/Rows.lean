import FromClause.Proofs.Relation.Acceptance
import FromClause.Proofs.Relation.Resolution
import FromClause.Proofs.Semantics.Condition
/-!
# The rows of a FROM clause

The meaning of a tree of joins on rows: one record for each leaf, and for each join a test of the records of
its two sides. Nothing here looks at a dictionary or a scope. A column is read from the only record whose leaf
has the reference, a listed or common column is compared between the two sides, and an ON expression is
evaluated on the records of both.

An assignment of values to variables gives a record for every leaf of a tree. These are the records that the
atoms of the folded tree speak of, and reading a reference from them gives the value of the variable that the
reference resolves to (`readsAs_rows`).
-/

namespace FromClause

open Sql

variable {V : Type}

/-! ## Records -/

/-- A leaf has what a reference refers to: it answers to the relation, if there is one, and it has the
column. -/
def Leaf.Has (l : Leaf) (r : Reference) : Prop :=
  (∀ R ∈ r.relation, l.AnswersTo R) ∧ r.column ∈ l.names

instance {l : Leaf} : DecidablePred l.Has := fun r => by
  unfold Leaf.Has
  infer_instance

/-- A row of a leaf. -/
structure Record (V : Type) where
  /-- The leaf. -/
  leaf : Leaf
  /-- The values of its columns, in declared order. -/
  values : List (Cell V)

/-- The value of a column in a row. -/
def Record.value? (row : Record V) (column : Identifier) : Option (Cell V) :=
  (row.leaf.names.zip row.values).lookup column

/-- The value of a reference: that of its column in the only row whose leaf has it. -/
def read? (rows : List (Record V)) (r : Reference) : Option (Cell V) :=
  match rows.filter fun row => row.leaf.Has r with
  | [row] => row.value? r.column
  | _ => none

/-! ## The result of a tree -/

section Result

variable [Ord V]

/-- Two sides have a column each, and the values are equal. -/
def Agree (xs ys : List (Record V)) (column : Identifier) : Prop :=
  ∃ x y, read? xs (.bare column) = some x ∧ read? ys (.bare column) = some y ∧
    Comparison.eq.truthValue x y = .yes

/-- A join keeps the rows of its two sides together. -/
def JoinKind.Keeps (D : Database V) (xs ys : List (Record V)) : JoinKind SqlCondition → Prop
  | cross => True
  | on condition => condition.expr.truthValue? D condition.folding (read? (xs ++ ys)) = some .yes
  | natural => ∀ c, (∃ x ∈ xs, c ∈ x.leaf.names) → (∃ y ∈ ys, c ∈ y.leaf.names) → Agree xs ys c
  | .using columns => ∀ c ∈ columns, Agree xs ys c

/-- One row for each leaf, which together are in the result of the tree. -/
def JoinTree.Result (D : Database V) : JoinTree Leaf SqlCondition → List (Record V) → Prop
  | leaf l, rows =>
    ∃ values, rows = [⟨l, values⟩] ∧ D.rows (.ofRelation l.relation l.columns.length) values = true
  | join kind left right, rows =>
    ∃ xs ys, rows = xs ++ ys ∧ left.Result D xs ∧ right.Result D ys ∧ kind.Keeps D xs ys

/-- A result has one row for each leaf, in order. -/
theorem JoinTree.Result.map_leaf {D : Database V} {t : JoinTree Leaf SqlCondition} {rows : List (Record V)}
    (h : t.Result D rows) : rows.map (·.leaf) = t.leaves := by
  induction t generalizing rows with
  | leaf l =>
    obtain ⟨values, rfl, -⟩ := h
    rfl
  | join kind left right ihl ihr =>
    obtain ⟨xs, ys, rfl, hxs, hys, -⟩ := h
    rw [List.map_append, ihl hxs, ihr hys]
    rfl

end Result

/-! ## The rows that an assignment gives -/

/-- The row of a leaf under values of the variables. -/
def Leaf.record (ν : Variable → Cell V) (l : Leaf) : Record V := ⟨l, l.columns.map fun c => ν c.2⟩

/-- The rows of the leaves of a tree under values of the variables. -/
def JoinTree.rows {κ : Type} (t : JoinTree Leaf κ) (ν : Variable → Cell V) : List (Record V) :=
  t.leaves.map (Leaf.record ν)

/-- The leaves of a tree that have a reference. -/
def JoinTree.having {κ : Type} (t : JoinTree Leaf κ) (r : Reference) : List Leaf :=
  t.leaves.filter fun l => l.Has r

section Rows

variable {κ : Type} {t : JoinTree Leaf κ} {l : Leaf} {r : Reference} {c : Identifier} {v : Variable}
  {ν : Variable → Cell V}

/-- The row of a leaf has the values of the variables of its columns. -/
theorem Leaf.value?_record (distinct : l.Distinct) (hv : (c, v) ∈ l.columns) :
    (l.record ν).value? c = some (ν v) := by
  have hzip : l.names.zip (l.columns.map fun c => ν c.2) = l.columns.map fun c => (c.1, ν c.2) := by
    rw [Leaf.names, List.zip_map']
  obtain ⟨before, after, heq⟩ := List.append_of_mem hv
  -- no column before this one has its name
  have hnot : ∀ d ∈ before, c ≠ d.1 := by
    rw [Leaf.Distinct, Leaf.names, heq, List.map_append, List.nodup_append] at distinct
    exact fun d hd => (distinct.2.2 d.1 (List.mem_map_of_mem hd) c (by simp)).symm
  change (l.names.zip (l.columns.map fun c => ν c.2)).lookup c = _
  rw [hzip, List.lookup_eq_some_iff]
  refine ⟨before.map fun c => (c.1, ν c.2), after.map fun c => (c.1, ν c.2), ?_, ?_⟩
  · rw [heq, List.map_append, List.map_cons]
  · intro d hd
    obtain ⟨b, hb, rfl⟩ := List.mem_map.1 hd
    exact bne_iff_ne.2 (hnot b hb)

namespace JoinTree

@[simp] theorem rows_leaf : (leaf l : JoinTree Leaf κ).rows ν = [l.record ν] := rfl

@[simp] theorem rows_join {kind : JoinKind κ} {left right : JoinTree Leaf κ} :
    (join kind left right).rows ν = left.rows ν ++ right.rows ν :=
  List.map_append

theorem map_leaf_rows : (t.rows ν).map (·.leaf) = t.leaves := by
  rw [rows, List.map_map]
  exact List.map_id _

theorem mem_having : l ∈ t.having r ↔ l ∈ t.leaves ∧ l.Has r := by
  rw [having, List.mem_filter, decide_eq_true_iff]

/-- The leaves that have a bare name are those that expose it. -/
theorem having_bare : t.having (.bare c) = t.exposing c := by
  refine List.filter_congr fun l _ => ?_
  simp [Leaf.Has, Reference.bare]

/-- Some row has a column when some leaf exposes it. -/
theorem exists_mem_rows : (∃ row ∈ t.rows ν, c ∈ row.leaf.names) ↔ t.exposing c ≠ [] := by
  simp only [← List.isEmpty_eq_false_iff, List.isEmpty_eq_false_iff_exists_mem, mem_exposing]
  simp only [rows, List.mem_map, exists_exists_and_eq_and]
  exact Iff.rfl

/-- **A reference that one leaf has** is read as the variable of the column there. -/
theorem read?_rows (distinct : t.Distinct) (hl : t.having r = [l]) (hv : (r.column, v) ∈ l.columns) :
    read? (t.rows ν) r = some (ν v) := by
  have hfilter : ((t.rows ν).filter fun row => row.leaf.Has r) = [l.record ν] := by
    rw [rows, List.filter_map]
    exact congrArg (List.map (Leaf.record ν)) hl
  have hmem : l ∈ t.leaves := (mem_having.1 (hl ▸ List.mem_singleton_self l)).1
  rw [read?, hfilter]
  exact Leaf.value?_record (distinct l hmem) hv

end JoinTree

end Rows

/-! ## References and their variables -/

namespace JoinTree

variable {κ : Type} [JoinCondition κ] {t : JoinTree Leaf κ} {e : Expression} {R : RelationId}
  {c : Identifier} {v : Variable} {ν : Variable → Cell V}

/-- At most one leaf has a qualified reference, since no two leaves share a relation. -/
theorem length_having_qualified_le (distinct : t.Distinct) (h : t.source = .ok e) :
    (t.having (.qualified R c)).length ≤ 1 := by
  have hdisjoint := ((exists_source_iff distinct).1 ⟨e, h⟩).1
  have hnone : (t.having (.qualified R c)).Pairwise fun _ _ => False := by
    refine (hdisjoint.sublist List.filter_sublist).imp_of_mem ?_
    intro a b ha hb hab
    have mem_relations : ∀ l ∈ t.having (.qualified R c), R ∈ l.expression.relations.toList := by
      intro l hl
      obtain ⟨hleaf, hR, hc⟩ := mem_having.1 hl
      obtain ⟨w, hw⟩ := Leaf.mem_names.1 hc
      exact (Leaf.mem_relations (distinct l hleaf)).2 ⟨hR R rfl, List.ne_nil_of_mem hw⟩
    exact hab R (mem_relations a ha) (mem_relations b hb)
  match t.having (.qualified R c), hnone with
  | [], _ => exact Nat.zero_le 1
  | [_], _ => exact Nat.le_refl 1
  | a :: b :: _, hnone => exact (List.rel_of_pairwise_cons hnone (List.mem_cons_self ..)).elim

/-- A qualified reference denotes a column of the only leaf that has it. -/
theorem having_qualified_of_get? (distinct : t.Distinct) (h : t.source = .ok e)
    (hv : e.dictionary.get? (.qualified R c) = some v) :
    ∃ l, t.having (.qualified R c) = [l] ∧ (c, v) ∈ l.columns := by
  obtain ⟨l, hl, hR, hv⟩ := (get?_qualified_source distinct h).1 hv
  have hmem : l ∈ t.having (.qualified R c) := by
    refine mem_having.2 ⟨hl, ?_, Leaf.mem_names.2 ⟨v, hv⟩⟩
    rintro _ ⟨⟩
    exact hR
  have hle := length_having_qualified_le (R := R) (c := c) distinct h
  have hone : (t.having (.qualified R c)).length = 1 :=
    Nat.le_antisymm hle (List.length_pos_of_mem hmem)
  obtain ⟨a, ha⟩ := List.length_eq_one_iff.1 hone
  rw [ha, List.mem_singleton] at hmem
  exact ⟨l, by rw [ha, hmem], hv⟩

/-- So does a bare one, unless the root of the tree merges the column. -/
theorem having_bare_of_get? (distinct : t.Distinct) (h : t.source = .ok e)
    (hv : e.dictionary.bare? c = some v) (hroot : ¬t.MergesAtRoot c) :
    ∃ l, t.having (.bare c) = [l] ∧ (c, v) ∈ l.columns := by
  rw [having_bare]
  cases t with
  | leaf l =>
    cases h
    rw [Leaf.bare?_expression (distinct l (List.mem_singleton_self l))] at hv
    exact ⟨l, by rw [exposing_leaf, if_pos (Leaf.mem_names.2 ⟨v, hv⟩)], hv⟩
  | join kind left right =>
    rcases (bare?_source_join distinct h).1 hv with ⟨hc, -⟩ | hl
    · exact absurd hc hroot
    · exact hl

/-- **Columns are read as the source resolves them** from the rows of a tree whose root merges nothing. -/
theorem readsAs_rows (distinct : t.Distinct) (h : t.source = .ok e) (hroot : ∀ c, ¬t.MergesAtRoot c) :
    ReadsAs e ν (read? (t.rows ν)) := by
  rintro ⟨_ | R, c⟩ v hr
  · obtain ⟨l, hl, hv⟩ := having_bare_of_get? distinct h (Expression.resolve_eq_ok.1 hr) (hroot c)
    exact read?_rows distinct hl hv
  · obtain ⟨l, hl, hv⟩ := having_qualified_of_get? distinct h (Expression.resolve_eq_ok.1 hr)
    exact read?_rows distinct hl hv

end JoinTree

end FromClause
