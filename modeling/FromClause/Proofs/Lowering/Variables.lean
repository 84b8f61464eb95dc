import FromClause.Proofs.Lowering.Condition
import FromClause.Proofs.Relation.Resolution
import FromClause.Proofs.Relation.Traversal
import Mathlib.Data.List.Count
/-!
# The variables of a source

The relations that the source of a tree applies are those of its leaves, one atom each, in their order
(`dataAtoms_source`): whatever the joins add are comparisons and tests. And it has no variables but those of its
leaves (`mem_vars_of_source`). What the joins add speaks of columns of the two sides, found through a
dictionary, and a dictionary holds variables of data atoms only.
-/

namespace FromClause

open Sql

/-- The variables of a leaf, in the order of its columns. -/
def Leaf.vars (l : Leaf) : List Variable := l.columns.map (·.2)

/-- The variables of the leaves of a tree, from left to right. -/
def JoinTree.vars {κ : Type} (t : JoinTree Leaf κ) : List Variable := t.leaves.flatMap Leaf.vars

namespace Expression

/-- The relations that the atoms of a source apply, with their arguments. -/
def dataAtoms (e : Expression) : List (Predicate × List Term) := e.atoms.filterMap Formula.data?

/-- The variables of the atoms and of the dictionary of a source. -/
def vars (e : Expression) : List Variable := e.atoms.flatMap Formula.vars ++ e.dictionary.values

theorem mem_vars {e : Expression} {v : Variable} :
    v ∈ e.vars ↔ (∃ a ∈ e.atoms, v ∈ Formula.vars a) ∨ ∃ r, e.dictionary.get? r = some v := by
  rw [vars, List.mem_append, List.mem_flatMap, SortedMap.values, List.mem_map]
  refine or_congr_right ⟨?_, ?_⟩
  · rintro ⟨⟨r, v⟩, hr, rfl⟩
    exact ⟨r, SortedMap.mem_entries.1 hr⟩
  · rintro ⟨r, hr⟩
    exact ⟨(r, v), SortedMap.mem_entries.2 hr, rfl⟩

end Expression

/-! ## One join -/

section Joined

open Expression JoinTree

variable {x y : Expression} {added : List Atom}

/-- The equality of two columns applies no relation, and its variables are those of the bare names. -/
theorem Expression.Equates.spec {joined : Identifier → Prop} (h : x.Equates y joined added) {a : Atom}
    (ha : a ∈ added) : a.applications = [] ∧ ∀ v ∈ Formula.vars a, ∃ r,
      x.dictionary.get? r = some v ∨ y.dictionary.get? r = some v := by
  obtain ⟨columns, -, -, hatoms⟩ := h
  obtain ⟨c, -, v, w, hv, hw, rfl⟩ := exists_of_mem_forall₂ hatoms ha
  refine ⟨by rw [Formula.equality, Formula.applications], fun u hu => ⟨.bare c, ?_⟩⟩
  rw [Formula.vars, Formula.equality, Formula.arguments] at hu
  rcases (by simpa [Term.asVariable] using hu : u = v ∨ u = w) with rfl | rfl
  · exact .inl hv
  · exact .inr hw

/-- **What a join adds** applies no relation, and its variables are those of columns of the two sides or of
their product. -/
theorem JoinKind.Adds.spec {kind : JoinKind SqlCondition} (h : kind.Adds x y added) {a : Atom} (ha : a ∈ added) :
    a.applications = [] ∧ ∀ v ∈ Formula.vars a, ∃ r,
      x.dictionary.get? r = some v ∨ y.dictionary.get? r = some v ∨
        (product x y).dictionary.get? r = some v := by
  have merging : ∀ {joined : Identifier → Prop}, x.Equates y joined added → a.applications = [] ∧
      ∀ v ∈ Formula.vars a, ∃ r, x.dictionary.get? r = some v ∨ y.dictionary.get? r = some v ∨
        (product x y).dictionary.get? r = some v := by
    intro joined h
    obtain ⟨hnone, hvars⟩ := h.spec ha
    exact ⟨hnone, fun v hv => (hvars v hv).imp fun r hr => hr.imp_right .inl⟩
  cases kind with
  | cross =>
    obtain rfl : added = [] := h
    cases ha
  | on condition =>
    obtain ⟨joined, hjoined, hatoms⟩ := h
    obtain ⟨-, rfl⟩ := crossJoin_eq_ok.1 hjoined
    refine ⟨applications_conditionAtoms hatoms a ha, fun v hv => ?_⟩
    obtain ⟨r, hr⟩ := resolve_of_mem_vars_conditionAtoms hatoms ha hv
    exact ⟨r, .inr (.inr (resolve_eq_ok.1 hr))⟩
  | «using» columns => exact merging h
  | natural => exact merging h

end Joined

/-! ## Trees -/

namespace JoinTree

section Columns

variable {κ : Type} {t : JoinTree Leaf κ} {c : Identifier} {v : Variable}

theorem vars_join {kind : JoinKind κ} {left right : JoinTree Leaf κ} :
    (join kind left right).vars = left.vars ++ right.vars :=
  List.flatMap_append

theorem HasColumn.mem_vars (h : t.HasColumn c v) : v ∈ t.vars := by
  obtain ⟨l, hl, hv⟩ := h
  exact List.mem_flatMap.2 ⟨l, hl, List.mem_map_of_mem hv⟩

end Columns

variable {t left right : JoinTree Leaf SqlCondition} {e : Expression} {v : Variable}

/-- **One atom for each leaf**: its relation over its variables. -/
theorem dataAtoms_source (h : t.source = .ok e) :
    e.dataAtoms =
      t.leaves.map fun l => (.ofRelation l.relation l.columns.length, l.vars.map .var) := by
  induction t generalizing e with
  | leaf l =>
    cases h
    rw [Expression.dataAtoms, l.expression_atoms, leaves, List.map_singleton, Leaf.vars, List.map_map]
    rfl
  | join kind left right ihl ihr =>
    obtain ⟨x, y, hx, hy, he⟩ := source_join_eq_ok.1 h
    obtain ⟨-, added, bound, hadded, rfl⟩ := Expression.join_adds_atoms he
    have hnone : added.filterMap Formula.data? = [] := List.filterMap_eq_nil_iff.2 fun a ha =>
      Formula.data?_eq_none_of_applications (hadded.spec ha).1
    have hatoms : ((Expression.product x y).extend added bound).atoms = (x.atoms ++ y.atoms) ++ added := rfl
    rw [Expression.dataAtoms, hatoms, List.filterMap_append, List.filterMap_append, hnone, List.append_nil,
      leaves, List.map_append, ← ihl hx, ← ihr hy]
    rfl

/-- **No relation is applied below a connective.** -/
theorem applications_source (h : t.source = .ok e) :
    ∀ a ∈ e.atoms, a.applications = a.data?.toList := by
  induction t generalizing e with
  | leaf l =>
    cases h
    rw [l.expression_atoms, List.forall_mem_singleton, Formula.applications]
    rfl
  | join kind left right ihl ihr =>
    obtain ⟨x, y, hx, hy, he⟩ := source_join_eq_ok.1 h
    obtain ⟨-, added, bound, hadded, rfl⟩ := Expression.join_adds_atoms he
    refine List.forall_mem_append.2 ⟨List.forall_mem_append.2 ⟨ihl hx, ihr hy⟩, fun a ha => ?_⟩
    have hnone := (hadded.spec ha).1
    rw [hnone, Formula.data?_eq_none_of_applications hnone]
    rfl

/-- The arguments of the data atoms are the variables of the leaves, in order. -/
theorem arguments_dataAtoms_source (h : t.source = .ok e) :
    e.dataAtoms.flatMap (·.2) = t.vars.map .var := by
  rw [dataAtoms_source h, List.flatMap_map, vars, List.map_flatMap]

/-- A reference denotes a variable of a leaf. -/
theorem mem_vars_of_get? (h : t.source = .ok e) {r : Reference} (hv : e.dictionary.get? r = some v) :
    v ∈ t.vars :=
  (hasColumn_of_get? h hv).mem_vars

/-- **The variables of what a join adds** are variables of leaves below it. -/
theorem mem_vars_of_adds {kind : JoinKind SqlCondition} {x y : Expression} {added : List Atom}
    (h : kind.Adds x y added) (hs : Expression.shared? x y = none) (hx : left.source = .ok x)
    (hy : right.source = .ok y) {a : Atom} (ha : a ∈ added) (hv : v ∈ Formula.vars a) :
    v ∈ (join kind left right).vars := by
  rw [vars_join, List.mem_append]
  obtain ⟨r, hr | hr | hr⟩ := (h.spec ha).2 v hv
  · exact .inl (mem_vars_of_get? hx hr)
  · exact .inr (mem_vars_of_get? hy hr)
  · -- a condition is read over the cross join, which has the same leaves
    have hmem := mem_vars_of_get? (source_cross hx hy hs) hr
    rwa [vars_join, List.mem_append] at hmem

/-- So does every variable of an atom. -/
theorem mem_vars_of_mem_atom (h : t.source = .ok e) {a : Atom} (ha : a ∈ e.atoms)
    (hv : v ∈ Formula.vars a) : v ∈ t.vars := by
  induction t generalizing e with
  | leaf l =>
    cases h
    rw [l.expression_atoms, List.mem_singleton] at ha
    subst ha
    rw [Formula.vars, Formula.arguments] at hv
    obtain ⟨u, hu, huv⟩ := List.mem_filterMap.1 hv
    obtain ⟨c, hc, rfl⟩ := List.mem_map.1 hu
    cases huv
    exact List.mem_flatMap.2 ⟨l, List.mem_singleton_self l, List.mem_map_of_mem hc⟩
  | join kind left right ihl ihr =>
    obtain ⟨x, y, hx, hy, he⟩ := source_join_eq_ok.1 h
    obtain ⟨hs, added, bound, hadded, rfl⟩ := Expression.join_adds_atoms he
    rcases List.mem_append.1 ha with ha | ha
    · rw [vars_join, List.mem_append]
      exact (List.mem_append.1 ha).imp (ihl hx) (ihr hy)
    · exact mem_vars_of_adds hadded hs hx hy ha hv

/-- **A source has no variables but those of its leaves.** -/
theorem mem_vars_of_source (h : t.source = .ok e) (hv : v ∈ e.vars) : v ∈ t.vars := by
  rcases Expression.mem_vars.1 hv with ⟨a, ha, hv⟩ | ⟨r, hr⟩
  · exact mem_vars_of_mem_atom h ha hv
  · exact mem_vars_of_get? h hr

/-- **Each of them is one argument of one data atom**, if no two columns of the leaves share a variable. -/
theorem count_dataAtoms_source (hnodup : t.vars.Nodup) (h : t.source = .ok e)
    (hv : v ∈ e.vars) : (e.dataAtoms.flatMap (·.2)).count (.var v) = 1 := by
  have hinj : Function.Injective Term.var := fun _ _ h => Term.var.inj h
  rw [arguments_dataAtoms_source h, List.count_map_of_injective _ _ hinj]
  exact List.count_eq_one_of_mem hnodup (mem_vars_of_source h hv)

end JoinTree

end FromClause
