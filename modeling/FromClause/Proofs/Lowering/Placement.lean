import FromClause.Proofs.Lowering.Plan
import FromClause.Proofs.Lowering.Variables
/-!
# What a plan places

Every table that a FROM clause names has one place in its plan, in the order of the text (`itemsPlan_placed`),
and a place has one column for each that the catalog declares (`length_of_exposure`), no two of them with one name
(`placement_eq_ok`). So the tree of a plan binds each column of each table to a variable of its own, and in
the order of the columns these are the variables drawn for the plan (`Plan.vars_tree`).
-/

namespace FromClause

open Sql

/-! ## The sources that a clause names -/

namespace Sql

mutual

/-- The sources that make up a single one, with joins in brackets opened up. -/
def TableFactor.sources : TableFactor → List TableFactor
  | .nested item _ => item.sources
  | .table name arguments label => [.table name arguments label]
  | .derived text label => [.derived text label]
  | .other text label => [.other text label]

/-- The sources that an item of a FROM clause joins, from left to right. -/
def TableItem.sources : TableItem → List TableFactor
  | .factor source => source.sources
  | .join left _ right => left.sources ++ right.sources

end

/-- The sources that the FROM clause of a statement names. -/
def Statement.sources : Statement → List TableFactor
  | .query ⟨_, .select s, _⟩ => s.items.flatMap TableItem.sources
  | .query ⟨_, .other, _⟩ | .command _ => []

end Sql

/-- Identifiers are told by their texts. -/
theorem Identifier.text_injective : Function.Injective Identifier.text := by
  intro a b h
  cases a
  cases b
  cases h
  rfl

namespace Lowering

/-- The relation id that a source refers to. -/
def reference? (folding : Folding) : TableFactor → Option RelationId
  | .table name _ _ => (relationId folding name).toOption
  | .nested .. | .derived .. | .other .. => none

variable {c : Catalog} {plan : Plan}

/-! ## One place -/

/-- No column equals one before it when no two are equal, and only then. -/
theorem firstDuplicate?_eq_none {columns : List Identifier} :
    firstDuplicate? columns = none ↔ columns.Nodup := by
  rw [firstDuplicate?, Option.map_eq_none_iff, List.find?_eq_none, List.nodup_iff_getElem?_ne_getElem?]
  constructor
  · -- of two equal columns the later one would be found among those before it
    intro h i j hij hj heq
    have hlater : columns[j]? = some columns[j] := List.getElem?_eq_getElem hj
    obtain ⟨hi, heq⟩ := List.getElem?_eq_some_iff.1 (heq.trans hlater)
    have hmem : columns[j] ∈ columns.take j := List.mem_take_iff_getElem.2 ⟨i, by omega, heq⟩
    exact h (columns[j], j) (List.mem_zipIdx_iff_getElem?.2 hlater) (List.contains_iff_mem.2 hmem)
  · rintro h ⟨column, j⟩ hmem hcontains
    have hlater : columns[j]? = some column := List.mem_zipIdx_iff_getElem?.1 hmem
    obtain ⟨hj, -⟩ := List.getElem?_eq_some_iff.1 hlater
    obtain ⟨i, hi, heq⟩ := List.mem_take_iff_getElem.1 (List.contains_iff_mem.1 hcontains)
    have hearlier : columns[i]? = some column := List.getElem?_eq_some_iff.2 ⟨by omega, heq⟩
    exact h i j (by omega) hj (hearlier.trans hlater.symm)

/-- A member of a list stands in it before, and is the first one that does. -/
def FirstRepeated {α : Type} (as : List α) (a : α) : Prop :=
  ∃ before after, as = before ++ a :: after ∧ before.Nodup ∧ a ∈ before

/-- Different members stay different under an injective function, so the first one to repeat stays so. -/
theorem FirstRepeated.map {α β : Type} {f : α → β} (hf : Function.Injective f) {as : List α} {a : α}
    (h : FirstRepeated as a) : FirstRepeated (as.map f) (f a) := by
  obtain ⟨before, after, rfl, hnodup, hmem⟩ := h
  exact ⟨before.map f, after.map f, List.map_append, hnodup.map hf, List.mem_map_of_mem hmem⟩

/-- A column that is found to repeat is the first one to do so. -/
theorem firstRepeated_of_firstDuplicate? {columns : List Identifier} {column : Identifier}
    (h : firstDuplicate? columns = some column) : FirstRepeated columns column := by
  rw [firstDuplicate?, Option.map_eq_some_iff] at h
  obtain ⟨⟨found, j⟩, hfind, heq⟩ := h
  obtain rfl : found = column := heq
  obtain ⟨hcontains, front, back, hsplit, hearlier⟩ := List.find?_eq_some_iff_append.1 hfind
  obtain ⟨before, rest, rfl, rfl, hback⟩ := List.zipIdx_eq_append_iff.1 hsplit
  cases rest with
  | nil => cases hback
  | cons first after =>
    rw [List.zipIdx_cons, List.cons.injEq, Prod.mk.injEq, Nat.zero_add] at hback
    obtain ⟨⟨rfl, rfl⟩, -⟩ := hback
    refine ⟨before, after, rfl, firstDuplicate?_eq_none.1 ?_, ?_⟩
    · -- what stands before an earlier column stands before this one
      rw [firstDuplicate?, Option.map_eq_none_iff, List.find?_eq_none]
      intro c hc hrepeats
      have hle : c.2 ≤ before.length := Nat.le_of_lt (List.snd_lt_of_mem_zipIdx hc)
      have hnot := hearlier c hc
      rw [List.take_append_of_le_length hle, hrepeats] at hnot
      cases hnot
    · rw [List.take_left' rfl] at hcontains
      exact List.contains_iff_mem.1 hcontains

/-- **An alias renames** the relation and the first of its columns, of which there are to be enough. -/
theorem exposure_some_eq_ok {folding : Folding} {d : Definition} {a : TableAlias}
    {qualifier : Option RelationId} {columns : List Identifier} :
    exposure folding d (some a) = .ok (qualifier, columns) ↔
      ∃ exposed new, identifier folding a.name = .ok exposed ∧
        List.Forall₂ (fun c n => identifier folding c.name = .ok n) a.columns new ∧
        a.columns.length ≤ d.columns.length ∧ qualifier = some (.bare exposed) ∧
        columns = renamed (d.columns.map Column.name) new := by
  constructor
  · intro h
    obtain ⟨exposed, hexposed, h⟩ := bind_eq_ok.1 h
    dsimp only at h
    split at h
    · cases h
    next hfew =>
      obtain ⟨new, hnew, h⟩ := bind_eq_ok.1 h
      cases h
      rw [List.length_map] at hfew
      exact ⟨exposed, new, hexposed, mapM_eq_ok.1 hnew, Nat.le_of_not_lt hfew, rfl, rfl⟩
  · rintro ⟨exposed, new, hexposed, hnew, hfew, rfl, rfl⟩
    refine bind_eq_ok.2 ⟨exposed, hexposed, ?_⟩
    have hfew : ¬(d.columns.map Column.name).length < a.columns.length := by
      rw [List.length_map]
      exact Nat.not_lt.2 hfew
    dsimp only
    rw [if_neg hfew]
    exact bind_eq_ok.2 ⟨new, mapM_eq_ok.2 hnew, rfl⟩

/-- New names for the first columns leave the number of columns as it is. -/
theorem length_renamed {columns new : List Identifier} (h : new.length ≤ columns.length) :
    (renamed columns new).length = columns.length := by
  rw [renamed, List.length_append, List.length_drop]
  exact Nat.add_sub_cancel' h

/-- An alias changes the names of the columns, not their number. -/
theorem length_of_exposure {folding : Folding} {d : Definition} {label : Option TableAlias}
    {qualifier : Option RelationId} {columns : List Identifier}
    (h : exposure folding d label = .ok (qualifier, columns)) : columns.length = d.arity := by
  cases label with
  | none =>
    cases h
    exact List.length_map _
  | some a =>
    obtain ⟨exposed, new, -, hnew, hfew, -, rfl⟩ := exposure_some_eq_ok.1 h
    have hlen : new.length ≤ (d.columns.map Column.name).length := by
      rwa [List.length_map, ← hnew.length_eq]
    rw [length_renamed hlen]
    exact List.length_map _

/-- **A place is a relation of the catalog**, exposed as the table reference says, with no two columns of one
name. -/
theorem placement_eq_ok {name : ObjectName} {label : Option TableAlias} {place : Placement} :
    placement c name label = .ok place ↔
      ∃ reference d, relationId c.folding name = .ok reference ∧ c.get? reference = some d ∧
        place.relation = d.id ∧ exposure c.folding d label = .ok (place.label, place.columns) ∧
        place.columns.Nodup := by
  constructor
  · intro h
    obtain ⟨reference, hreference, h⟩ := bind_eq_ok.1 h
    cases hd : c.get? reference with
    | none =>
      rw [hd] at h
      cases h
    | some d =>
      rw [hd] at h
      obtain ⟨⟨qualifier, columns⟩, hexposure, h⟩ := bind_eq_ok.1 h
      dsimp only at h
      cases hdup : firstDuplicate? columns with
      | some column =>
        rw [hdup] at h
        cases h
      | none =>
        rw [hdup] at h
        cases h
        exact ⟨reference, d, hreference, hd, rfl, hexposure, firstDuplicate?_eq_none.1 hdup⟩
  · obtain ⟨relation, qualifier, columns⟩ := place
    rintro ⟨reference, d, hreference, hd, rfl, hexposure, hnodup⟩
    refine bind_eq_ok.2 ⟨reference, hreference, ?_⟩
    rw [hd]
    refine bind_eq_ok.2 ⟨_, hexposure, ?_⟩
    dsimp only
    rw [firstDuplicate?_eq_none.2 hnodup]
    rfl

/-! ## The places of a clause -/

/-- A source is a table, and the place is the one for it. -/
def Placed (c : Catalog) (source : TableFactor) (place : Placement) : Prop :=
  ∃ name label, source = .table name none label ∧ placement c name label = .ok place

mutual

theorem factorPlan_placed : ∀ (source : TableFactor) {plan : Plan}, factorPlan c source = .ok plan →
    List.Forall₂ (Placed c) source.sources plan.leaves
  | .table name none label, _, h => by
    rw [factorPlan] at h
    obtain ⟨place, hplace, h⟩ := bind_eq_ok.1 h
    cases h
    rw [TableFactor.sources]
    exact .cons ⟨name, label, rfl, hplace⟩ .nil
  | .table name (some _) _, _, h => by
    rw [factorPlan] at h
    cases h
  | .nested item none, _, h => by
    rw [factorPlan] at h
    rw [TableFactor.sources]
    exact itemPlan_placed item h
  | .nested _ (some label), _, h => by
    rw [factorPlan] at h
    cases h
  | .derived .., _, h => by
    rw [factorPlan] at h
    cases h
  | .other text label, _, h => by
    rw [factorPlan] at h
    cases h

theorem itemPlan_placed : ∀ (item : TableItem) {plan : Plan}, itemPlan c item = .ok plan →
    List.Forall₂ (Placed c) item.sources plan.leaves
  | .factor source, _, h => by
    rw [itemPlan] at h
    rw [TableItem.sources]
    exact factorPlan_placed source h
  | .join left operator right, _, h => by
    rw [itemPlan] at h
    obtain ⟨l, hl, h⟩ := bind_eq_ok.1 h
    obtain ⟨r, hr, h⟩ := bind_eq_ok.1 h
    obtain ⟨kind, -, h⟩ := bind_eq_ok.1 h
    cases h
    rw [TableItem.sources]
    exact List.rel_append (itemPlan_placed left hl) (factorPlan_placed right hr)

end

/-- Items that are cross joined to a plan are placed behind it. -/
theorem foldlM_placed {rest : List TableItem} {first plan : Plan} {sources : List TableFactor}
    (hfirst : List.Forall₂ (Placed c) sources first.leaves)
    (h : rest.foldlM (fun t item => do return .join .cross t (← itemPlan c item)) first = .ok plan) :
    List.Forall₂ (Placed c) (sources ++ rest.flatMap TableItem.sources) plan.leaves := by
  induction rest generalizing first sources with
  | nil =>
    cases h
    simpa using hfirst
  | cons item rest ih =>
    rw [List.foldlM_cons] at h
    obtain ⟨joined, hjoined, h⟩ := bind_eq_ok.1 h
    obtain ⟨t, ht, hjoined⟩ := bind_eq_ok.1 hjoined
    cases hjoined
    rw [List.flatMap_cons, ← List.append_assoc]
    let joined : Plan := .join .cross first t
    have hjoined : List.Forall₂ (Placed c) (sources ++ item.sources) joined.leaves :=
      List.rel_append hfirst (itemPlan_placed item ht)
    exact ih hjoined h

/-- **Every source of a clause has one place in its plan**, and there are no others. -/
theorem itemsPlan_placed {items : List TableItem} (h : itemsPlan c items = .ok plan) :
    List.Forall₂ (Placed c) (items.flatMap TableItem.sources) plan.leaves := by
  cases items with
  | nil => cases h
  | cons first rest =>
    obtain ⟨t, ht, h⟩ := bind_eq_ok.1 h
    exact foldlM_placed (itemPlan_placed first ht) h

/-- The sources of a statement are those of the SELECT that it is. -/
theorem sources_eq_of_plainSelect {s : Statement} {query : Select} (h : plainSelect s = .ok query) :
    s.sources = query.items.flatMap TableItem.sources := by
  match s with
  | .query ⟨_, .select _, _⟩ =>
    cases h
    rfl
  | .query ⟨_, .other, _⟩ => cases h
  | .command _ => cases h

/-- So has every source of a statement. -/
theorem statementPlan_placed {s : Statement} (h : statementPlan c s = .ok plan) :
    List.Forall₂ (Placed c) s.sources plan.leaves := by
  obtain ⟨query, hquery, h⟩ := bind_eq_ok.1 h
  rw [sources_eq_of_plainSelect hquery]
  exact itemsPlan_placed h

/-! ## The tree of a plan -/

namespace Placement

variable (place : Placement) (bound : List (Identifier × Variable))

@[simp] theorem leaf_columns : (place.leaf bound).columns = bound := by
  rw [leaf]
  split <;> rfl

@[simp] theorem leaf_relation : (place.leaf bound).relation = place.relation := by
  rw [leaf]
  split <;> rfl

end Placement

namespace Plan

/-- A leaf binds the columns of a place to variables of some supply. -/
def Binds (place : Placement) (l : Leaf) : Prop := ∃ s : Supply, l = place.leaf (s.bind place.columns).1

/-- **The leaves of the tree** bind the columns of the places. -/
theorem leaves_tree (plan : Plan) (s : Supply) : List.Forall₂ Binds plan.leaves (plan.tree s).leaves := by
  induction plan generalizing s with
  | leaf place => exact .cons ⟨s, rfl⟩ .nil
  | join kind left right ihl ihr => exact List.rel_append (ihl s) (ihr _)

/-- **The variables of the tree** are those drawn for the columns of the plan. -/
theorem vars_tree (plan : Plan) (s : Supply) : (plan.tree s).vars = s.drawn plan.columns := by
  induction plan generalizing s with
  | leaf place =>
    rw [columns_leaf, tree, JoinTree.vars, JoinTree.leaves, List.flatMap_singleton, Leaf.vars,
      Placement.leaf_columns]
    rfl
  | join kind left right ihl ihr =>
    rw [columns_join, Supply.drawn_append, tree, JoinTree.vars_join, ihl, ihr]

/-- A leaf that binds the columns of a place has these as its names. -/
theorem Binds.names {place : Placement} {l : Leaf} (h : Binds place l) : l.names = place.columns := by
  obtain ⟨s, rfl⟩ := h
  rw [Leaf.names, Placement.leaf_columns, Supply.map_fst_bind]

end Plan

end Lowering

end FromClause
