import FromClause.Proofs.Catalog.Lookup
import FromClause.Proofs.Data.Outcome
/-!
# Definitions added one after another

A catalog is told by its folding and by the definitions it holds (`ext_definitions`), and it holds no two of one id.
So definitions are added in order exactly when their ids are new and different from one another, and what comes of
it is the catalog with these definitions more (`addAll_eq_ok`). The order leaves no trace.

What a reference stands for is told by the definitions alone as well (`get?_eq_some_iff`): the one with exactly its
id, or else, for a reference without a schema, the only one with its table name. The two together say what every
reference stands for in a catalog that is built from a list of definitions (`get?_addAll_empty`).
-/

namespace FromClause

open Std

/-- The only member of a list that passes a test, where no member stands twice. -/
theorem filter_eq_singleton {α : Type} {as : List α} (hnodup : as.Nodup) {p : α → Bool} {a : α} :
    as.filter p = [a] ↔ a ∈ as ∧ p a = true ∧ ∀ b ∈ as, p b = true → b = a := by
  have hperm := List.perm_ext_iff_of_nodup (hnodup.filter p) (List.nodup_singleton a)
  rw [← List.perm_singleton, hperm]
  simp only [List.mem_filter, List.mem_singleton]
  constructor
  · intro h
    obtain ⟨hmem, hp⟩ := (h a).2 rfl
    exact ⟨hmem, hp, fun b hb hpb => (h b).1 ⟨hb, hpb⟩⟩
  · rintro ⟨hmem, hp, honly⟩ b
    exact ⟨fun hb => honly b hb.1 hb.2, fun hb => hb ▸ ⟨hmem, hp⟩⟩

namespace Catalog

variable {c c' : Catalog} {d : Definition} {ds : List Definition} {reference : RelationId}

/-! ## The definitions of a catalog -/

/-- The definitions have different ids. -/
theorem nodup_map_id (c : Catalog) : (c.definitions.map Definition.id).Nodup := by
  have hkeys : c.definitions.map Definition.id = c.relations.keys := by
    rw [definitions, SortedMap.values, SortedMap.keys, List.map_map]
    exact List.map_congr_left c.keyed
  rw [hkeys]
  exact c.relations.nodup_keys

/-- A relation that is found by its id is a definition with this id. -/
theorem get?_relations_eq_some :
    c.relations.get? reference = some d ↔ d ∈ c.definitions ∧ d.id = reference := by
  constructor
  · intro h
    obtain rfl : d.id = reference := c.keyed _ (SortedMap.mem_entries.2 h)
    exact ⟨mem_definitions.2 h, rfl⟩
  · rintro ⟨hmem, rfl⟩
    exact mem_definitions.1 hmem

/-- An id is free when no definition has it. -/
theorem get?_relations_eq_none :
    c.relations.get? reference = none ↔ ∀ d ∈ c.definitions, d.id ≠ reference := by
  simp only [Option.eq_none_iff_forall_ne_some, ne_eq, get?_relations_eq_some, not_and]

@[simp] theorem definitions_empty (folding : Folding) : (empty folding).definitions = [] := rfl

/-- **Catalogs with the same folding and the same definitions are one catalog.** -/
theorem ext_definitions (hfolding : c.folding = c'.folding)
    (h : ∀ d, d ∈ c.definitions ↔ d ∈ c'.definitions) : c = c' := by
  have hrelations : c.relations = c'.relations := by
    refine SortedMap.ext_get? fun key => Option.ext fun d => ?_
    rw [get?_relations_eq_some, get?_relations_eq_some, h]
  cases c
  cases c'
  cases hfolding
  cases hrelations
  rfl

/-! ## One definition more -/

/-- A definition is added exactly when its id is free, and joins the others. -/
theorem add_eq_ok : c.add d = .ok c' ↔
    (∀ d' ∈ c.definitions, d'.id ≠ d.id) ∧ c'.folding = c.folding ∧
      ∀ d', d' ∈ c'.definitions ↔ d' ∈ c.definitions ∨ d' = d := by
  have spec : ∀ {c'}, c.add d = .ok c' → (∀ d' ∈ c.definitions, d'.id ≠ d.id) ∧ c'.folding = c.folding ∧
      ∀ d', d' ∈ c'.definitions ↔ d' ∈ c.definitions ∨ d' = d := by
    intro c' h
    obtain ⟨hfree, hrelations, hfolding⟩ := relations_of_add h
    rw [get?_relations_eq_none] at hfree
    refine ⟨hfree, hfolding, fun d' => ?_⟩
    rw [mem_definitions, mem_definitions, hrelations, SortedMap.get?_insert]
    by_cases hid : d'.id = d.id
    · -- the id was free, so only the new definition has it
      have hnot : ¬c.relations.get? d'.id = some d' := fun h => hfree d' (mem_definitions.2 h) hid
      rw [if_pos hid, Option.some_inj, or_iff_right hnot, eq_comm]
    · have hne : d' ≠ d := fun h => hid (congrArg Definition.id h)
      rw [if_neg hid, or_iff_left hne]
  refine ⟨spec, fun ⟨hfree, hfolding, hmem⟩ => ?_⟩
  have hcontains : ¬c.relations.contains d.id = true := by
    rw [SortedMap.contains_iff, not_exists]
    intro d' hd'
    obtain ⟨hd', hid⟩ := get?_relations_eq_some.1 hd'
    exact hfree d' hd' hid
  have hok : ∃ c₁, c.add d = .ok c₁ := ⟨_, if_neg hcontains⟩
  obtain ⟨c₁, hc₁⟩ := hok
  obtain ⟨-, hfolding₁, hmem₁⟩ := spec hc₁
  rw [hc₁, ext_definitions (hfolding₁.trans hfolding.symm) fun d' => (hmem₁ d').trans (hmem d').symm]

/-- Else it is refused for its id. -/
theorem add_eq_error {e : CatalogError} :
    c.add d = .error e ↔ (∃ d' ∈ c.definitions, d'.id = d.id) ∧ e = .duplicateRelation d.id := by
  have hcontains : c.relations.contains d.id = true ↔ ∃ d' ∈ c.definitions, d'.id = d.id := by
    rw [SortedMap.contains_iff]
    exact exists_congr fun _ => get?_relations_eq_some
  rw [← hcontains, add]
  split
  next htaken =>
    rw [Except.error.injEq, and_iff_right htaken, eq_comm]
  next hfree => simp [hfree]

/-! ## Several definitions more -/

/-- The catalog with some definitions added in order, unless one of them is refused. -/
def addAll (c : Catalog) (ds : List Definition) : Except CatalogError Catalog := ds.foldlM add c

theorem addAll_cons (c : Catalog) (d : Definition) (ds : List Definition) :
    c.addAll (d :: ds) = (c.add d >>= fun c₁ => c₁.addAll ds) := List.foldlM_cons

/-- What definitions that are added come to: their ids were free and are different from one another, and they join the
definitions that are there. -/
theorem spec_of_addAll (h : c.addAll ds = .ok c') :
    (ds.map Definition.id).Nodup ∧ (∀ d ∈ ds, ∀ d' ∈ c.definitions, d'.id ≠ d.id) ∧ c'.folding = c.folding ∧
      ∀ d, d ∈ c'.definitions ↔ d ∈ c.definitions ∨ d ∈ ds := by
  induction ds generalizing c with
  | nil =>
    cases h
    exact ⟨.nil, List.forall_mem_nil _, rfl, fun d => (or_iff_left List.not_mem_nil).symm⟩
  | cons first rest ih =>
    rw [addAll_cons] at h
    obtain ⟨c₁, hfirst, hrest⟩ := bind_eq_ok.1 h
    obtain ⟨hfree, hfolding₁, hmem₁⟩ := add_eq_ok.1 hfirst
    obtain ⟨hnodup, hfrees, hfolding, hmem⟩ := ih hrest
    refine ⟨List.nodup_cons.2 ⟨fun hid => ?_, hnodup⟩, List.forall_mem_cons.2 ⟨hfree, fun d hd d' hd' => ?_⟩,
      hfolding.trans hfolding₁, fun d => ?_⟩
    · -- the first definition is there when the others are added
      obtain ⟨d, hd, hid⟩ := List.mem_map.1 hid
      exact hfrees d hd first ((hmem₁ first).2 (.inr rfl)) hid.symm
    · exact hfrees d hd d' ((hmem₁ d').2 (.inl hd'))
    · rw [hmem, hmem₁, List.mem_cons, or_assoc]

/-- Definitions whose ids are free and different from one another can be added. -/
theorem exists_addAll (hnodup : (ds.map Definition.id).Nodup)
    (hfree : ∀ d ∈ ds, ∀ d' ∈ c.definitions, d'.id ≠ d.id) : ∃ c', c.addAll ds = .ok c' := by
  induction ds generalizing c with
  | nil => exact ⟨c, rfl⟩
  | cons first rest ih =>
    obtain ⟨hid, hnodup⟩ := List.nodup_cons.1 hnodup
    obtain ⟨hfirst, hrest⟩ := List.forall_mem_cons.1 hfree
    rw [addAll_cons]
    cases hadd : c.add first with
    | error e =>
      obtain ⟨⟨d', hd', heq⟩, -⟩ := add_eq_error.1 hadd
      exact absurd heq (hfirst d' hd')
    | ok c₁ =>
      obtain ⟨-, -, hmem⟩ := add_eq_ok.1 hadd
      refine ih hnodup fun d hd d' hd' heq => ?_
      rcases (hmem d').1 hd' with hd' | rfl
      · exact hrest d hd d' hd' heq
      · exact hid (List.mem_map.2 ⟨d, hd, heq.symm⟩)

/-- **Definitions are added in order** exactly when their ids are free and different from one another. They join those
that are there, which stay. -/
theorem addAll_eq_ok : c.addAll ds = .ok c' ↔
    (ds.map Definition.id).Nodup ∧ (∀ d ∈ ds, ∀ d' ∈ c.definitions, d'.id ≠ d.id) ∧ c'.folding = c.folding ∧
      ∀ d, d ∈ c'.definitions ↔ d ∈ c.definitions ∨ d ∈ ds := by
  refine ⟨spec_of_addAll, fun ⟨hnodup, hfree, hfolding, hmem⟩ => ?_⟩
  obtain ⟨c₁, hc₁⟩ := exists_addAll hnodup hfree
  obtain ⟨-, -, hfolding₁, hmem₁⟩ := spec_of_addAll hc₁
  rw [hc₁, ext_definitions (hfolding₁.trans hfolding.symm) fun d => (hmem₁ d).trans (hmem d).symm]

/-- **The order leaves no trace.** -/
theorem addAll_perm {ds' : List Definition} (hperm : ds'.Perm ds) :
    c.addAll ds' = .ok c' ↔ c.addAll ds = .ok c' := by
  simp only [addAll_eq_ok, (hperm.map Definition.id).nodup_iff, hperm.mem_iff]

/-! ## What a reference stands for -/

/-- **A definition answers a reference**, among some definitions. -/
inductive Answers (ds : List Definition) (reference : RelationId) (d : Definition) : Prop
  /-- It has exactly the id that the reference is. -/
  | exact : d ∈ ds → d.id = reference → Answers ds reference d
  /-- No definition has that id, the reference has no schema, and this is the only definition with its table name. -/
  | byTable : d ∈ ds → (∀ e ∈ ds, e.id ≠ reference) → reference.schema = none →
    d.id.table = reference.table → (∀ e ∈ ds, e.id.table = reference.table → e = d) → Answers ds reference d

/-- Only the members of the list count. -/
theorem answers_congr {ds' : List Definition} (h : ∀ d, d ∈ ds ↔ d ∈ ds') :
    Answers ds reference d ↔ Answers ds' reference d := by
  have mono : ∀ {ds ds' : List Definition}, (∀ d, d ∈ ds ↔ d ∈ ds') → Answers ds reference d →
      Answers ds' reference d := by
    rintro ds ds' h (⟨hd, hid⟩ | ⟨hd, hfree, hschema, htable, honly⟩)
    · exact .exact ((h d).1 hd) hid
    · exact .byTable ((h d).1 hd) (fun e he => hfree e ((h e).2 he)) hschema htable
        fun e he => honly e ((h e).2 he)
  exact ⟨mono h, mono fun d => (h d).symm⟩

/-- A definition is found under its id, however many go by its table name. -/
theorem get?_id (h : d ∈ c.definitions) : c.get? d.id = some d := by
  rw [get?, lookup, mem_definitions.1 h]
  rfl

/-- A reference that is no id is looked up by its table name, if it has no schema. -/
theorem get?_of_free (hfree : ∀ e ∈ c.definitions, e.id ≠ reference) : c.get? reference = some d ↔
    reference.schema = none ∧ (c.definitions.filter fun e => e.id.table = reference.table) = [d] := by
  rw [get?, lookup, get?_relations_eq_none.2 hfree, RelationId.hasSchema]
  cases reference.schema with
  | some s => simp [Lookup.definition?]
  | none =>
    rw [and_iff_right rfl]
    dsimp only
    cases c.definitions.filter fun e => e.id.table = reference.table with
    | nil => simp [Lookup.definition?]
    | cons first rest =>
      cases rest with
      | nil =>
        rw [List.singleton_inj]
        exact Option.some_inj
      | cons second rest => simp [Lookup.definition?]

/-- **A reference is looked up among the definitions**, whatever their order. -/
theorem get?_eq_some_iff : c.get? reference = some d ↔ Answers c.definitions reference d := by
  by_cases hexact : ∃ e ∈ c.definitions, e.id = reference
  · obtain ⟨e, he, rfl⟩ := hexact
    rw [get?_id he, Option.some_inj]
    constructor
    · rintro rfl
      exact .exact he rfl
    · rintro (⟨hd, hid⟩ | ⟨-, hfree, -⟩)
      · exact eq_of_id_eq he hd hid.symm
      · exact absurd rfl (hfree e he)
  · have hfree : ∀ e ∈ c.definitions, e.id ≠ reference := fun e he hid => hexact ⟨e, he, hid⟩
    rw [get?_of_free hfree, filter_eq_singleton (c.nodup_map_id.of_map _)]
    simp only [decide_eq_true_eq]
    constructor
    · rintro ⟨hschema, hd, htable, honly⟩
      exact .byTable hd hfree hschema htable honly
    · rintro (⟨hd, hid⟩ | ⟨hd, -, hschema, htable, honly⟩)
      · exact absurd hid (hfree d hd)
      · exact ⟨hschema, hd, htable, honly⟩

/-- **Look-ups are exact, then unique by table, and independent of the order of loading.** Definitions with different
ids can be added to the empty catalog in any order, and every order gives the same catalog. In it a reference stands
for the definition that answers it, and for nothing if none does. -/
theorem get?_addAll_empty (folding : Folding) (h : (ds.map Definition.id).Nodup) :
    ∃ c, (∀ ds' : List Definition, ds'.Perm ds → (empty folding).addAll ds' = .ok c) ∧
      ∀ reference, (∀ d, c.get? reference = some d ↔ Answers ds reference d) ∧
        (c.get? reference = none ↔ ∀ d, ¬Answers ds reference d) := by
  have hfree : ∀ d ∈ ds, ∀ d' ∈ (empty folding).definitions, d'.id ≠ d.id := fun d _ => List.forall_mem_nil _
  obtain ⟨c, hc⟩ := exists_addAll h hfree
  refine ⟨c, fun ds' hperm => (addAll_perm hperm).2 hc, fun reference => ?_⟩
  -- the catalog holds the definitions of the list and no others
  obtain ⟨-, -, -, hmem⟩ := spec_of_addAll hc
  simp only [definitions_empty, List.not_mem_nil, false_or] at hmem
  have hanswers : ∀ d, c.get? reference = some d ↔ Answers ds reference d := by
    intro d
    rw [get?_eq_some_iff, answers_congr hmem]
  refine ⟨hanswers, ?_⟩
  simp only [Option.eq_none_iff_forall_ne_some, ne_eq, hanswers]

end Catalog

/-! ## Relations of several schemas -/

namespace Sample

/-- A relation with one column, which is called like its table. -/
def stored (schema : Option Identifier) (table : Identifier) : Definition :=
  ⟨⟨schema, table⟩, [⟨table, none, false⟩], List.nodup_singleton table⟩

def north : Identifier := ⟨"NORTH", by decide⟩

def south : Identifier := ⟨"SOUTH", by decide⟩

def desk : Identifier := ⟨"DESK", by decide⟩

def lamp : Identifier := ⟨"LAMP", by decide⟩

def shelf : Identifier := ⟨"SHELF", by decide⟩

/-- A relation without a schema, and the relations of two schemas. -/
def furniture : List Definition :=
  [stored none shelf, stored (some north) desk, stored (some north) lamp,
    stored (some south) desk, stored (some south) shelf]

/-- However the five relations are loaded, `LAMP` stands for the only relation of that name, and `SHELF` for the one
that has no schema, though there is another. `DESK` stands for nothing, because there are two. -/
theorem get?_addAll_furniture : (furniture.map Definition.id).Nodup ∧
    ∃ c, (∀ ds' : List Definition, ds'.Perm furniture → (Catalog.empty .upper).addAll ds' = .ok c) ∧
      c.get? (.bare lamp) = some (stored (some north) lamp) ∧
      c.get? (.bare shelf) = some (stored none shelf) ∧ c.get? (.bare desk) = none := by
  have hdistinct : (furniture.map Definition.id).Nodup := by decide
  obtain ⟨c, hload, hget⟩ := Catalog.get?_addAll_empty .upper hdistinct
  refine ⟨hdistinct, c, hload, ((hget _).1 _).2 ?_, ((hget _).1 _).2 ?_, (hget _).2.2 ?_⟩
  · have hlamp : stored (some north) lamp ∈ furniture := by simp [furniture]
    have honly : ∀ e ∈ furniture, e.id.table = lamp → e.id = ⟨some north, lamp⟩ := by decide
    exact .byTable hlamp (by decide) rfl rfl fun e he htable =>
      List.inj_on_of_nodup_map hdistinct he hlamp (honly e he htable)
  · exact .exact (by simp [furniture]) rfl
  · have hfree : ∀ e ∈ furniture, e.id ≠ .bare desk := by decide
    rintro d (⟨hd, hid⟩ | ⟨-, -, -, -, honly⟩)
    · exact hfree d hd hid
    · have hnorth := honly (stored (some north) desk) (by simp [furniture]) rfl
      have hsouth := honly (stored (some south) desk) (by simp [furniture]) rfl
      exact absurd (congrArg Definition.id (hnorth.trans hsouth.symm)) (by decide)

end Sample

end FromClause
