import FromClause.Catalog.Basic
import FromClause.Proofs.Data.SortedMap
/-!
# Look-ups in a growing catalog

A reference is looked up by its exact id first and by its table name next, and the second look-up goes through
all relations of the catalog. A relation that is added has its own id and its own table name, so only references
to its table name can tell the larger catalog from the smaller one (`lookup_add`).
-/

namespace FromClause

open Std

namespace SortedMap

variable {α β : Type} [Ord α]

/-- An entry under a new key, put into its place, is passed over by a test that it fails. -/
theorem filter_insertEntry {p : α × β → Bool} {key : α} {value : β} {es : List (α × β)}
    (hfree : ∀ e ∈ es, compare key e.1 ≠ .eq) (hp : p (key, value) = false) :
    (insertEntry key value es).filter p = es.filter p := by
  induction es with
  | nil => rw [insertEntry, List.filter_cons_of_neg (ne_true_of_eq_false hp)]
  | cons e rest ih =>
    obtain ⟨he, hrest⟩ := List.forall_mem_cons.1 hfree
    rw [insertEntry]
    split
    next => rw [List.filter_cons_of_neg (ne_true_of_eq_false hp)]
    next heq => exact absurd heq he
    next => rw [List.filter_cons, List.filter_cons, ih hrest]

variable [TransOrd α] [LawfulEqOrd α] [DecidableEq α]

/-- **A new value that fails a test** is not among the values that pass it. -/
theorem filter_values_insert {m : SortedMap α β} {p : β → Bool} {key : α} {value : β}
    (hfree : m.get? key = none) (hp : p value = false) :
    (m.insert key value).values.filter p = m.values.filter p := by
  have hentries : ∀ e ∈ m.entries, compare key e.1 ≠ .eq := by
    rintro ⟨k, v⟩ he heq
    obtain rfl : key = k := LawfulEqOrd.compare_eq_iff_eq.1 heq
    rw [mem_entries.1 he] at hfree
    cases hfree
  rw [values, values, insert, List.filter_map, List.filter_map]
  exact congrArg _ (filter_insertEntry hentries hp)

end SortedMap

namespace Catalog

variable {c c' : Catalog} {d : Definition} {reference : RelationId}

/-- The definitions of a catalog stand under their ids. -/
theorem mem_definitions : d ∈ c.definitions ↔ c.relations.get? d.id = some d := by
  rw [definitions, SortedMap.values, List.mem_map, ← SortedMap.mem_entries]
  constructor
  · rintro ⟨⟨key, d⟩, hmem, rfl⟩
    obtain rfl : d.id = key := c.keyed _ hmem
    exact hmem
  · intro hmem
    exact ⟨_, hmem, rfl⟩

/-- No two definitions have one id. -/
theorem eq_of_id_eq {d' : Definition} (hd : d ∈ c.definitions) (hd' : d' ∈ c.definitions)
    (h : d.id = d'.id) : d = d' := by
  rw [mem_definitions] at hd hd'
  rw [h, hd'] at hd
  exact (Option.some.inj hd).symm

/-- What a reference stands for is a definition of the catalog. -/
theorem mem_definitions_of_get? (h : c.get? reference = some d) : d ∈ c.definitions := by
  rw [get?, lookup] at h
  split at h
  next d' hd' =>
    obtain rfl : d' = d := Option.some.inj h
    obtain rfl : d'.id = reference := c.keyed _ (SortedMap.mem_entries.2 hd')
    exact mem_definitions.2 hd'
  next =>
    split at h
    · cases h
    · split at h
      next => cases h
      next d' hfilter =>
        obtain rfl : d' = d := Option.some.inj h
        have hmem : d' ∈ c.definitions.filter fun d => d.id.table = reference.table := by
          rw [hfilter]
          exact List.mem_singleton_self d'
        exact (List.mem_filter.1 hmem).1
      next => cases h

/-- **A definition is added** under its id, if no relation has that id yet. -/
theorem relations_of_add (h : c.add d = .ok c') :
    c.relations.get? d.id = none ∧ c'.relations = c.relations.insert d.id d ∧ c'.folding = c.folding := by
  rw [add] at h
  split at h
  next => cases h
  next hfree =>
    cases h
    refine ⟨Option.eq_none_iff_forall_ne_some.2 fun d' hd' => hfree ?_, rfl, rfl⟩
    exact SortedMap.contains_iff.2 ⟨d', hd'⟩

/-- **A new relation is no answer to references to other tables**: these stand for what they stood for before,
whether they have a schema or not. -/
theorem lookup_add (h : c.add d = .ok c') (hne : reference.table ≠ d.id.table) :
    c'.lookup reference = c.lookup reference := by
  obtain ⟨hfree, hrelations, -⟩ := relations_of_add h
  have hid : reference ≠ d.id := fun heq => hne (congrArg RelationId.table heq)
  have hdefinitions : (c'.definitions.filter fun d => d.id.table = reference.table) =
      c.definitions.filter fun d => d.id.table = reference.table := by
    rw [definitions, definitions, hrelations]
    exact SortedMap.filter_values_insert hfree (by exact decide_eq_false hne.symm)
  rw [lookup, lookup, hdefinitions, hrelations, SortedMap.get?_insert, if_neg hid]

end Catalog

end FromClause
