import FromClause.Data.SortedMap
import Mathlib.Data.List.Nodup
/-!
# Sorted maps, by their look-ups

What each operation does to the look-ups of a map, so that no later proof opens the list of entries. The
order is needed for three facts only: an entry of the list is found under its key (`mem_entries`), a set
lists no member twice (`nodup_toList`), and maps with the same look-ups are one map (`ext_get?`).

A map is often built by putting a list of entries into another one. `get?_foldl_insert` is the equation for
that, for a list that has one value for each key.
-/

namespace FromClause

open Std

/-- **Two lists in the same strict order** with the same members are one list. -/
theorem eq_of_pairwise_asymm {α : Type} {Before : α → α → Prop} (asymm : ∀ a b, Before a b → ¬Before b a)
    {as bs : List α} (has : as.Pairwise Before) (hbs : bs.Pairwise Before) (h : ∀ a, a ∈ as ↔ a ∈ bs) :
    as = bs := by
  have nodup : ∀ {cs : List α}, cs.Pairwise Before → cs.Nodup := by
    intro cs hcs
    refine hcs.imp fun {a b} hab heq => ?_
    subst heq
    exact asymm a a hab hab
  have hperm : as.Perm bs := (List.perm_ext_iff_of_nodup (nodup has) (nodup hbs)).2 h
  exact hperm.eq_of_pairwise (fun a b _ _ hab hba => absurd hba (asymm a b hab)) has hbs

namespace SortedMap

variable {α β γ : Type} [Ord α]

@[simp] theorem get?_empty (key : α) : (∅ : SortedMap α β).get? key = none := rfl

/-- The keys stand in increasing order. -/
theorem pairwise_keys (m : SortedMap α β) : m.keys.Pairwise fun a b => compare a b = .lt :=
  List.pairwise_map.2 m.sorted

/-! ## Values replaced -/

/-- The map with every value replaced. -/
def mapValues (f : β → γ) (m : SortedMap α β) : SortedMap α γ :=
  ⟨m.entries.map (Prod.map id f), List.pairwise_map.2 m.sorted⟩

@[simp] theorem keys_mapValues (f : β → γ) (m : SortedMap α β) : (m.mapValues f).keys = m.keys := by
  rw [keys, mapValues, List.map_map]
  rfl

@[simp] theorem get?_mapValues (f : β → γ) (m : SortedMap α β) (key : α) :
    (m.mapValues f).get? key = (m.get? key).map f := by
  rw [get?, get?, mapValues, List.find?_map, Option.map_map, Option.map_map]
  rfl

variable [LawfulEqOrd α]

/-! ## Entries and look-ups -/

/-- The keys of a map are different from one another. -/
theorem nodup_keys (m : SortedMap α β) : m.keys.Nodup := by
  refine m.pairwise_keys.imp fun {x y} h hxy => ?_
  rw [hxy, ReflOrd.compare_self] at h
  exact Ordering.noConfusion h

variable [DecidableEq α]

/-- The comparison of a look-up is equality of keys. -/
theorem compare_beq_eq (a b : α) : (compare a b == .eq) = decide (a = b) := by
  rw [Bool.eq_iff_iff, beq_iff_eq, decide_eq_true_iff]
  exact LawfulEqOrd.compare_eq_iff_eq

theorem get?_eq_find? (m : SortedMap α β) (key : α) :
    m.get? key = (m.entries.find? fun e => decide (key = e.1)).map (·.2) := by
  simp only [get?, compare_beq_eq]

/-- **An entry is found under its key**, and nothing else is. -/
theorem mem_entries {m : SortedMap α β} {key : α} {value : β} :
    (key, value) ∈ m.entries ↔ m.get? key = some value := by
  rw [get?_eq_find?, Option.map_eq_some_iff]
  constructor
  · intro h
    obtain ⟨e, he⟩ := Option.isSome_iff_exists.1
      (List.find?_isSome.2 ⟨(key, value), h, decide_eq_true rfl⟩ :
        (m.entries.find? fun e => decide (key = e.1)).isSome)
    have hkey : key = e.1 := of_decide_eq_true (List.find?_some he :)
    have hmem := List.mem_of_find?_eq_some he
    have := List.inj_on_of_nodup_map m.nodup_keys h hmem hkey
    exact ⟨e, he, by rw [← this]⟩
  · rintro ⟨e, he, rfl⟩
    have hkey : key = e.1 := of_decide_eq_true (List.find?_some he :)
    rw [hkey]
    exact List.mem_of_find?_eq_some he

theorem contains_iff {m : SortedMap α β} {key : α} :
    m.contains key = true ↔ ∃ value, m.get? key = some value := by
  simp only [contains, compare_beq_eq, List.any_eq_true, decide_eq_true_iff, ← mem_entries]
  constructor
  · rintro ⟨e, he, rfl⟩
    exact ⟨e.2, he⟩
  · rintro ⟨value, h⟩
    exact ⟨_, h, rfl⟩

theorem mem_keys {m : SortedMap α β} {key : α} :
    key ∈ m.keys ↔ ∃ value, m.get? key = some value := by
  simp only [keys, List.mem_map, ← mem_entries]
  constructor
  · rintro ⟨e, he, rfl⟩
    exact ⟨e.2, he⟩
  · rintro ⟨value, h⟩
    exact ⟨_, h, rfl⟩

theorem contains_eq_mem_keys {m : SortedMap α β} {key : α} :
    m.contains key = true ↔ key ∈ m.keys := by
  rw [contains_iff, mem_keys]

/-! ## What the operations do to a look-up -/

@[simp] theorem get?_filterKeys (m : SortedMap α β) (p : α → Bool) (key : α) :
    (m.filterKeys p).get? key = if p key then m.get? key else none := by
  ext value
  rw [← mem_entries, filterKeys, List.mem_filter, mem_entries]
  by_cases hp : p key <;> simp [hp]

variable [TransOrd α]

@[simp] theorem get?_insert (m : SortedMap α β) (k key : α) (value : β) :
    (m.insert k value).get? key = if key = k then some value else m.get? key := by
  obtain ⟨es, hs⟩ := m
  simp only [get?_eq_find?, insert]
  induction es with
  | nil => by_cases h : key = k <;> simp [insertEntry, h]
  | cons e rest ih =>
    rw [insertEntry]
    split
    next => by_cases h : key = k <;> simp [h]
    next heq =>
      have : k = e.1 := LawfulEqOrd.compare_eq_iff_eq.1 heq
      by_cases h : key = k <;> simp_all
    next hgt =>
      have hne : k ≠ e.1 := fun h => by simp [h, ReflOrd.compare_self] at hgt
      have := ih (List.pairwise_cons.1 hs).2
      by_cases he : key = e.1
      · have hk : key ≠ k := fun h => hne (h.symm.trans he)
        simp [he, hne.symm]
      · simpa [he] using this

/-- **Entries put into a map**, where the list has one value for each key: the list answers for its own
keys, the map for all others. -/
theorem get?_foldl_insert {es : List (α × β)}
    (single : ∀ k v w, (k, v) ∈ es → (k, w) ∈ es → v = w) (m : SortedMap α β) {key : α} {value : β} :
    (es.foldl (fun m e => m.insert e.1 e.2) m).get? key = some value ↔
      (key, value) ∈ es ∨ (∀ v, (key, v) ∉ es) ∧ m.get? key = some value := by
  induction es generalizing m with
  | nil => simp
  | cons e rest ih =>
    have single' : ∀ k v w, (k, v) ∈ rest → (k, w) ∈ rest → v = w := fun k v w hv hw =>
      single k v w (List.mem_cons_of_mem _ hv) (List.mem_cons_of_mem _ hw)
    rw [List.foldl_cons, ih single', get?_insert]
    by_cases he : key = e.1
    · subst he
      -- a later entry under the key of the first one has its value
      have hsame : ∀ v, (e.1, v) ∈ rest → v = e.2 := fun v hv =>
        single e.1 v e.2 (List.mem_cons_of_mem _ hv) List.mem_cons_self
      constructor
      · rintro (h | ⟨-, h⟩)
        · exact .inl (List.mem_cons_of_mem _ h)
        · rw [if_pos rfl, Option.some_inj] at h
          exact .inl (h ▸ List.mem_cons_self)
      · rintro (h | ⟨h, -⟩)
        · by_cases hrest : ∃ v, (e.1, v) ∈ rest
          · obtain ⟨v, hv⟩ := hrest
            have : value = e.2 := single e.1 value e.2 h List.mem_cons_self
            exact .inl (this ▸ hsame v hv ▸ hv)
          · refine .inr ⟨fun v hv => hrest ⟨v, hv⟩, ?_⟩
            rw [if_pos rfl, single e.1 value e.2 h List.mem_cons_self]
        · exact absurd List.mem_cons_self (h e.2)
    · have hne : ∀ v, (key, v) ≠ e := fun v h => he (by rw [← h])
      simp [he, hne]

/-- Whatever the list holds, a look-up answers with an entry of the list or as the map did. -/
theorem mem_or_get?_of_get?_foldl_insert {es : List (α × β)} {m : SortedMap α β} {key : α} {value : β}
    (h : (es.foldl (fun m e => m.insert e.1 e.2) m).get? key = some value) :
    (key, value) ∈ es ∨ m.get? key = some value := by
  induction es generalizing m with
  | nil => exact .inr h
  | cons e rest ih =>
    rcases ih h with hrest | hm
    · exact .inl (List.mem_cons_of_mem _ hrest)
    · rw [get?_insert] at hm
      split at hm
      next hkey =>
        cases hm
        exact .inl (hkey ▸ List.mem_cons_self)
      next => exact .inr hm

/-- Every key of the list is found, and so is every key of the map. -/
theorem exists_get?_foldl_insert {es : List (α × β)} {m : SortedMap α β} {key : α}
    (h : (∃ value, (key, value) ∈ es) ∨ ∃ value, m.get? key = some value) :
    ∃ value, (es.foldl (fun m e => m.insert e.1 e.2) m).get? key = some value := by
  induction es generalizing m with
  | nil => exact h.resolve_left fun ⟨_, hmem⟩ => List.not_mem_nil hmem
  | cons e rest ih =>
    rw [List.foldl_cons]
    by_cases hkey : key = e.1
    · exact ih (.inr ⟨e.2, by rw [get?_insert, if_pos hkey]⟩)
    · refine ih (h.imp ?_ ?_)
      · rintro ⟨value, hmem⟩
        exact ⟨value, (List.mem_cons.1 hmem).resolve_left fun heq => hkey (congrArg Prod.fst heq)⟩
      · rintro ⟨value, hm⟩
        exact ⟨value, by rw [get?_insert, if_neg hkey, hm]⟩

/-- Two maps laid one over the other: the upper one answers first. -/
theorem get?_ofList_append (m n : SortedMap α β) (key : α) :
    (ofList (m.entries ++ n.entries)).get? key = (n.get? key).or (m.get? key) := by
  have single : ∀ m : SortedMap α β, ∀ k v w, (k, v) ∈ m.entries → (k, w) ∈ m.entries → v = w :=
    fun m k v w hv hw => Option.some_inj.1 ((mem_entries.1 hv).symm.trans (mem_entries.1 hw))
  ext value
  rw [ofList, List.foldl_append, get?_foldl_insert (single n), get?_foldl_insert (single m)]
  simp only [mem_entries, get?_empty]
  cases n.get? key <;> simp

/-- **Maps with the same look-ups are one map.** -/
theorem ext_get? {m n : SortedMap α β} (h : ∀ key, m.get? key = n.get? key) : m = n := by
  have heq : m.entries = n.entries := by
    refine eq_of_pairwise_asymm (fun a b hab => ?_) m.sorted n.sorted fun e => ?_
    · exact OrientedCmp.not_lt_of_lt hab
    · rw [mem_entries, mem_entries, h]
  cases m
  cases n
  cases heq
  rfl

/-! ## Replaced values and the operations -/

section MapValues

variable (f : β → γ) (m : SortedMap α β)

theorem mapValues_filterKeys (p : α → Bool) :
    (m.filterKeys p).mapValues f = (m.mapValues f).filterKeys p := by
  refine ext_get? fun key => ?_
  by_cases h : p key <;> simp [h]

theorem mapValues_insert (key : α) (value : β) :
    (m.insert key value).mapValues f = (m.mapValues f).insert key (f value) := by
  refine ext_get? fun k => ?_
  by_cases h : k = key <;> simp [h]

theorem mapValues_ofList (es : List (α × β)) :
    (ofList es).mapValues f = ofList (es.map (Prod.map id f)) := by
  rw [ofList, ofList, List.foldl_map]
  exact (List.foldl_hom (mapValues f) fun m e => (mapValues_insert f m e.1 e.2).symm).symm

end MapValues

end SortedMap

/-! ## Sets -/

namespace SortedSet

variable {α : Type} [Ord α]

@[simp] theorem toList_empty : (∅ : SortedSet α).toList = [] := rfl

@[simp] theorem length_toList (s : SortedSet α) : s.toList.length = s.size :=
  List.length_map _

variable [LawfulEqOrd α]

/-- A set lists no member twice. -/
theorem nodup_toList (s : SortedSet α) : s.toList.Nodup := s.nodup_keys

variable [DecidableEq α]

theorem contains_iff_mem {s : SortedSet α} {a : α} : s.contains a = true ↔ a ∈ s.toList :=
  SortedMap.contains_eq_mem_keys

variable [TransOrd α]

@[simp] theorem mem_add {s : SortedSet α} {a b : α} : b ∈ (s.add a).toList ↔ b = a ∨ b ∈ s.toList := by
  simp only [toList, add, SortedMap.mem_keys, SortedMap.get?_insert]
  by_cases h : b = a <;> simp [h]

theorem mem_foldl_add {as : List α} {s : SortedSet α} {a : α} :
    a ∈ (as.foldl add s).toList ↔ a ∈ as ∨ a ∈ s.toList := by
  induction as generalizing s with
  | nil => simp
  | cons b rest ih =>
    rw [List.foldl_cons, ih, mem_add, List.mem_cons]
    tauto

@[simp] theorem mem_union {s t : SortedSet α} {a : α} :
    a ∈ (s.union t).toList ↔ a ∈ s.toList ∨ a ∈ t.toList := by
  rw [union, mem_foldl_add, or_comm]

@[simp] theorem mem_ofList {as : List α} {a : α} : a ∈ (ofList as).toList ↔ a ∈ as := by
  rw [ofList, mem_foldl_add, toList_empty]
  exact or_iff_left List.not_mem_nil

/-- Sets with the same members are one set. -/
theorem ext_toList {s t : SortedSet α} (h : ∀ a, a ∈ s.toList ↔ a ∈ t.toList) : s = t := by
  refine SortedMap.ext_get? fun a => Option.ext fun u => ?_
  have hmem : ∀ r : SortedSet α, r.get? a = some u ↔ a ∈ r.toList := fun r => by
    rw [toList, SortedMap.mem_keys]
    exact ⟨fun hu => ⟨u, hu⟩, fun ⟨_, hu⟩ => hu⟩
  rw [hmem, hmem, h]

end SortedSet

end FromClause
