/-!
# Sorted maps

A finite map as the list of its entries in increasing order of keys. The order is part of the type, so two
maps with the same look-ups are one map, and reading a map from front to back is reading it in key order.
Small sets are maps to `Unit`.
-/

namespace FromClause

open Std

/-- A finite map, kept as its entries in strictly increasing order of keys. -/
structure SortedMap (α β : Type) [Ord α] where
  /-- The entries in key order. -/
  entries : List (α × β)
  /-- No key repeats, and each is less than those behind it. -/
  sorted : entries.Pairwise fun x y => compare x.1 y.1 = .lt
  deriving DecidableEq

namespace SortedMap

variable {α β γ : Type} [Ord α]

/-- The map without entries. -/
def empty : SortedMap α β := ⟨[], .nil⟩

instance : EmptyCollection (SortedMap α β) := ⟨empty⟩

instance : Inhabited (SortedMap α β) := ⟨empty⟩

/-- The value under a key. -/
def get? (m : SortedMap α β) (key : α) : Option β :=
  (m.entries.find? fun e => compare key e.1 == .eq).map (·.2)

/-- Whether the map has the key. -/
def contains (m : SortedMap α β) (key : α) : Bool :=
  m.entries.any fun e => compare key e.1 == .eq

/-- The keys in increasing order. -/
def keys (m : SortedMap α β) : List α := m.entries.map (·.1)

/-- The values in the order of their keys. -/
def values (m : SortedMap α β) : List β := m.entries.map (·.2)

/-- The number of entries. -/
def size (m : SortedMap α β) : Nat := m.entries.length

/-- Whether the map has no entries. -/
def isEmpty (m : SortedMap α β) : Bool := m.entries.isEmpty

/-- An entry put into its place in a list of entries. It replaces one under the same key. -/
def insertEntry (key : α) (value : β) : List (α × β) → List (α × β)
  | [] => [(key, value)]
  | e :: rest =>
    match compare key e.1 with
    | .lt => (key, value) :: e :: rest
    | .eq => (key, value) :: rest
    | .gt => e :: insertEntry key value rest

theorem mem_insertEntry {key : α} {value : β} {es : List (α × β)} {x : α × β}
    (h : x ∈ insertEntry key value es) : x = (key, value) ∨ x ∈ es := by
  induction es with
  | nil => simpa [insertEntry] using h
  | cons e rest ih =>
    rw [insertEntry] at h
    split at h
    · simpa using h
    · rcases List.mem_cons.1 h with rfl | h
      · exact .inl rfl
      · exact .inr (List.mem_cons_of_mem _ h)
    · rcases List.mem_cons.1 h with rfl | h
      · exact .inr List.mem_cons_self
      · exact (ih h).imp_right (List.mem_cons_of_mem _)

theorem sorted_insertEntry [TransOrd α] (key : α) (value : β) {es : List (α × β)}
    (h : es.Pairwise fun x y => compare x.1 y.1 = .lt) :
    (insertEntry key value es).Pairwise fun x y => compare x.1 y.1 = .lt := by
  induction es with
  | nil => simp [insertEntry]
  | cons e rest ih =>
    obtain ⟨he, hrest⟩ := List.pairwise_cons.1 h
    rw [insertEntry]
    split
    next hlt =>
      refine List.pairwise_cons.2 ⟨fun x hx => ?_, h⟩
      rcases List.mem_cons.1 hx with rfl | hx
      · exact hlt
      · exact TransCmp.lt_trans hlt (he x hx)
    next heq =>
      exact List.pairwise_cons.2 ⟨fun x hx => TransCmp.lt_of_eq_of_lt heq (he x hx), hrest⟩
    next hgt =>
      refine List.pairwise_cons.2 ⟨fun x hx => ?_, ih hrest⟩
      rcases mem_insertEntry hx with rfl | hx
      · exact OrientedCmp.lt_of_gt hgt
      · exact he x hx

/-- The map with an entry added, or replaced where the key was present. -/
def insert [TransOrd α] (m : SortedMap α β) (key : α) (value : β) : SortedMap α β :=
  ⟨insertEntry key value m.entries, sorted_insertEntry key value m.sorted⟩

/-- The map of a list of entries. For a key that repeats the last entry counts. -/
def ofList [TransOrd α] (es : List (α × β)) : SortedMap α β :=
  es.foldl (fun m e => m.insert e.1 e.2) ∅

/-- The entries whose key passes the test. -/
def filterKeys (m : SortedMap α β) (p : α → Bool) : SortedMap α β :=
  ⟨m.entries.filter fun e => p e.1, m.sorted.filter _⟩

end SortedMap

/-- A finite set, as a map to `Unit`. -/
abbrev SortedSet (α : Type) [Ord α] := SortedMap α Unit

namespace SortedSet

variable {α : Type} [Ord α]

/-- The members in increasing order. -/
def toList (s : SortedSet α) : List α := s.keys

/-- The set with a member added. -/
def add [TransOrd α] (s : SortedSet α) (a : α) : SortedSet α := s.insert a ()

/-- The set of the members of a list. -/
def ofList [TransOrd α] (as : List α) : SortedSet α := as.foldl add ∅

/-- The union of two sets. -/
def union [TransOrd α] (s t : SortedSet α) : SortedSet α := t.toList.foldl add s

end SortedSet

end FromClause
