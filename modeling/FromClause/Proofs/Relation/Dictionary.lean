import FromClause.Proofs.Data.SortedMap
import FromClause.Relation.Dictionary
/-!
# Dictionaries, by their look-ups

Qualified references and bare names are different keys, and the relations of a dictionary are the ones that
qualify some reference of it.
-/

namespace FromClause

namespace Reference

@[simp] theorem isQualified_bare (c : Identifier) : (bare c).isQualified = false := rfl

@[simp] theorem column_bare (c : Identifier) : (bare c).column = c := rfl

@[simp] theorem qualified_inj {R S : RelationId} {c d : Identifier} :
    qualified R c = qualified S d ↔ R = S ∧ c = d := by
  simp [qualified]

@[simp] theorem bare_inj {c d : Identifier} : bare c = bare d ↔ c = d := by
  simp [bare]

@[simp] theorem qualified_ne_bare (R : RelationId) (c d : Identifier) : qualified R c ≠ bare d := by
  simp [qualified, bare]

/-- A reference is a bare name or a qualified one. -/
theorem eq_bare_or_eq_qualified (r : Reference) :
    r = bare r.column ∨ ∃ R, r = qualified R r.column := by
  rcases r with ⟨_ | R, c⟩
  · exact .inl rfl
  · exact .inr ⟨R, rfl⟩

end Reference

namespace Dictionary

variable {d : Dictionary} {R : RelationId}

/-- A relation of the dictionary qualifies a reference that can be resolved. -/
theorem mem_relations : R ∈ d.relations.toList ↔ ∃ c v, d.get? (.qualified R c) = some v := by
  rw [relations, SortedSet.mem_ofList, List.mem_filterMap]
  constructor
  · rintro ⟨r, hr, hR⟩
    obtain ⟨v, hv⟩ := SortedMap.mem_keys.1 hr
    have : r = .qualified R r.column := by
      rcases r with ⟨_, c⟩
      cases hR
      rfl
    exact ⟨r.column, v, this ▸ hv⟩
  · rintro ⟨c, v, hv⟩
    exact ⟨_, SortedMap.mem_keys.2 ⟨v, hv⟩, rfl⟩

/-! ## Bare names put into a dictionary -/

/-- A dictionary with the given bare names added or replaced. -/
def rebind (d : Dictionary) (bound : List (Identifier × Variable)) : Dictionary :=
  bound.foldl (fun d e => d.insert (.bare e.1) e.2) d

theorem rebind_eq (d : Dictionary) (bound : List (Identifier × Variable)) :
    d.rebind bound =
      (bound.map fun e => (Reference.bare e.1, e.2)).foldl (fun d e => d.insert e.1 e.2) d := by
  rw [rebind, List.foldl_map]

/-- Qualified references keep their variables. -/
@[simp] theorem get?_qualified_rebind (bound : List (Identifier × Variable)) (c : Identifier) :
    (d.rebind bound).get? (.qualified R c) = d.get? (.qualified R c) := by
  induction bound generalizing d with
  | nil => rfl
  | cons e rest ih =>
    rw [rebind, List.foldl_cons]
    exact ih.trans (by rw [SortedMap.get?_insert, if_neg (Reference.qualified_ne_bare _ _ _)])

/-- A name that is bound once denotes its variable; one that is not bound keeps the one it had. -/
theorem bare?_rebind {bound : List (Identifier × Variable)} {c : Identifier} {v : Variable}
    (single : ∀ c v w, (c, v) ∈ bound → (c, w) ∈ bound → v = w) :
    (d.rebind bound).bare? c = some v ↔
      (c, v) ∈ bound ∨ (∀ w, (c, w) ∉ bound) ∧ d.bare? c = some v := by
  have hmem : ∀ c v, (Reference.bare c, v) ∈ bound.map (fun e => (Reference.bare e.1, e.2)) ↔
      (c, v) ∈ bound := fun c v => by simp
  rw [bare?, rebind_eq, SortedMap.get?_foldl_insert]
  · simp only [hmem, bare?]
  · intro r v w hv hw
    obtain ⟨e, -, he⟩ := List.mem_map.1 hv
    obtain rfl : r = .bare e.1 := (Prod.mk.inj he).1.symm
    exact single e.1 v w ((hmem _ _).1 hv) ((hmem _ _).1 hw)

end Dictionary

end FromClause
