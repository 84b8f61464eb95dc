import FromClause.Proofs.Data.SortedMap
import FromClause.Relation.Scope
/-!
# Scopes, by their occurrences

A scope is read through `Scope.occurrences`: the relations that expose a name, in order and each once. The
tests of a scope count them, and the union of two scopes has the occurrences of both.

A scope can also contain a name that no relation exposes. None that a join or a leaf builds does, so the two
readings of "the name is there" are kept apart until that is proved.
-/

namespace FromClause

namespace Scope

variable {s t : Scope} {c name : Identifier} {R : RelationId}

/-- The relations that expose a name. -/
def occurrences (s : Scope) (column : Identifier) : List RelationId :=
  ((s.get? column).map SortedSet.toList).getD []

theorem mem_occurrences : R ∈ s.occurrences c ↔ ∃ rs, s.get? c = some rs ∧ R ∈ rs.toList := by
  rw [occurrences]
  cases s.get? c <;> simp

theorem nodup_occurrences (s : Scope) (c : Identifier) : (s.occurrences c).Nodup := by
  rw [occurrences]
  cases s.get? c with
  | none => exact List.nodup_nil
  | some rs => exact SortedSet.nodup_toList rs

/-! ## The tests of a scope -/

theorem isAmbiguous_iff : s.isAmbiguous c = true ↔ 1 < (s.occurrences c).length := by
  rw [isAmbiguous, occurrences]
  cases s.get? c <;> simp

theorem unique?_eq_some : s.unique? c = some R ↔ s.occurrences c = [R] := by
  rw [unique?, occurrences]
  cases s.get? c with
  | none => simp
  | some rs =>
    obtain h | ⟨a, h⟩ | ⟨a, b, l, h⟩ : rs.toList = [] ∨ (∃ a, rs.toList = [a]) ∨
        ∃ a b l, rs.toList = a :: b :: l := by
      rcases rs.toList with _ | ⟨a, _ | ⟨b, l⟩⟩ <;> simp
    all_goals simp [h]

theorem contains_of_mem_occurrences (h : R ∈ s.occurrences c) : s.contains c = true := by
  obtain ⟨rs, hrs, -⟩ := mem_occurrences.1 h
  exact SortedMap.contains_iff.2 ⟨rs, hrs⟩

theorem mem_names : c ∈ s.names ↔ s.contains c = true := SortedMap.contains_eq_mem_keys.symm

theorem mem_common : c ∈ s.common t ↔ s.contains c = true ∧ t.contains c = true := by
  rw [common, List.mem_filter, mem_names]

/-- **Scopes with the same names and the same occurrences are one scope.** -/
theorem ext_occurrences (hnames : ∀ c, s.contains c = true ↔ t.contains c = true)
    (hrelations : ∀ c R, R ∈ s.occurrences c ↔ R ∈ t.occurrences c) : s = t := by
  refine SortedMap.ext_get? fun c => ?_
  have hn := hnames c
  have hr := hrelations c
  simp only [SortedMap.contains_iff, mem_occurrences] at hn hr
  cases hs : s.get? c with
  | none =>
    cases ht : t.get? c with
    | none => rfl
    | some rs => simp [hs, ht] at hn
  | some rs =>
    obtain ⟨rs', ht⟩ := hn.1 ⟨rs, hs⟩
    simp only [hs, ht, Option.some.injEq, exists_eq_left'] at hr
    rw [ht, SortedSet.ext_toList hr]

/-! ## What is added to a scope -/

theorem contains_expose {rs : SortedSet RelationId} :
    (s.expose name rs).contains c = true ↔ s.contains c = true ∨ c = name := by
  simp only [SortedMap.contains_iff, expose, SortedMap.get?_insert]
  by_cases h : c = name <;> simp [h]

theorem mem_occurrences_expose {rs : SortedSet RelationId} :
    R ∈ (s.expose name rs).occurrences c ↔ R ∈ s.occurrences c ∨ c = name ∧ R ∈ rs.toList := by
  simp only [mem_occurrences, expose, SortedMap.get?_insert]
  by_cases h : c = name
  · subst h
    cases s.get? c with
    | none => simp
    | some rs' => simp
  · simp [h]

section Folds

variable {ι : Type} {name : ι → Identifier} {rs : ι → SortedSet RelationId}

theorem contains_foldl_expose {es : List ι} :
    (es.foldl (fun s e => s.expose (name e) (rs e)) s).contains c = true ↔
      s.contains c = true ∨ ∃ e ∈ es, c = name e := by
  induction es generalizing s with
  | nil => simp
  | cons e rest ih =>
    rw [List.foldl_cons, ih, contains_expose, or_assoc]
    simp only [List.mem_cons, exists_eq_or_imp]

theorem mem_occurrences_foldl_expose {es : List ι} :
    R ∈ (es.foldl (fun s e => s.expose (name e) (rs e)) s).occurrences c ↔
      R ∈ s.occurrences c ∨ ∃ e ∈ es, c = name e ∧ R ∈ (rs e).toList := by
  induction es generalizing s with
  | nil => simp
  | cons e rest ih =>
    rw [List.foldl_cons, ih, mem_occurrences_expose, or_assoc]
    simp only [List.mem_cons, exists_eq_or_imp]

end Folds

/-- The names of a union are the names of both scopes. -/
theorem contains_union :
    (s.union t).contains c = true ↔ s.contains c = true ∨ t.contains c = true := by
  rw [union, contains_foldl_expose, ← mem_names (s := t), names, SortedMap.keys, List.mem_map]
  simp only [eq_comm]

/-- **The union is pointwise.** -/
theorem mem_occurrences_union :
    R ∈ (s.union t).occurrences c ↔ R ∈ s.occurrences c ∨ R ∈ t.occurrences c := by
  rw [union, mem_occurrences_foldl_expose, mem_occurrences (s := t)]
  refine or_congr_right ⟨?_, ?_⟩
  · rintro ⟨e, he, rfl, hR⟩
    exact ⟨e.2, SortedMap.mem_entries.1 he, hR⟩
  · rintro ⟨rs, hrs, hR⟩
    exact ⟨(c, rs), SortedMap.mem_entries.2 hrs, rfl, hR⟩

/-- The order of two scopes does not matter for their union. -/
theorem union_comm (s t : Scope) : s.union t = t.union s := by
  refine ext_occurrences (fun c => ?_) fun c R => ?_
  · rw [contains_union, contains_union, or_comm]
  · rw [mem_occurrences_union, mem_occurrences_union, or_comm]

/-- Scopes that share no relation add up their occurrences. -/
theorem length_occurrences_union (h : ∀ R ∈ s.occurrences c, R ∉ t.occurrences c) :
    ((s.union t).occurrences c).length = (s.occurrences c).length + (t.occurrences c).length := by
  rw [← List.length_append]
  refine List.Perm.length_eq ((List.perm_ext_iff_of_nodup (nodup_occurrences _ _) ?_).2 fun R => ?_)
  · exact (nodup_occurrences s c).append (nodup_occurrences t c) (fun R hs ht => h R hs ht)
  · rw [mem_occurrences_union, List.mem_append]

end Scope

end FromClause
