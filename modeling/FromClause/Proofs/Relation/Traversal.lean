import FromClause.Proofs.Relation.Acceptance
/-!
# Nothing is lost on the way up

A folded tree has everything that its leaves have, once and in order, whatever the joins are. Its scope is the
union of the scopes of the leaves; its qualified references are theirs with their variables, none written over
by another; and its atoms are read off the tree from left to right, each join adding its own behind those of its
two sides. The leaves may be any sources and the conditions may be translated in any way.

The qualified references are where something could go wrong: every join puts those of both sides into one map.
No two sides of a join share a relation, so the two halves of that map never meet (`qualified_product_perm`).
-/

namespace FromClause

/-! ## The qualified references of a join -/

theorem SortedMap.nodup_entries {α β : Type} [Ord α] [Std.LawfulEqOrd α] (m : SortedMap α β) :
    m.entries.Nodup :=
  List.Nodup.of_map _ m.nodup_keys

theorem Reference.eq_qualified_of_isQualified {r : Reference} (h : r.isQualified = true) :
    ∃ R, r = qualified R r.column := by
  rcases r.eq_bare_or_eq_qualified with hr | hr
  · rw [hr, isQualified_bare] at h
    cases h
  · exact hr

namespace Dictionary

variable {d d' : Dictionary} {r : Reference} {v : Variable}

theorem mem_qualified : (r, v) ∈ d.qualified.entries ↔ r.isQualified = true ∧ d.get? r = some v := by
  rw [SortedMap.mem_entries, qualified, SortedMap.get?_filterKeys]
  by_cases h : r.isQualified <;> simp [h]

/-- The qualified entries are settled by the qualified look-ups. -/
theorem qualified_congr (h : ∀ R c, d.get? (.qualified R c) = d'.get? (.qualified R c)) :
    d.qualified = d'.qualified := by
  refine SortedMap.ext_get? fun r => ?_
  rw [qualified, qualified, SortedMap.get?_filterKeys, SortedMap.get?_filterKeys]
  split
  next hr =>
    obtain ⟨R, hr⟩ := Reference.eq_qualified_of_isQualified hr
    rw [hr, h]
  next => rfl

/-- Bare names that are bound anew leave the qualified entries as they are. -/
theorem qualified_rebind (bound : List (Identifier × Variable)) :
    (d.rebind bound).qualified = d.qualified :=
  qualified_congr fun _ c => get?_qualified_rebind bound c

/-- Dictionaries with the same qualified entries and the same bare names are one dictionary. -/
theorem ext_qualified_bare (hqualified : d.qualified = d'.qualified) (hbare : ∀ c, d.bare? c = d'.bare? c) :
    d = d' := by
  refine SortedMap.ext_get? fun r => ?_
  rcases r.eq_bare_or_eq_qualified with hr | ⟨R, hr⟩
  · rw [hr]
    exact hbare r.column
  · have hget := congrArg (SortedMap.get? · r) hqualified
    have hr' : r.isQualified = true := by rw [hr]; rfl
    simpa only [qualified, SortedMap.get?_filterKeys, if_pos hr'] using hget

end Dictionary

namespace Expression

variable {x y e : Expression}

/-- Sources that share no relation have no qualified entry in common. -/
theorem disjoint_qualified (hs : shared? x y = none) :
    List.Disjoint x.dictionary.qualified.entries y.dictionary.qualified.entries := by
  rintro ⟨r, v⟩ hx hy
  obtain ⟨hr, hx⟩ := Dictionary.mem_qualified.1 hx
  obtain ⟨-, hy⟩ := Dictionary.mem_qualified.1 hy
  obtain ⟨R, heq⟩ := Reference.eq_qualified_of_isQualified hr
  rw [heq] at hx hy
  exact shared?_eq_none.1 hs R (mem_relations_of_get? hx) (mem_relations_of_get? hy)

/-- **The qualified entries of a product** are those of its two sides. -/
theorem qualified_product_perm (hs : shared? x y = none) :
    (product x y).dictionary.qualified.entries.Perm
      (x.dictionary.qualified.entries ++ y.dictionary.qualified.entries) := by
  have hnodup : (x.dictionary.qualified.entries ++ y.dictionary.qualified.entries).Nodup :=
    (SortedMap.nodup_entries _).append (SortedMap.nodup_entries _) (disjoint_qualified hs)
  refine (List.perm_ext_iff_of_nodup (SortedMap.nodup_entries _) hnodup).2 ?_
  rintro ⟨r, v⟩
  rw [List.mem_append]
  simp only [Dictionary.mem_qualified, ← and_or_left]
  refine and_congr_right fun hr => ?_
  obtain ⟨R, heq⟩ := Reference.eq_qualified_of_isQualified hr
  rw [heq]
  exact get?_qualified_product_iff hs

/-! ## The atoms that a join adds -/

theorem nodup_firsts (columns : List Identifier) : (firsts columns).Nodup := by
  induction columns with
  | nil => exact List.nodup_nil
  | cons c rest ih =>
    rw [firsts, List.nodup_cons]
    refine ⟨fun hc => ?_, ih.filter _⟩
    -- the filter has taken every other occurrence away
    have hne : c ≠ c := of_decide_eq_true (List.mem_filter.1 hc).2
    exact hne rfl

/-- Some atoms equate the columns of two sources that have a property: one atom for each such name, between the
variables of its bare name, the one on the left first. -/
def Equates (x y : Expression) (joined : Identifier → Prop) (atoms : List Atom) : Prop :=
  ∃ columns : List Identifier, columns.Nodup ∧ (∀ c, c ∈ columns ↔ joined c) ∧
    List.Forall₂ (fun c a => ∃ v w, x.dictionary.bare? c = some v ∧ y.dictionary.bare? c = some w ∧
      a = .equality (.var v) (.var w)) columns atoms

/-- The equalities of USING stand between the variables of the listed columns, one for each of their first places. -/
theorem Pairs.forall₂_equalities {columns : List Identifier} {pairs : List (Identifier × Variable × Variable)}
    (h : Pairs x y columns pairs) :
    List.Forall₂ (fun c a => ∃ v w, x.dictionary.bare? c = some v ∧ y.dictionary.bare? c = some w ∧
      a = .equality (.var v) (.var w)) (firsts columns) (equalities pairs) := by
  rw [equalities, List.forall₂_map_right_iff]
  refine h.imp fun c p hp => ?_
  obtain ⟨-, hv, hw⟩ := bareVariables?_eq_ok.1 hp
  exact ⟨p.2.1, p.2.2, hv, hw, rfl⟩

/-- So they equate these columns. -/
theorem Pairs.equates {columns : List Identifier} {pairs : List (Identifier × Variable × Variable)}
    (h : Pairs x y columns pairs) : Equates x y (· ∈ columns) (equalities pairs) :=
  ⟨firsts columns, nodup_firsts columns, fun _ => mem_firsts, h.forall₂_equalities⟩

end Expression

variable {κ : Type} [JoinCondition κ]

/-- The atoms that a join of two sources adds to theirs: none for a cross join, those of the condition over the
cross join, or the equalities of the joined columns. -/
def JoinKind.Adds (x y : Expression) : JoinKind κ → List Atom → Prop
  | cross, added => added = []
  | on condition, added =>
    ∃ joined, x.crossJoin y = .ok joined ∧ JoinCondition.atoms condition joined = .ok added
  | .using columns, added => x.Equates y (· ∈ columns) added
  | natural, added => x.Equates y (fun c => x.scope.contains c = true ∧ y.scope.contains c = true) added

/-- **What every join adds**: atoms of its own behind those of its sides, and bare names. -/
theorem Expression.join_adds_atoms {kind : JoinKind κ} {x y e : Expression} (h : x.join y kind = .ok e) :
    shared? x y = none ∧ ∃ added bound, kind.Adds x y added ∧ e = (product x y).extend added bound := by
  cases kind with
  | cross =>
    obtain ⟨hs, rfl⟩ := crossJoin_eq_ok.1 h
    exact ⟨hs, [], [], rfl, (extend_nil _).symm⟩
  | on condition =>
    obtain ⟨hs, atoms, hatoms, rfl⟩ := joinOn_eq_ok.1 h
    exact ⟨hs, atoms, [], ⟨_, crossJoin_eq_ok.2 ⟨hs, rfl⟩, hatoms⟩, rfl⟩
  | «using» columns =>
    obtain ⟨hs, -, pairs, hpairs, rfl⟩ := joinUsing_eq_ok.1 h
    exact ⟨hs, _, _, hpairs.equates, rfl⟩
  | natural =>
    obtain ⟨hs, -, pairs, hpairs, rfl⟩ := joinUsing_eq_ok.1 h
    refine ⟨hs, _, _, ?_, rfl⟩
    obtain ⟨columns, hnodup, hmem, hatoms⟩ := hpairs.equates
    exact ⟨columns, hnodup, fun c => (hmem c).trans Scope.mem_common, hatoms⟩

/-! ## The whole tree -/

namespace JoinTree

variable {t : JoinTree Expression κ} {e : Expression}

/-- Some atoms are what the tree yields from left to right: at a leaf its atoms, at a join those of the left
side, those of the right side, and those that the join adds to what the two sides are folded to. -/
def Yields : JoinTree Expression κ → List Atom → Prop
  | leaf source, atoms => atoms = source.atoms
  | join kind left right, atoms =>
    ∃ before after added x y, left.fold = .ok x ∧ right.fold = .ok y ∧ left.Yields before ∧
      right.Yields after ∧ kind.Adds x y added ∧ atoms = before ++ after ++ added

/-- **The atoms of a folded tree** are what the tree yields. -/
theorem yields_atoms_fold (h : t.fold = .ok e) : t.Yields e.atoms := by
  induction t generalizing e with
  | leaf source =>
    cases h
    exact rfl
  | join kind left right ihl ihr =>
    obtain ⟨x, y, hx, hy, he⟩ := fold_join_eq_ok.1 h
    obtain ⟨-, added, bound, hadded, rfl⟩ := Expression.join_adds_atoms he
    exact ⟨x.atoms, y.atoms, added, x, y, hx, hy, ihl hx, ihr hy, hadded, rfl⟩

/-- **The qualified entries of a folded tree** are those of its leaves, each once. -/
theorem qualified_fold_perm (h : t.fold = .ok e) :
    e.dictionary.qualified.entries.Perm
      (t.leaves.flatMap fun s => s.dictionary.qualified.entries) := by
  induction t generalizing e with
  | leaf source =>
    cases h
    rw [leaves, List.flatMap_singleton]
  | join kind left right ihl ihr =>
    obtain ⟨x, y, hx, hy, he⟩ := fold_join_eq_ok.1 h
    obtain ⟨hs, added, bound, -, rfl⟩ := Expression.join_adds_atoms he
    rw [Expression.extend_dictionary, Dictionary.qualified_rebind, leaves, List.flatMap_append]
    exact (Expression.qualified_product_perm hs).trans ((ihl hx).append (ihr hy))

/-- **Nothing is lost, doubled or moved on the way up a tree.** The scope of a folded tree is the union of the
scopes of its leaves, name by name. Its qualified entries are those of the leaves, which have no key in common.
Its atoms are what the tree yields from left to right. So two trees over the same leaves, whatever their joins
and their shapes, have the same scope and find the same under every qualified reference. -/
theorem fold_keeps_leaves (h : t.fold = .ok e) :
    ((∀ c, e.scope.contains c = true ↔ ∃ s ∈ t.leaves, s.scope.contains c = true) ∧
      ∀ c R, R ∈ e.scope.occurrences c ↔ ∃ s ∈ t.leaves, R ∈ s.scope.occurrences c) ∧
    (e.dictionary.qualified.entries.Perm (t.leaves.flatMap fun s => s.dictionary.qualified.entries) ∧
      (t.leaves.flatMap fun s => s.dictionary.qualified.keys).Nodup) ∧
    t.Yields e.atoms ∧
    ∀ (κ' : Type) [JoinCondition κ'] (u : JoinTree Expression κ') (e' : Expression),
      u.fold = .ok e' → t.leaves.Perm u.leaves →
      e.scope = e'.scope ∧ e.dictionary.qualified = e'.dictionary.qualified := by
  have hperm := qualified_fold_perm h
  refine ⟨⟨fun c => contains_fold h, fun c R => mem_occurrences_fold h⟩, ⟨hperm, ?_⟩,
    yields_atoms_fold h, ?_⟩
  · -- the keys of one map are different, and these are the keys of the folded tree in another order
    have hkeys := (hperm.map Prod.fst).symm
    rw [List.map_flatMap] at hkeys
    exact hkeys.nodup_iff.2 e.dictionary.qualified.nodup_keys
  · intro κ' _ u e' hu hleaves
    have hmem : ∀ s, s ∈ t.leaves ↔ s ∈ u.leaves := fun s => hleaves.mem_iff
    exact ⟨scope_fold_congr h hu hmem,
      Dictionary.qualified_congr fun R c => get?_qualified_fold_congr h hu hmem⟩

end JoinTree

namespace Sample

open JoinTree

/-- The three leaves under a natural join and a condition, and once more under USING and a cross join. -/
theorem fold_regrouped_joins :
    ∃ x y, ((clause (.on sameAmount)).map Leaf.expression).fold = .ok x ∧
      (join .cross (leaf grade.expression)
        (join (.using [id, id]) (leaf staff.expression) (leaf salary.expression)) :
          JoinTree Expression Expression.Translation).fold = .ok y ∧
      ((clause (.on sameAmount)).map Leaf.expression).Yields x.atoms ∧
      x.scope = y.scope ∧ x.dictionary.qualified = y.dictionary.qualified := by
  let other : JoinTree Expression Expression.Translation := join .cross (leaf grade.expression)
    (join (.using [id, id]) (leaf staff.expression) (leaf salary.expression))
  obtain ⟨x, hx⟩ := isOk_iff.1 (by decide :
    ((clause (.on sameAmount)).map Leaf.expression).fold.isOk = true)
  obtain ⟨y, hy⟩ := isOk_iff.1 (by decide : other.fold.isOk = true)
  obtain ⟨-, -, hyields, hsame⟩ := fold_keeps_leaves hx
  have hleaves : [salary.expression, staff.expression, grade.expression].Perm
      [grade.expression, staff.expression, salary.expression] := (List.reverse_perm _).symm
  obtain ⟨hscope, hqualified⟩ := hsame _ other y hy hleaves
  exact ⟨x, y, hx, hy, hyields, hscope, hqualified⟩

end Sample

end FromClause
