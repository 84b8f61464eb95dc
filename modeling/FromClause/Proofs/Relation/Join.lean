import FromClause.Proofs.Data.Outcome
import FromClause.Proofs.Relation.Dictionary
import FromClause.Proofs.Relation.Scope
import FromClause.Relation.Join
/-!
# What a join does

Every join starts from the product of its operands and may add two things to it: atoms, and bare names that
stand for a column of the left operand again. `Expression.extend` is the product with both. This file says
what the product looks up, and takes each of the four joins apart: when it succeeds and what it then is
(`crossJoin_eq_ok`, `joinOn_eq_ok`, `joinUsing_eq_ok`). `join_ok` is the common part of the four.
-/

namespace FromClause

namespace Expression

variable {left right e : Expression} {R : RelationId} {c : Identifier} {v : Variable}

/-! ## The product -/

theorem shared?_eq_none :
    shared? left right = none ↔ ∀ R ∈ left.relations.toList, R ∉ right.relations.toList := by
  simp only [shared?, List.find?_eq_none, SortedSet.contains_iff_mem]

@[simp] theorem product_scope : (product left right).scope = left.scope.union right.scope := rfl

/-- The qualified entries of both sides, before bare names are added. -/
def qualifiedEntries (left right : Expression) : Dictionary :=
  .ofList (left.dictionary.qualified.entries ++ right.dictionary.qualified.entries)

theorem get?_qualifiedEntries (r : Reference) :
    (qualifiedEntries left right).get? r =
      if r.isQualified then (right.dictionary.get? r).or (left.dictionary.get? r) else none := by
  rw [qualifiedEntries, SortedMap.get?_ofList_append, Dictionary.qualified, Dictionary.qualified,
    SortedMap.get?_filterKeys, SortedMap.get?_filterKeys]
  split <;> rfl

/-- The bare names of a product, each with the variable of the only relation that exposes it. -/
def bareEntries (left right : Expression) : List (Identifier × Variable) :=
  (left.scope.union right.scope).names.filterMap fun name => do
    let relation ← (left.scope.union right.scope).unique? name
    let v ← (qualifiedEntries left right).get? (.qualified relation name)
    return (name, v)

theorem product_dictionary :
    (product left right).dictionary = (qualifiedEntries left right).rebind (bareEntries left right) :=
  rfl

theorem mem_bareEntries :
    (c, v) ∈ bareEntries left right ↔ ∃ R, (left.scope.union right.scope).occurrences c = [R] ∧
      (qualifiedEntries left right).get? (.qualified R c) = some v := by
  simp only [bareEntries, List.mem_filterMap, Option.bind_eq_bind, Option.bind_eq_some_iff,
    Option.pure_def, Option.some.injEq, Prod.mk.injEq, Scope.unique?_eq_some]
  constructor
  · rintro ⟨c, -, R, hR, v, hv, rfl, rfl⟩
    exact ⟨R, hR, hv⟩
  · rintro ⟨R, hR, hv⟩
    refine ⟨c, Scope.mem_names.2 ?_, R, hR, v, hv, rfl, rfl⟩
    exact Scope.contains_of_mem_occurrences (hR ▸ List.mem_singleton_self R)

/-- **The product keeps the qualified references of both sides.** -/
theorem get?_qualified_product :
    (product left right).dictionary.get? (.qualified R c) =
      (right.dictionary.get? (.qualified R c)).or (left.dictionary.get? (.qualified R c)) := by
  rw [product_dictionary, Dictionary.get?_qualified_rebind, get?_qualifiedEntries]
  rfl

/-- **A bare name of the product** denotes the column of the only relation that exposes it. -/
theorem bare?_product :
    (product left right).dictionary.bare? c = some v ↔
      ∃ R, (product left right).scope.occurrences c = [R] ∧
        (product left right).dictionary.get? (.qualified R c) = some v := by
  have single : ∀ c v w, (c, v) ∈ bareEntries left right → (c, w) ∈ bareEntries left right →
      v = w := by
    intro c v w hv hw
    obtain ⟨R, hR, hv⟩ := mem_bareEntries.1 hv
    obtain ⟨S, hS, hw⟩ := mem_bareEntries.1 hw
    obtain rfl : R = S := by simpa [hR] using hS
    exact Option.some_inj.1 (hv.symm.trans hw)
  rw [product_dictionary, Dictionary.bare?_rebind single]
  simp only [Dictionary.get?_qualified_rebind, mem_bareEntries, product_scope]
  refine or_iff_left fun h => ?_
  rw [Dictionary.bare?, get?_qualifiedEntries] at h
  simp at h

/-! ## What a join adds to the product -/

/-- A source with more conjuncts and with bare names bound anew. -/
def extend (e : Expression) (atoms : List Atom) (bound : List (Identifier × Variable)) : Expression where
  atoms := e.atoms ++ atoms
  dictionary := e.dictionary.rebind bound
  scope := e.scope

@[simp] theorem extend_scope (e : Expression) (atoms : List Atom) (bound : List (Identifier × Variable)) :
    (e.extend atoms bound).scope = e.scope := rfl

@[simp] theorem extend_dictionary (e : Expression) (atoms : List Atom)
    (bound : List (Identifier × Variable)) :
    (e.extend atoms bound).dictionary = e.dictionary.rebind bound := rfl

/-- Nothing added leaves the source as it is. -/
@[simp] theorem extend_nil (e : Expression) : e.extend [] [] = e := by
  simp [extend, Dictionary.rebind]

theorem mem_firsts {columns : List Identifier} : c ∈ firsts columns ↔ c ∈ columns := by
  induction columns with
  | nil => rfl
  | cons d rest ih =>
    simp only [firsts, List.mem_cons, List.mem_filter, ih, decide_eq_true_iff]
    tauto

/-- What USING asks of a column: it is unambiguous on both sides and present on both, and its bare name is
found on both. The last part follows from the others for every source that is built from leaves. -/
structure Joinable (left right : Expression) (c : Identifier) : Prop where
  /-- At most one relation of the left side exposes it. -/
  left_unambiguous : (left.scope.occurrences c).length ≤ 1
  /-- At most one relation of the right side exposes it. -/
  right_unambiguous : (right.scope.occurrences c).length ≤ 1
  /-- The left side has it. -/
  left_contains : left.scope.contains c = true
  /-- The right side has it. -/
  right_contains : right.scope.contains c = true
  /-- Its bare name is found on both sides. -/
  bound : ∃ x y, left.dictionary.bare? c = some x ∧ right.dictionary.bare? c = some y

theorem bareVariables?_eq_ok {p : Identifier × Variable × Variable} :
    bareVariables? left right c = .ok p ↔
      p.1 = c ∧ left.dictionary.bare? c = some p.2.1 ∧ right.dictionary.bare? c = some p.2.2 := by
  obtain ⟨d, x, y⟩ := p
  rw [bareVariables?]
  cases left.dictionary.bare? c <;> cases right.dictionary.bare? c <;> simp [eq_comm]

/-- The equalities that USING adds. -/
def equalities (pairs : List (Identifier × Variable × Variable)) : List Atom :=
  pairs.map fun p => .equality (.var p.2.1) (.var p.2.2)

/-- The bare names that USING binds, each to its left column. -/
def leftColumns (pairs : List (Identifier × Variable × Variable)) : List (Identifier × Variable) :=
  pairs.map fun p => (p.1, p.2.1)

/-- What USING makes of a source is the source extended by both. -/
theorem extend_equalities (pairs : List (Identifier × Variable × Variable)) :
    e.extend (equalities pairs) (leftColumns pairs) =
      { atoms := e.atoms ++ pairs.map fun p => .equality (.var p.2.1) (.var p.2.2)
        dictionary := pairs.foldl (fun d p => d.insert (.bare p.1) p.2.1) e.dictionary
        scope := e.scope } := by
  rw [extend, Dictionary.rebind, leftColumns, List.foldl_map]
  rfl

/-- The pairs of variables that USING equates, one for each column at its first place. -/
def Pairs (left right : Expression) (columns : List Identifier)
    (pairs : List (Identifier × Variable × Variable)) : Prop :=
  List.Forall₂ (fun c p => bareVariables? left right c = .ok p) (firsts columns) pairs

namespace Pairs

variable {columns : List Identifier} {pairs : List (Identifier × Variable × Variable)}

theorem bound (h : Pairs left right columns pairs) (hc : c ∈ columns) :
    ∃ x y, left.dictionary.bare? c = some x ∧ right.dictionary.bare? c = some y := by
  obtain ⟨p, hp⟩ := exists_mapM_eq_ok.1 ⟨pairs, mapM_eq_ok.2 h⟩ c (mem_firsts.2 hc)
  obtain ⟨-, hx, hy⟩ := bareVariables?_eq_ok.1 hp
  exact ⟨_, _, hx, hy⟩

/-- A pair is there for each column, with the variables of its bare name. -/
theorem mem_iff (h : Pairs left right columns pairs) {x y : Variable} :
    (c, x, y) ∈ pairs ↔ c ∈ columns ∧ left.dictionary.bare? c = some x ∧
      right.dictionary.bare? c = some y := by
  rw [← mem_firsts]
  unfold Pairs at h
  generalize firsts columns = cs at h
  induction h with
  | nil => simp
  | @cons d p ds ps hp _ ih =>
    obtain ⟨rfl, hx, hy⟩ := bareVariables?_eq_ok.1 hp
    simp only [List.mem_cons, ih, Prod.ext_iff]
    grind

theorem mem_leftColumns (h : Pairs left right columns pairs) :
    (c, v) ∈ leftColumns pairs ↔ c ∈ columns ∧ left.dictionary.bare? c = some v := by
  constructor
  · intro hv
    obtain ⟨⟨d, x, y⟩, hp, heq⟩ := List.mem_map.1 hv
    obtain ⟨rfl, rfl⟩ := Prod.mk.inj heq
    obtain ⟨hc, hx, -⟩ := h.mem_iff.1 hp
    exact ⟨hc, hx⟩
  · rintro ⟨hc, hv⟩
    obtain ⟨x, y, hx, hy⟩ := h.bound hc
    obtain rfl : x = v := Option.some_inj.1 (hx.symm.trans hv)
    exact List.mem_map.2 ⟨(c, x, y), h.mem_iff.2 ⟨hc, hx, hy⟩, rfl⟩

end Pairs

/-! ## The joins taken apart -/

theorem crossJoin_eq_ok :
    crossJoin left right = .ok e ↔ shared? left right = none ∧ e = product left right := by
  rw [crossJoin]
  cases shared? left right <;> simp [eq_comm]

theorem joinOn_eq_ok {κ : Type} [JoinCondition κ] {condition : κ} :
    joinOn left right condition = .ok e ↔ shared? left right = none ∧
      ∃ atoms, JoinCondition.atoms condition (product left right) = .ok atoms ∧
        e = (product left right).extend atoms [] := by
  rw [joinOn, bind_eq_ok]
  simp only [crossJoin_eq_ok, bind_eq_ok]
  constructor
  · rintro ⟨_, ⟨hs, rfl⟩, atoms, ha, he⟩
    cases he
    exact ⟨hs, atoms, ha, rfl⟩
  · rintro ⟨hs, atoms, ha, rfl⟩
    exact ⟨_, ⟨hs, rfl⟩, atoms, ha, rfl⟩

/-- USING finds no ambiguous column. -/
theorem ambiguousColumn?_eq_none {columns : List Identifier} :
    ((firsts columns).find? fun c => left.scope.isAmbiguous c || right.scope.isAmbiguous c) = none ↔
      ∀ c ∈ columns, (left.scope.occurrences c).length ≤ 1 ∧ (right.scope.occurrences c).length ≤ 1 := by
  simp only [List.find?_eq_none, Bool.or_eq_true, Scope.isAmbiguous_iff, mem_firsts, not_or, Nat.not_lt]

/-- USING finds no missing column. -/
theorem unknownColumn?_eq_none {columns : List Identifier} :
    ((firsts columns).find? fun c => !left.scope.contains c || !right.scope.contains c) = none ↔
      ∀ c ∈ columns, left.scope.contains c = true ∧ right.scope.contains c = true := by
  simp only [List.find?_eq_none, Bool.or_eq_true, mem_firsts, not_or, Bool.not_eq_true', Bool.not_eq_false]

/-- **USING succeeds** on sources without a common relation for which every column is joinable, and adds to
their product one equality for each column and its bare name. -/
theorem joinUsing_eq_ok {columns : List Identifier} :
    joinUsing left right columns = .ok e ↔ shared? left right = none ∧
      (∀ c ∈ columns, Joinable left right c) ∧
      ∃ pairs, Pairs left right columns pairs ∧
        e = (product left right).extend (equalities pairs) (leftColumns pairs) := by
  rw [joinUsing]
  cases hs : shared? left right with
  | some R => simp
  | none =>
    simp only [true_and]
    cases ha : (firsts columns).find? fun c =>
        left.scope.isAmbiguous c || right.scope.isAmbiguous c with
    | some c =>
      simp only [reduceCtorEq, false_iff]
      rintro ⟨h, -⟩
      have hnone := ambiguousColumn?_eq_none.2 fun c hc =>
        ⟨(h c hc).left_unambiguous, (h c hc).right_unambiguous⟩
      rw [hnone] at ha
      cases ha
    | none =>
      dsimp only
      rw [ambiguousColumn?_eq_none] at ha
      cases hu : (firsts columns).find? fun c => !left.scope.contains c || !right.scope.contains c with
      | some c =>
        simp only [reduceCtorEq, false_iff]
        rintro ⟨h, -⟩
        have hnone := unknownColumn?_eq_none.2 fun c hc => ⟨(h c hc).left_contains, (h c hc).right_contains⟩
        rw [hnone] at hu
        cases hu
      | none =>
        rw [unknownColumn?_eq_none] at hu
        simp only [bind_eq_ok, mapM_eq_ok, pure, Except.pure, ← extend_equalities, Except.ok.injEq]
        constructor
        · rintro ⟨pairs, hp, rfl⟩
          have hp : Pairs left right columns pairs := hp
          refine ⟨fun c hc => ?_, pairs, hp, rfl⟩
          exact ⟨(ha c hc).1, (ha c hc).2, (hu c hc).1, (hu c hc).2, hp.bound hc⟩
        · rintro ⟨-, pairs, hp, rfl⟩
          exact ⟨pairs, hp, rfl⟩

theorem exists_joinUsing_eq_ok {columns : List Identifier} :
    (∃ e, joinUsing left right columns = .ok e) ↔ shared? left right = none ∧
      ∀ c ∈ columns, Joinable left right c := by
  simp only [joinUsing_eq_ok]
  constructor
  · rintro ⟨e, hs, hj, -⟩
    exact ⟨hs, hj⟩
  · rintro ⟨hs, hj⟩
    have : ∀ c ∈ firsts columns, ∃ p, bareVariables? left right c = .ok p := by
      intro c hc
      obtain ⟨x, y, hx, hy⟩ := (hj c (mem_firsts.1 hc)).bound
      exact ⟨(c, x, y), bareVariables?_eq_ok.2 ⟨rfl, hx, hy⟩⟩
    obtain ⟨pairs, hp⟩ := exists_mapM_eq_ok.2 this
    exact ⟨_, hs, hj, pairs, mapM_eq_ok.1 hp, rfl⟩

end Expression

/-! ## All kinds of join at once -/

section Kinds

variable {κ : Type} {kind : JoinKind κ} {left right e : Expression}

/-- The columns whose bare names a join merges. -/
def JoinKind.merged (kind : JoinKind κ) (left right : Expression) : List Identifier :=
  match kind with
  | .using columns => columns
  | .natural => left.commonColumns right
  | .cross | .on _ => []

variable [JoinCondition κ]

/-- The condition of a join, if it has one, can be read over a source. -/
def JoinKind.Reads (kind : JoinKind κ) (source : Expression) : Prop :=
  match kind with
  | .on condition => ∃ atoms, JoinCondition.atoms condition source = .ok atoms
  | .cross | .using _ | .natural => True

namespace Expression

/-- **What every join does**: it extends the product of its operands, and the bare names that it binds are
those of the merged columns, each with its left variable. -/
theorem join_ok (h : left.join right kind = .ok e) :
    shared? left right = none ∧ (∀ c ∈ kind.merged left right, Joinable left right c) ∧
      ∃ atoms bound, e = (product left right).extend atoms bound ∧
        ∀ c v, (c, v) ∈ bound ↔
          c ∈ kind.merged left right ∧ left.dictionary.bare? c = some v := by
  have none_merged : ∀ c v, (c, v) ∈ ([] : List (Identifier × Variable)) ↔
      c ∈ ([] : List Identifier) ∧ left.dictionary.bare? c = some v := by simp
  cases kind with
  | cross =>
    obtain ⟨hs, rfl⟩ := crossJoin_eq_ok.1 h
    exact ⟨hs, by simp [JoinKind.merged], [], [], (extend_nil _).symm, none_merged⟩
  | on condition =>
    obtain ⟨hs, atoms, -, rfl⟩ := joinOn_eq_ok.1 h
    exact ⟨hs, by simp [JoinKind.merged], atoms, [], rfl, none_merged⟩
  | natural =>
    obtain ⟨hs, hj, pairs, hp, rfl⟩ := joinUsing_eq_ok.1 h
    exact ⟨hs, hj, _, _, rfl, fun c v => hp.mem_leftColumns⟩
  | «using» columns =>
    obtain ⟨hs, hj, pairs, hp, rfl⟩ := joinUsing_eq_ok.1 h
    exact ⟨hs, hj, _, _, rfl, fun c v => hp.mem_leftColumns⟩

/-- **When a join succeeds**: no relation is shared, the merged columns are joinable, and the condition can
be read over the product. -/
theorem exists_join_eq_ok :
    (∃ e, left.join right kind = .ok e) ↔ shared? left right = none ∧
      (∀ c ∈ kind.merged left right, Joinable left right c) ∧ kind.Reads (product left right) := by
  cases kind with
  | cross => simp [join, crossJoin_eq_ok, JoinKind.merged, JoinKind.Reads]
  | on condition =>
    simp only [join, joinOn_eq_ok, JoinKind.merged, JoinKind.Reads, List.not_mem_nil, false_imp_iff,
      implies_true, true_and]
    exact ⟨fun ⟨_, hs, atoms, ha, _⟩ => ⟨hs, atoms, ha⟩, fun ⟨hs, atoms, ha⟩ => ⟨_, hs, atoms, ha, rfl⟩⟩
  | natural =>
    simp only [JoinKind.Reads, and_true]
    exact exists_joinUsing_eq_ok
  | «using» columns =>
    simp only [JoinKind.Reads, and_true]
    exact exists_joinUsing_eq_ok

end Expression

end Kinds

end FromClause
