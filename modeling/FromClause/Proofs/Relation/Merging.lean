import FromClause.Proofs.Relation.Resolution
import FromClause.Proofs.Relation.Traversal
/-!
# Joins on equal columns, specified

What USING and a natural join come to, told without their checks and without the way they go through the list of
columns. There are four outcomes (`MergeOutcome`): a relation is shared, a column is ambiguous, a column is missing,
or the cross join with the columns equated. The list may name a column several times and in any order; an error
names the first column in the list that it is true of, and the equalities stand in the order of first occurrence.

The errors come in a fixed order, whatever the order of the list: any ambiguous column counts before any missing
one. Over well formed sources there is no further way to fail (`merging_joins_eq_iff`): a column that one relation
exposes has its bare name bound, so the variables that are to be equated are always found.
-/

namespace FromClause

open Std

/-! ## First places in a list -/

/-- The first column in a list that has a property. -/
def FirstWith (P : Identifier → Prop) (columns : List Identifier) (c : Identifier) : Prop :=
  ∃ before after, columns = before ++ c :: after ∧ P c ∧ ∀ d ∈ before, ¬P d

theorem FirstWith.mem {P : Identifier → Prop} {columns : List Identifier} {c : Identifier}
    (h : FirstWith P columns c) : c ∈ columns ∧ P c := by
  obtain ⟨before, after, rfl, hc, -⟩ := h
  exact ⟨List.mem_append_right _ List.mem_cons_self, hc⟩

/-- The columns of a list, each once and in the order in which they occur first. -/
structure FirstOccurrences (columns distinct : List Identifier) : Prop where
  /-- They are the columns of the list. -/
  mem_iff {c : Identifier} : c ∈ distinct ↔ c ∈ columns
  /-- Each occurs before those behind it do. -/
  ordered : distinct.Pairwise fun c d => columns.idxOf c < columns.idxOf d

namespace FirstOccurrences

variable {columns distinct distinct' : List Identifier}

/-- There is one such list. -/
theorem unique (h : FirstOccurrences columns distinct) (h' : FirstOccurrences columns distinct') :
    distinct = distinct' :=
  eq_of_pairwise_asymm (fun _ _ hlt hgt => Nat.lt_asymm hlt hgt) h.ordered h'.ordered
    fun _ => h.mem_iff.trans h'.mem_iff.symm

end FirstOccurrences

/-! ## The least relation of two sources -/

namespace Expression

variable {left right e e' base : Expression} {R : RelationId} {c : Identifier} {columns : List Identifier}

/-- The least of the relations that qualify columns of both sources. -/
def LeastShared (left right : Expression) (R : RelationId) : Prop :=
  (R ∈ left.relations.toList ∧ R ∈ right.relations.toList) ∧
    ∀ S ∈ left.relations.toList, S ∈ right.relations.toList → S = R ∨ compare R S = .lt

theorem LeastShared.unique {S : RelationId} (hR : LeastShared left right R) (hS : LeastShared left right S) :
    R = S := by
  rcases hR.2 S hS.1.1 hS.1.2 with heq | hlt
  · exact heq.symm
  · rcases hS.2 R hR.1.1 hR.1.2 with heq | hgt
    · exact heq
    · exact absurd hgt (OrientedCmp.not_lt_of_lt hlt)

theorem leastShared_of_shared? (h : shared? left right = some R) : LeastShared left right R := by
  obtain ⟨hR, before, after, hlist, hbefore⟩ := List.find?_eq_some_iff_append.1 h
  have hsorted : (before ++ R :: after).Pairwise fun a b => compare a b = .lt :=
    hlist ▸ left.relations.pairwise_keys
  have hmem : R ∈ left.relations.toList := by
    rw [hlist]
    exact List.mem_append_right _ List.mem_cons_self
  refine ⟨⟨hmem, SortedSet.contains_iff_mem.1 hR⟩, fun S hS hS' => ?_⟩
  -- the search has passed over the relations before it, and those behind it are greater
  rw [hlist, List.mem_append, List.mem_cons] at hS
  rcases hS with hS | rfl | hS
  · have hnot := hbefore S hS
    rw [SortedSet.contains_iff_mem.2 hS'] at hnot
    cases hnot
  · exact .inl rfl
  · exact .inr ((List.pairwise_cons.1 (List.pairwise_append.1 hsorted).2.1).1 S hS)

/-- **The shared relation that a join reports is the least one.** -/
theorem shared?_eq_some : shared? left right = some R ↔ LeastShared left right R := by
  refine ⟨leastShared_of_shared?, fun h => ?_⟩
  cases hs : shared? left right with
  | none => exact absurd h.1.2 (shared?_eq_none.1 hs R h.1.1)
  | some S => rw [(leastShared_of_shared? hs).unique h]

/-! ## The checks on columns -/

/-- More than one relation exposes the column on one of the sides. -/
def AmbiguousIn (left right : Expression) (c : Identifier) : Prop :=
  1 < (left.scope.occurrences c).length ∨ 1 < (right.scope.occurrences c).length

/-- The column is missing from the scope of one of the sides. -/
def MissingIn (left right : Expression) (c : Identifier) : Prop :=
  left.scope.contains c = false ∨ right.scope.contains c = false

/-- Repeated columns are never the first that a search finds. -/
theorem find?_firsts (p : Identifier → Bool) : (firsts columns).find? p = columns.find? p := by
  induction columns with
  | nil => rfl
  | cons c rest ih =>
    rw [firsts, List.find?_cons, List.find?_cons]
    cases hp : p c with
    | true => rfl
    | false =>
      dsimp only
      rw [List.find?_filter, ← ih]
      congr 1
      funext d
      by_cases hd : d = c
      · simp [hd, hp]
      · simp [hd]

/-- The columns that USING goes through stand in the order of first occurrence. -/
theorem firstOccurrences_firsts : FirstOccurrences columns (firsts columns) := by
  refine ⟨mem_firsts, ?_⟩
  induction columns with
  | nil => exact .nil
  | cons c rest ih =>
    have hshift : ∀ {d}, d ∈ (firsts rest).filter (· ≠ c) → (c :: rest).idxOf d = rest.idxOf d + 1 := by
      intro d hd
      have hne : d ≠ c := of_decide_eq_true (List.mem_filter.1 hd).2
      exact List.idxOf_cons_ne rest hne.symm
    rw [firsts, List.pairwise_cons]
    refine ⟨fun d hd => ?_, ?_⟩
    · rw [List.idxOf_cons_self, hshift hd]
      omega
    · refine (ih.filter _).imp_of_mem fun {a b} ha hb hlt => ?_
      rw [hshift ha, hshift hb]
      omega

/-- A search finds the first column that passes its test. -/
theorem find?_eq_some_iff_firstWith {P : Identifier → Prop} {p : Identifier → Bool} (hp : ∀ c, p c = true ↔ P c) :
    columns.find? p = some c ↔ FirstWith P columns c := by
  rw [List.find?_eq_some_iff_append]
  simp only [FirstWith, hp, Bool.not_eq_true', ← Bool.not_eq_true]
  constructor
  · rintro ⟨hc, before, after, hlist, hbefore⟩
    exact ⟨before, after, hlist, hc, hbefore⟩
  · rintro ⟨before, after, hlist, hc, hbefore⟩
    exact ⟨hc, before, after, hlist, hbefore⟩

theorem ambiguousIn_iff :
    (left.scope.isAmbiguous c || right.scope.isAmbiguous c) = true ↔ AmbiguousIn left right c := by
  rw [Bool.or_eq_true, Scope.isAmbiguous_iff, Scope.isAmbiguous_iff, AmbiguousIn]

theorem missingIn_iff :
    (!left.scope.contains c || !right.scope.contains c) = true ↔ MissingIn left right c := by
  rw [Bool.or_eq_true, Bool.not_eq_true', Bool.not_eq_true', MissingIn]

/-! ## The outcomes -/

/-- The atom that equates a column of two sources, between the variables of its bare name. -/
def Equation (left right : Expression) (c : Identifier) (a : Atom) : Prop :=
  ∃ x y, left.dictionary.bare? c = some x ∧ right.dictionary.bare? c = some y ∧ a = .equality (.var x) (.var y)

theorem rightUnique_equation : Relator.RightUnique (Equation left right) := by
  rintro c a a' ⟨x, y, hx, hy, rfl⟩ ⟨x', y', hx', hy', rfl⟩
  obtain rfl := Option.some_inj.1 (hx.symm.trans hx')
  obtain rfl := Option.some_inj.1 (hy.symm.trans hy')
  rfl

/-- **The join on equal columns**, seen from the cross join: the same scope and the same qualified entries; behind
the atoms one equality for each column, the left variable of its bare name first; the bare names of the columns
denote the left variables, and all others denote what they do in the cross join. -/
structure Merge (left right base : Expression) (columns : List Identifier) (e : Expression) : Prop where
  /-- The scope is that of the cross join. -/
  scope : e.scope = base.scope
  /-- So are the qualified entries. -/
  qualified : e.dictionary.qualified = base.dictionary.qualified
  /-- A listed name denotes its left variable. -/
  bare_listed : ∀ c ∈ columns, e.dictionary.bare? c = left.dictionary.bare? c
  /-- Any other name denotes what it does in the cross join. -/
  bare_other : ∀ c ∉ columns, e.dictionary.bare? c = base.dictionary.bare? c
  /-- One equality is added for each column, in the order of first occurrence. -/
  atoms : ∃ distinct added, FirstOccurrences columns distinct ∧ e.atoms = base.atoms ++ added ∧
    List.Forall₂ (Equation left right) distinct added

/-- **What a join on equal columns comes to**: an error of one of three kinds, the first that there is reason for,
or the join. -/
inductive MergeOutcome (left right : Expression) (columns : List Identifier) : Except JoinError Expression → Prop
  /-- A relation is shared; the least one is named. -/
  | shared {R : RelationId} : LeastShared left right R → MergeOutcome left right columns (.error (.sharedRelation R))
  /-- No relation is shared, and a column is ambiguous; the first one is named. -/
  | ambiguous {c : Identifier} :
    (∀ R ∈ left.relations.toList, R ∉ right.relations.toList) →
      FirstWith (AmbiguousIn left right) columns c →
      MergeOutcome left right columns (.error (.ambiguousColumn c))
  /-- No relation is shared, no column is ambiguous, and one is missing; the first one is named. -/
  | unknown {c : Identifier} :
    (∀ R ∈ left.relations.toList, R ∉ right.relations.toList) →
      (∀ d ∈ columns, ¬AmbiguousIn left right d) → FirstWith (MissingIn left right) columns c →
      MergeOutcome left right columns (.error (.unknownColumn c))
  /-- There is nothing against the join. -/
  | merged {base e : Expression} :
    (∀ d ∈ columns, ¬AmbiguousIn left right d) → (∀ d ∈ columns, ¬MissingIn left right d) →
      left.crossJoin right = .ok base → Merge left right base columns e →
      MergeOutcome left right columns (.ok e)

/-- **The description is complete**: there is one source that it fits. -/
theorem Merge.unique (h : Merge left right base columns e) (h' : Merge left right base columns e') : e = e' := by
  have hbare : ∀ c, e.dictionary.bare? c = e'.dictionary.bare? c := by
    intro c
    by_cases hc : c ∈ columns
    · rw [h.bare_listed c hc, h'.bare_listed c hc]
    · rw [h.bare_other c hc, h'.bare_other c hc]
  have hdictionary : e.dictionary = e'.dictionary :=
    Dictionary.ext_qualified_bare (h.qualified.trans h'.qualified.symm) hbare
  have hatoms : e.atoms = e'.atoms := by
    obtain ⟨distinct, added, hd, he, hadded⟩ := h.atoms
    obtain ⟨distinct', added', hd', he', hadded'⟩ := h'.atoms
    obtain rfl := hd.unique hd'
    rw [he, he', List.right_unique_forall₂' rightUnique_equation hadded hadded']
  have hscope : e.scope = e'.scope := h.scope.trans h'.scope.symm
  cases e
  cases e'
  cases hatoms
  cases hdictionary
  cases hscope
  rfl

/-! ## Each outcome is reached -/

theorem joinUsing_of_leastShared (h : LeastShared left right R) :
    left.joinUsing right columns = .error (.sharedRelation R) := by
  rw [joinUsing, shared?_eq_some.2 h]

theorem joinUsing_of_ambiguous (hs : shared? left right = none) (h : FirstWith (AmbiguousIn left right) columns c) :
    left.joinUsing right columns = .error (.ambiguousColumn c) := by
  have hfind := (find?_eq_some_iff_firstWith fun d => ambiguousIn_iff).2 h
  rw [← find?_firsts] at hfind
  simp only [joinUsing, hs, hfind]

theorem joinUsing_of_missing (hs : shared? left right = none) (ha : ∀ d ∈ columns, ¬AmbiguousIn left right d)
    (h : FirstWith (MissingIn left right) columns c) :
    left.joinUsing right columns = .error (.unknownColumn c) := by
  have hnone : ((firsts columns).find? fun d => left.scope.isAmbiguous d || right.scope.isAmbiguous d) = none := by
    rw [find?_firsts, List.find?_eq_none]
    exact fun d hd hp => ha d hd (ambiguousIn_iff.1 hp)
  have hfind := (find?_eq_some_iff_firstWith fun d => missingIn_iff).2 h
  rw [← find?_firsts] at hfind
  simp only [joinUsing, hs, hnone, hfind]

/-- Columns that are neither ambiguous nor missing can be joined, since well formed sources bind their bare names. -/
theorem WellFormed.joinable_of_not (hl : WellFormed left) (hr : WellFormed right) (ha : ¬AmbiguousIn left right c)
    (hm : ¬MissingIn left right c) : Joinable left right c := by
  rw [AmbiguousIn, not_or] at ha
  rw [MissingIn, not_or, Bool.not_eq_false, Bool.not_eq_false] at hm
  have hpl := List.length_pos_iff.2 (hl.occurrences_ne_nil hm.1)
  have hpr := List.length_pos_iff.2 (hr.occurrences_ne_nil hm.2)
  exact (hl.joinable_iff hr).2 ⟨by omega, by omega⟩

/-- What USING makes of two sources is their join on equal columns. -/
theorem merge_of_joinUsing (h : left.joinUsing right columns = .ok e) :
    ∃ base, left.crossJoin right = .ok base ∧ Merge left right base columns e := by
  have hjoin : left.join right (.using columns : JoinKind Translation) = .ok e := h
  have hbare : ∀ c v, e.dictionary.bare? c = some v ↔ c ∈ columns ∧ left.dictionary.bare? c = some v ∨
      (∀ w, ¬(c ∈ columns ∧ left.dictionary.bare? c = some w)) ∧
        (product left right).dictionary.bare? c = some v := fun c v => bare?_join_iff hjoin
  obtain ⟨hs, -, pairs, hp, rfl⟩ := joinUsing_eq_ok.1 h
  refine ⟨_, crossJoin_eq_ok.2 ⟨hs, rfl⟩, rfl, Dictionary.qualified_rebind _, ?_, ?_, ?_⟩
  · intro c hc
    obtain ⟨v, -, hv, -⟩ := hp.bound hc
    rw [hv]
    exact (hbare c v).2 (.inl ⟨hc, hv⟩)
  · intro c hc
    refine Option.ext fun v => (hbare c v).trans ?_
    simp only [hc, false_and, false_or, not_false_eq_true, implies_true, true_and]
  · exact ⟨firsts columns, equalities pairs, firstOccurrences_firsts, rfl, hp.forall₂_equalities⟩

/-- **USING over well formed sources** comes to one of the outcomes. -/
theorem WellFormed.joinUsing_outcome (hl : WellFormed left) (hr : WellFormed right) (columns : List Identifier) :
    MergeOutcome left right columns (left.joinUsing right columns) := by
  cases hs : shared? left right with
  | some R =>
    have hR := shared?_eq_some.1 hs
    rw [joinUsing_of_leastShared hR]
    exact .shared hR
  | none =>
    have hapart := shared?_eq_none.1 hs
    cases hambiguous : columns.find? fun d => left.scope.isAmbiguous d || right.scope.isAmbiguous d with
    | some c =>
      have hc := (find?_eq_some_iff_firstWith fun d => ambiguousIn_iff).1 hambiguous
      rw [joinUsing_of_ambiguous hs hc]
      exact .ambiguous hapart hc
    | none =>
      have ha : ∀ d ∈ columns, ¬AmbiguousIn left right d := fun d hd h =>
        List.find?_eq_none.1 hambiguous d hd (ambiguousIn_iff.2 h)
      cases hmissing : columns.find? fun d => !left.scope.contains d || !right.scope.contains d with
      | some c =>
        have hc := (find?_eq_some_iff_firstWith fun d => missingIn_iff).1 hmissing
        rw [joinUsing_of_missing hs ha hc]
        exact .unknown hapart ha hc
      | none =>
        have hm : ∀ d ∈ columns, ¬MissingIn left right d := fun d hd h =>
          List.find?_eq_none.1 hmissing d hd (missingIn_iff.2 h)
        obtain ⟨e, he⟩ := exists_joinUsing_eq_ok.2 ⟨hs, fun d hd => hl.joinable_of_not hr (ha d hd) (hm d hd)⟩
        obtain ⟨base, hbase, hmerge⟩ := merge_of_joinUsing he
        rw [he]
        exact .merged ha hm hbase hmerge

/-- **And it comes to no other.** -/
theorem WellFormed.joinUsing_eq_iff (hl : WellFormed left) (hr : WellFormed right) {columns : List Identifier}
    {result : Except JoinError Expression} :
    left.joinUsing right columns = result ↔ MergeOutcome left right columns result := by
  constructor
  · rintro rfl
    exact hl.joinUsing_outcome hr columns
  · intro h
    cases h with
    | shared hR => exact joinUsing_of_leastShared hR
    | ambiguous hapart hc => exact joinUsing_of_ambiguous (shared?_eq_none.2 hapart) hc
    | unknown hapart ha hc => exact joinUsing_of_missing (shared?_eq_none.2 hapart) ha hc
    | merged ha hm hbase hmerge =>
      obtain ⟨hs, -⟩ := crossJoin_eq_ok.1 hbase
      obtain ⟨e, he⟩ := exists_joinUsing_eq_ok.2 ⟨hs, fun d hd => hl.joinable_of_not hr (ha d hd) (hm d hd)⟩
      obtain ⟨base', hbase', hmerge'⟩ := merge_of_joinUsing he
      obtain rfl := Except.ok.inj (hbase.symm.trans hbase')
      rw [he, hmerge.unique hmerge']

/-- The common columns stand in the order of their names. -/
theorem pairwise_commonColumns : (commonColumns left right).Pairwise fun c d => compare c d = .lt :=
  left.scope.pairwise_keys.filter _

/-- **The joins on equal columns.** Over well formed sources USING comes to the outcome for its list of columns, for
whatever list, and to that alone. The natural join comes to the outcome for the names that both scopes have, in the
order of names, and it misses no column. -/
theorem merging_joins_eq_iff (hl : WellFormed left) (hr : WellFormed right) :
    (∀ columns result, left.joinUsing right columns = result ↔ MergeOutcome left right columns result) ∧
    ∃ common : List Identifier, common.Pairwise (fun c d => compare c d = .lt) ∧
      (∀ c, c ∈ common ↔ left.scope.contains c = true ∧ right.scope.contains c = true) ∧
      (∀ result, left.naturalJoin right = result ↔ MergeOutcome left right common result) ∧
      ∀ c, left.naturalJoin right ≠ .error (.unknownColumn c) := by
  refine ⟨fun columns result => hl.joinUsing_eq_iff hr, commonColumns left right, pairwise_commonColumns,
    fun c => Scope.mem_common, fun result => hl.joinUsing_eq_iff hr, fun c h => ?_⟩
  have houtcome : MergeOutcome left right (commonColumns left right) (.error (.unknownColumn c)) :=
    (hl.joinUsing_eq_iff hr).1 h
  cases houtcome with
  | unknown _ _ hfirst =>
    obtain ⟨hmem, hmissing⟩ := hfirst.mem
    obtain ⟨hcl, hcr⟩ := Scope.mem_common.1 hmem
    simp [MissingIn, hcl, hcr] at hmissing

end Expression

namespace Sample

open Expression

/-- Salaries and staff are joined on the one name that both have, listed twice or not at all. A missing column is
refused, for its first place in the list and behind columns that are there. A relation with a schema shares two names
with itself, of which the one without the schema is the least. -/
theorem merging_joins_staff :
    (∃ base e, salary.expression.crossJoin staff.expression = .ok base ∧
      salary.expression.joinUsing staff.expression [id, id] = .ok e ∧
      Merge salary.expression staff.expression base [id, id] e) ∧
    (∃ base common e, salary.expression.crossJoin staff.expression = .ok base ∧ id ∈ common ∧
      salary.expression.naturalJoin staff.expression = .ok e ∧
      Merge salary.expression staff.expression base common e) ∧
    salary.expression.joinUsing staff.expression [id, name, amount, name] = .error (.unknownColumn name) ∧
    salary.expression.joinUsing salary.expression [id] = .error (.sharedRelation (.bare salary.exposed.table)) := by
  have hsalary : WellFormed salary.expression := .ofLeaf (by decide)
  have hstaff : WellFormed staff.expression := .ofLeaf (by decide)
  obtain ⟨husing, common, -, hcommon, hnatural, -⟩ := merging_joins_eq_iff hsalary hstaff
  refine ⟨?_, ?_, ?_, ?_⟩
  · obtain ⟨e, he⟩ := isOk_iff.1
      (by decide : (salary.expression.joinUsing staff.expression [id, id]).isOk = true)
    cases (husing _ _).1 he with
    | merged _ _ hbase hmerge => exact ⟨_, e, hbase, he, hmerge⟩
  · obtain ⟨e, he⟩ := isOk_iff.1 (by decide : (salary.expression.naturalJoin staff.expression).isOk = true)
    have hid : id ∈ common := (hcommon id).2 (by decide)
    cases (hnatural _).1 he with
    | merged _ _ hbase hmerge => exact ⟨_, common, e, hbase, hid, he, hmerge⟩
  · refine (husing _ _).2 (.unknown (by decide) ?_ ⟨[id], [amount, name], rfl, ?_, ?_⟩)
    · unfold AmbiguousIn
      decide
    · unfold MissingIn
      decide
    · unfold MissingIn
      decide
  · refine ((merging_joins_eq_iff hsalary hsalary).1 _ _).2 (.shared ?_)
    unfold LeastShared
    decide

end Sample

end FromClause
