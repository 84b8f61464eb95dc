import FromClause.Proofs.Relation.Merging
import FromClause.Relation.Operand
/-!
# USING as a condition

A join on equal columns can be written as a join on a condition: the condition that equates each column of the one
relation on the left that has it with the column of the one relation on the right. The two ways look in different
places. USING takes the variables of the bare names in its operands, the condition those of the qualified references
in the cross join. Over well formed sources they find the same ones (`joinOn_of_joinUsing`), and the results differ
in the joined names alone, which the condition leaves ambiguous.
-/

namespace FromClause

section Conditions

variable {κ : Type} [JoinCondition κ]

/-- A condition that looks up pairs of references, one pair after the other, and equates what they denote. -/
def EquatesReferences (condition : κ) (pairs : List (Reference × Reference)) : Prop :=
  ∀ source, JoinCondition.atoms condition source = pairs.mapM fun p => do
    return .equality (.var (← source.resolve p.1)) (.var (← source.resolve p.2))

/-- The equalities of pairs of references, as formulas. -/
def equalitiesOf (pairs : List (Reference × Reference)) : List (Formula Operand) :=
  pairs.map fun p => .equality (.column p.1) (.column p.2)

/-- They make such a condition. -/
theorem equatesReferences_equalitiesOf (pairs : List (Reference × Reference)) :
    EquatesReferences (equalitiesOf pairs) pairs := by
  intro source
  have hstep : ∀ p : Reference × Reference,
      Formula.mapArgs (Operand.resolve source) (.equality (.column p.1) (.column p.2)) = do
        return .equality (.var (← source.resolve p.1)) (.var (← source.resolve p.2)) := by
    intro p
    rw [Formula.equality, Formula.mapArgs, Operand.resolve, Operand.resolve]
    cases source.resolve p.1 with
    | error e => rfl
    | ok v => cases source.resolve p.2 <;> rfl
  change (equalitiesOf pairs).mapM (Formula.mapArgs (Operand.resolve source)) = _
  rw [equalitiesOf, List.mapM_map]
  congr 1
  funext p
  exact hstep p

/-- The references to some columns, each of a relation on the left and of one on the right. -/
def columnPairs (r s : Identifier → RelationId) (columns : List Identifier) : List (Reference × Reference) :=
  columns.map fun c => (.qualified (r c) c, .qualified (s c) c)

end Conditions

namespace Expression

variable {left right e : Expression} {R : RelationId} {c : Identifier} {v : Variable} {columns : List Identifier}

/-- The columns that USING has joined are each exposed by one relation of either side. -/
theorem WellFormed.exists_occurrences_of_joinUsing (hl : WellFormed left) (hr : WellFormed right)
    (h : left.joinUsing right columns = .ok e) (hc : c ∈ columns) :
    ∃ R S, left.scope.occurrences c = [R] ∧ right.scope.occurrences c = [S] := by
  obtain ⟨-, hj, -⟩ := joinUsing_eq_ok.1 h
  obtain ⟨hnl, hnr⟩ := (hl.joinable_iff hr).1 (hj c hc)
  obtain ⟨R, hR⟩ := List.length_eq_one_iff.1 hnl
  obtain ⟨S, hS⟩ := List.length_eq_one_iff.1 hnr
  exact ⟨R, S, hR, hS⟩

/-- Where one relation exposes a column, its qualified reference denotes what the bare name does. -/
theorem WellFormed.get?_qualified_of_bare? (h : WellFormed e) (hR : e.scope.occurrences c = [R])
    (hv : e.dictionary.bare? c = some v) : e.dictionary.get? (.qualified R c) = some v := by
  obtain ⟨w, hw, hRw⟩ := h.bare_of_unique hR
  rw [hRw, ← hw, hv]

/-- **The condition finds the variables that USING takes.** Over the cross join it comes to the equations of the bare
names of the two sides. -/
theorem atoms_of_equatesReferences {κ : Type} [JoinCondition κ] {condition : κ} {r s : Identifier → RelationId}
    {distinct : List Identifier} {added : List Atom} (hl : WellFormed left) (hr : WellFormed right)
    (hs : shared? left right = none) (hcondition : EquatesReferences condition (columnPairs r s distinct))
    (honly : ∀ c ∈ distinct, left.scope.occurrences c = [r c] ∧ right.scope.occurrences c = [s c])
    (hadded : List.Forall₂ (Equation left right) distinct added) :
    JoinCondition.atoms condition (product left right) = .ok added := by
  rw [hcondition, mapM_eq_ok, columnPairs, List.forall₂_map_left_iff]
  refine forall₂_imp_of_mem hadded fun c hc a hequation => ?_
  obtain ⟨v, w, hv, hw, rfl⟩ := hequation
  have hv' := (get?_qualified_product_iff hs).2 (.inl (hl.get?_qualified_of_bare? (honly c hc).1 hv))
  have hw' := (get?_qualified_product_iff hs).2 (.inr (hr.get?_qualified_of_bare? (honly c hc).2 hw))
  rw [resolve_eq_ok.2 hv', resolve_eq_ok.2 hw']
  rfl

/-- A column that each side has leaves its bare name ambiguous in the cross join. -/
theorem WellFormed.bare?_product_of_joinable (hl : WellFormed left) (hr : WellFormed right)
    (hs : shared? left right = none) (hj : Joinable left right c) :
    (Expression.product left right).dictionary.bare? c = none := by
  rw [Option.eq_none_iff_forall_ne_some]
  intro v hv
  obtain ⟨R, hR, -⟩ := bare?_product.1 hv
  have hlength := hl.occurrences_of_merged hr hs hj
  rw [hR, List.length_singleton] at hlength
  omega

/-- **USING is the join on the equalities of its columns.** Let USING succeed on two well formed sources. Then each
listed column is exposed by one relation on the left and one on the right. And a join on a condition that equates the
qualified references to these, for each column in the order of first occurrence, succeeds as well. It has the same
atoms, the same scope and the same qualified entries. The listed columns are bound as bare names after USING and not
bound after the join on the condition; all other bare names denote the same. -/
theorem joinOn_of_joinUsing (hl : WellFormed left) (hr : WellFormed right)
    (h : left.joinUsing right columns = .ok e) :
    (∀ c ∈ columns, ∃ R S, left.scope.occurrences c = [R] ∧ right.scope.occurrences c = [S]) ∧
    ∀ (κ : Type) [JoinCondition κ] (condition : κ) (r s : Identifier → RelationId) (distinct : List Identifier),
      (∀ c ∈ columns, left.scope.occurrences c = [r c] ∧ right.scope.occurrences c = [s c]) →
      FirstOccurrences columns distinct → EquatesReferences condition (columnPairs r s distinct) →
      ∃ e', left.joinOn right condition = .ok e' ∧ e'.atoms = e.atoms ∧ e'.scope = e.scope ∧
        e'.dictionary.qualified = e.dictionary.qualified ∧
        (∀ c ∈ columns, (∃ v, e.dictionary.bare? c = some v) ∧ e'.dictionary.bare? c = none) ∧
        ∀ c ∉ columns, e'.dictionary.bare? c = e.dictionary.bare? c := by
  refine ⟨fun c hc => hl.exists_occurrences_of_joinUsing hr h hc, ?_⟩
  intro κ _ condition r s distinct honly hdistinct hcondition
  obtain ⟨hs, hj, -⟩ := joinUsing_eq_ok.1 h
  obtain ⟨base, hbase, hmerge⟩ := merge_of_joinUsing h
  obtain ⟨-, rfl⟩ := crossJoin_eq_ok.1 hbase
  obtain ⟨distinct', added, hdistinct', hatoms, hadded⟩ := hmerge.atoms
  obtain rfl := hdistinct.unique hdistinct'
  have honly' : ∀ c ∈ distinct, left.scope.occurrences c = [r c] ∧ right.scope.occurrences c = [s c] :=
    fun c hc => honly c (hdistinct.mem_iff.1 hc)
  have hadds := atoms_of_equatesReferences hl hr hs hcondition honly' hadded
  refine ⟨_, joinOn_eq_ok.2 ⟨hs, added, hadds, rfl⟩, hatoms.symm, hmerge.scope.symm, hmerge.qualified.symm, ?_, ?_⟩
  · intro c hc
    obtain ⟨v, -, hv, -⟩ := (hj c hc).bound
    exact ⟨⟨v, (hmerge.bare_listed c hc).trans hv⟩, hl.bare?_product_of_joinable hr hs (hj c hc)⟩
  · intro c hc
    exact (hmerge.bare_other c hc).symm

end Expression

namespace Sample

open Expression

/-- Salaries and staff joined on the one name that both have, by USING and by a condition. -/
theorem joinOn_staff :
    ∃ e e', salary.expression.joinUsing staff.expression [id, id] = .ok e ∧
      salary.expression.joinOn staff.expression
        (equalitiesOf [(.qualified salary.exposed id, .qualified staff.exposed id)]) = .ok e' ∧
      e'.atoms = e.atoms ∧ (∃ v, e.dictionary.bare? id = some v) ∧ e'.dictionary.bare? id = none ∧
      e'.dictionary.bare? name = e.dictionary.bare? name := by
  have hsalary : WellFormed salary.expression := .ofLeaf (by decide)
  have hstaff : WellFormed staff.expression := .ofLeaf (by decide)
  obtain ⟨e, he⟩ := isOk_iff.1 (by decide : (salary.expression.joinUsing staff.expression [id, id]).isOk = true)
  obtain ⟨-, hon⟩ := joinOn_of_joinUsing hsalary hstaff he
  obtain ⟨e', he', hatoms, -, -, hlisted, hother⟩ := hon _
    (equalitiesOf (columnPairs (fun _ => salary.exposed) (fun _ => staff.exposed) [id])) (fun _ => salary.exposed)
    (fun _ => staff.exposed) [id] (by decide) ⟨by simp, List.pairwise_singleton _ _⟩
    (equatesReferences_equalitiesOf _)
  exact ⟨e, e', he, he', hatoms, (hlisted id (by decide)).1, (hlisted id (by decide)).2, hother name (by decide)⟩

end Sample

end FromClause
