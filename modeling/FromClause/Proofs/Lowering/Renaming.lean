import FromClause.Proofs.Lowering.Condition
import FromClause.Proofs.Lowering.Plan
import FromClause.Proofs.Relation.Renaming
import Mathlib.Logic.Equiv.Basic
/-!
# Earlier statements rename variables, and do nothing else

What a statement comes to from two supplies differs in the names of its variables only. The plan of the
statement does not depend on the supply; the two trees for it have the same columns bound to other variables;
and the variables drawn from one supply go over into those drawn from the other by a permutation, since neither
supply draws one twice (`exists_perm_drawn`). All that follows commutes with the renaming, ON conditions
included, so the two results are a renaming of one another, or the same error.
-/

namespace FromClause

open Sql

variable {folding : Folding} {source : Expression}

/-! ## Conditions -/

/-- A term over a renamed source is the renamed term. -/
theorem conditionTerm_rename (σ : Variable → Variable) (e : Expr) :
    conditionTerm folding (source.rename σ) e = (conditionTerm folding source e).map (Term.rename σ) := by
  fun_induction conditionTerm folding source e with
  | case1 inner ih => rw [conditionTerm, ih]
  | case2 names =>
    rw [conditionTerm]
    cases columnReference folding names with
    | error e => rfl
    | ok r =>
      rw [ok_bind, ok_bind, Expression.resolve_rename]
      cases source.resolve r <;> rfl
  | case3 value c hc =>
    rw [conditionTerm, hc]
    rfl
  | case4 value hc =>
    rw [conditionTerm, hc]
    rfl
  | case5 digits long =>
    rw [conditionTerm]
    rfl
  | case6 e h1 h2 h3 h4 =>
    rw [conditionTerm]
    · rfl
    all_goals assumption

/-- What a conjunction comes to at a place commutes with renaming. -/
theorem Place.conjoined_rename (σ : Variable → Variable) (place : Place) (atoms : List Atom) :
    place.conjoined (atoms.map (Formula.rename σ)) = (place.conjoined atoms).map (Formula.rename σ) := by
  cases place with
  | top => rfl
  | conjunct => rfl
  | disjunct => exact congrArg (fun a => [a]) (Formula.map_conjunction _ atoms).symm
  | alone => exact congrArg (fun a => [a]) (Formula.map_conjunction _ atoms).symm

/-- So does what a disjunction comes to. -/
theorem Place.disjoined_rename (σ : Variable → Variable) (place : Place) (atoms : List Atom) :
    place.disjoined (atoms.map (Formula.rename σ)) = (place.disjoined atoms).map (Formula.rename σ) := by
  cases place with
  | disjunct => rfl
  | top => exact congrArg (fun a => [a]) (Formula.map_disjunction _ atoms).symm
  | conjunct => exact congrArg (fun a => [a]) (Formula.map_disjunction _ atoms).symm
  | alone => exact congrArg (fun a => [a]) (Formula.map_disjunction _ atoms).symm

/-- Comparisons of one term with several commute with renaming. -/
theorem Formula.compares_rename (σ : Variable → Variable) (op : Comparison) (t : Term) (values : List Term) :
    (values.map (Term.rename σ)).map (.compare op (t.rename σ)) =
      (values.map (.compare op t)).map (Formula.rename σ) := by
  rw [List.map_map, List.map_map]
  rfl

/-- **The atoms of a condition over a renamed source** are its renamed atoms, at every place. -/
theorem conditionAtoms_rename (σ : Variable → Variable) (place : Place) (e : Expr) :
    conditionAtoms folding (source.rename σ) place e =
      (conditionAtoms folding source place e).map (List.map (Formula.rename σ)) := by
  fun_induction conditionAtoms folding source place e with
  | case1 place inner ih => rw [conditionAtoms, ih]
  | case2 place left right ihl ihr =>
    rw [conditionAtoms, ihl, ihr]
    cases conditionAtoms folding source place.conjuncts left with
    | error e => rfl
    | ok l =>
      cases conditionAtoms folding source place.conjuncts right with
      | error e => rfl
      | ok r =>
        refine congrArg Except.ok ?_
        rw [← List.map_append]
        exact place.conjoined_rename σ (l ++ r)
  | case3 place left right ihl ihr =>
    rw [conditionAtoms, ihl, ihr]
    cases conditionAtoms folding source .disjunct left with
    | error e => rfl
    | ok l =>
      cases conditionAtoms folding source .disjunct right with
      | error e => rfl
      | ok r =>
        refine congrArg Except.ok ?_
        rw [← List.map_append]
        exact place.disjoined_rename σ (l ++ r)
  | case4 place op left right =>
    rw [conditionAtoms, conditionTerm_rename, conditionTerm_rename]
    cases conditionTerm folding source left with
    | error e => rfl
    | ok l => cases conditionTerm folding source right <;> rfl
  | case5 place inner ih =>
    rw [conditionAtoms, ih]
    cases conditionAtoms folding source .alone inner with
    | error e => rfl
    | ok atoms =>
      exact congrArg (fun a => Except.ok [Formula.not a]) (Formula.map_conjunction _ atoms).symm
  | case6 place negated operand =>
    rw [conditionAtoms, conditionTerm_rename]
    cases conditionTerm folding source operand <;> rfl
  | case7 place negated operand low high =>
    rw [conditionAtoms, conditionTerm_rename, conditionTerm_rename, conditionTerm_rename]
    cases conditionTerm folding source operand with
    | error e => rfl
    | ok t =>
      cases conditionTerm folding source low with
      | error e => rfl
      | ok l =>
        cases conditionTerm folding source high with
        | error e => rfl
        | ok u => cases negated <;> rfl
  | case8 place negated operand =>
    rw [conditionAtoms]
    rfl
  | case9 place negated operand item items =>
    rw [conditionAtoms, conditionTerm_rename, mapM_eq_map (conditionTerm_rename σ)]
    cases conditionTerm folding source operand with
    | error e => rfl
    | ok t =>
      cases (item :: items).mapM (conditionTerm folding source) with
      | error e => rfl
      | ok values =>
        have hcompares := Formula.compares_rename σ
        cases negated with
        | true =>
          refine congrArg (fun a => Except.ok [a]) ?_
          exact (congrArg Formula.conjunction (hcompares .ne t values)).trans (Formula.map_conjunction _ _).symm
        | false =>
          refine congrArg (fun a => Except.ok [a]) ?_
          exact (congrArg Formula.disjunction (hcompares .eq t values)).trans (Formula.map_disjunction _ _).symm
  | case10 place value =>
    rw [conditionAtoms]
    rfl
  | case11 place e h1 h2 h3 h4 h5 h6 h7 h8 h9 h10 =>
    -- an expression of no other form is refused over either source
    rw [conditionAtoms]
    · rfl
    all_goals assumption

/-- **Conditions commute with renaming.** -/
theorem SqlCondition.renames : JoinCondition.Renames SqlCondition :=
  fun condition σ _ => conditionAtoms_rename σ .top condition.expr

/-! ## Two supplies -/

/-- Lists of one length without repetition go over into one another by a permutation. -/
theorem exists_perm_map_eq {α : Type} [DecidableEq α] {xs ys : List α} (hx : xs.Nodup) (hy : ys.Nodup)
    (h : xs.length = ys.length) : ∃ σ : Equiv.Perm α, xs.map σ = ys := by
  induction xs generalizing ys with
  | nil => exact ⟨Equiv.refl α, (List.eq_nil_of_length_eq_zero h.symm).symm⟩
  | cons x xs ih =>
    obtain ⟨y, ys, rfl⟩ := List.exists_cons_of_length_eq_add_one h.symm
    obtain ⟨hx, hxs⟩ := List.nodup_cons.1 hx
    obtain ⟨hy, hys⟩ := List.nodup_cons.1 hy
    obtain ⟨σ, rfl⟩ := ih hxs hys (Nat.succ.inj h)
    -- the image of the first member changes places with the first member of the other list
    refine ⟨σ.trans (Equiv.swap (σ x) y), ?_⟩
    rw [List.map_cons, Equiv.trans_apply, Equiv.swap_apply_left, List.cons_inj_right]
    refine List.map_congr_left fun z hz => ?_
    have hne : σ z ≠ σ x := fun heq => hx (σ.injective heq ▸ hz)
    have hne' : σ z ≠ y := fun heq => hy (heq ▸ List.mem_map_of_mem hz)
    rw [Equiv.trans_apply, Equiv.swap_apply_of_ne_of_ne hne hne']

namespace Supply

/-- **The variables that two supplies draw** for the same columns go over into one another. -/
theorem exists_perm_drawn (s s' : Supply) (columns : List Identifier) :
    ∃ σ : Equiv.Perm Variable, (s.drawn columns).map σ = s'.drawn columns :=
  exists_perm_map_eq (s.nodup_drawn columns) (s'.nodup_drawn columns)
    ((s.length_drawn columns).trans (s'.length_drawn columns).symm)

/-- Columns are bound to the renamed variables where the variables drawn are renamed. -/
theorem bind_rename {s s' : Supply} {columns : List Identifier} {σ : Variable → Variable}
    (h : (s.drawn columns).map σ = s'.drawn columns) :
    (s'.bind columns).1 = (s.bind columns).1.map (Prod.map id σ) := by
  rw [bind_eq_zip, bind_eq_zip, ← h, List.zip_map_right]

end Supply

namespace Lowering

theorem Placement.leaf_rename (σ : Variable → Variable) (place : Placement)
    (bound : List (Identifier × Variable)) :
    place.leaf (bound.map (Prod.map id σ)) = (place.leaf bound).rename σ := by
  rw [leaf, leaf]
  split <;> rfl

/-- **The trees of a plan over two supplies** differ in the variables only. -/
theorem Plan.tree_rename {s s' : Supply} {σ : Variable → Variable} (plan : Plan)
    (h : (s.drawn plan.columns).map σ = s'.drawn plan.columns) :
    plan.tree s' = (plan.tree s).map (Leaf.rename σ) := by
  induction plan generalizing s s' with
  | leaf place =>
    rw [columns_leaf] at h
    rw [tree, tree, Supply.bind_rename h, place.leaf_rename]
    rfl
  | join kind left right ihl ihr =>
    rw [columns_join, Supply.drawn_append, Supply.drawn_append, List.map_append] at h
    -- both sides draw one variable for each column, so the variables of the left side end at one place
    obtain ⟨hl, hr⟩ := List.append_inj h (by simp)
    rw [tree, ihl hl, ihr hr]
    rfl

/-- **Earlier statements influence later ones by renaming only.** What a statement comes to from any two
supplies, whatever sessions have left them, is the same error, or two sources that are equal up to a one-to-one
renaming of variables. -/
theorem outcome_statement_rename (c : Catalog) (s : Statement) (p q : Progress) :
    ∃ σ : Equiv.Perm Variable,
      (outcome (statement c s) q).1 = (outcome (statement c s) p).1.map (Expression.rename σ) := by
  obtain ⟨_, _, hp, -⟩ := outcome_statement c s p
  obtain ⟨_, _, hq, -⟩ := outcome_statement c s q
  rw [hp, hq]
  cases statementPlan c s with
  | error e =>
    -- the plan is missing for both, and its error is the answer
    exact ⟨Equiv.refl _, rfl⟩
  | ok plan =>
    obtain ⟨σ, hσ⟩ := p.supply.exists_perm_drawn q.supply plan.columns
    refine ⟨σ, ?_⟩
    rw [ok_bind, ok_bind, Plan.source, Plan.source, plan.tree_rename hσ,
      JoinTree.source_rename σ SqlCondition.renames]
    cases (plan.tree p.supply).source <;> rfl

end Lowering

end FromClause
