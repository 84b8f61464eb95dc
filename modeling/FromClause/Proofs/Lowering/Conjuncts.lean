import FromClause.Proofs.Lowering.Language
/-!
# Conjuncts

At the top of a join condition brackets and the grouping of conjunctions do not matter. An expression has a list of
conjuncts, left when the conjunctions and the brackets around them are taken off (`Expr.conjuncts`), and what the
expression comes to is told by this list alone: every conjunct is translated by itself, from left to right, and
the atoms are put together (`alone_eq_mapM`). The first conjunct that fails is the failure of the whole.

Below the top it is otherwise: there brackets end a chain of conjunctions. So the induction goes through the
conjunctions at the top only, and takes each conjunct as it stands.
-/

namespace FromClause

open Sql

/-- The conjuncts of an expression, from left to right. Conjunctions are opened up, and so are the brackets around
them and around each conjunct. -/
def Sql.Expr.conjuncts : Expr → List Expr
  | .nested inner => inner.conjuncts
  | .binary .and left right => left.conjuncts ++ right.conjuncts
  | e => [e]

namespace SqlCondition

/-- What an expression comes to as a condition by itself. -/
def alone (folding : Folding) (source : Expression) (e : Expr) : Except JoinError (List Atom) :=
  JoinCondition.atoms (⟨e, folding⟩ : SqlCondition) source

variable {folding : Folding} {source : Expression}

/-- A conjunction comes to the atoms of its two sides, one after the other. -/
theorem alone_and (left right : Expr) :
    alone folding source (.binary .and left right) = do
      let l ← alone folding source left
      let r ← alone folding source right
      return l ++ r := by
  rfl

/-- **What an expression comes to is put together from its conjuncts.** -/
theorem alone_eq_mapM (e : Expr) :
    alone folding source e = (e.conjuncts.mapM (alone folding source)).map List.flatten := by
  fun_induction Expr.conjuncts e with
  | case1 inner ih =>
    -- brackets count for nothing at the top
    have hinner : alone folding source (.nested inner) = alone folding source inner := rfl
    rw [hinner, ih]
  | case2 left right ihl ihr =>
    rw [alone_and, ihl, ihr, List.mapM_append]
    cases left.conjuncts.mapM (alone folding source) with
    | error e => rfl
    | ok l =>
      cases right.conjuncts.mapM (alone folding source) with
      | error e => rfl
      | ok r => exact congrArg Except.ok List.flatten_append.symm
  | case3 e =>
    rw [List.mapM_cons, List.mapM_nil]
    cases alone folding source e with
    | error e => rfl
    | ok atoms => exact congrArg Except.ok (List.append_nil atoms).symm

/-- The atoms of a condition are those of its conjuncts, in order. -/
theorem atoms_eq_ok_iff (condition : SqlCondition) (source : Expression) (atoms : List Atom) :
    JoinCondition.atoms condition source = .ok atoms ↔
      ∃ parts, List.Forall₂ (fun e part => alone condition.folding source e = .ok part)
        condition.expr.conjuncts parts ∧ atoms = parts.flatten := by
  have heq : JoinCondition.atoms condition source = _ := alone_eq_mapM condition.expr
  rw [heq]
  simp only [← mapM_eq_ok]
  cases condition.expr.conjuncts.mapM (alone condition.folding source) with
  | error e => simp [Except.map]
  | ok parts => simp [Except.map, eq_comm]

/-- The error of a condition is that of its first conjunct with one. -/
theorem atoms_eq_error_iff (condition : SqlCondition) (source : Expression) (error : JoinError) :
    JoinCondition.atoms condition source = .error error ↔
      ∃ before e after, condition.expr.conjuncts = before ++ e :: after ∧
        (∀ x ∈ before, ∃ part, alone condition.folding source x = .ok part) ∧
        alone condition.folding source e = .error error := by
  have heq : JoinCondition.atoms condition source = _ := alone_eq_mapM condition.expr
  rw [heq, ← mapM_eq_error]
  cases condition.expr.conjuncts.mapM (alone condition.folding source) with
  | error e => simp [Except.map]
  | ok parts => simp [Except.map]

/-- **The grouping of conjuncts does not matter.** Two ON expressions with the same conjuncts, in the same order,
come to the same over every source, however their conjunctions are grouped and wherever there are brackets
around conjuncts and groups. They come to atoms exactly when every conjunct does by itself, and then to the
atoms of the conjuncts one after another. They fail exactly when a conjunct does, with the error of the first
one that fails. -/
theorem atoms_of_conjuncts_eq (condition condition' : SqlCondition) (source : Expression)
    (hfolding : condition.folding = condition'.folding)
    (hconjuncts : condition.expr.conjuncts = condition'.expr.conjuncts) :
    JoinCondition.atoms condition source = JoinCondition.atoms condition' source ∧
    (∀ atoms, JoinCondition.atoms condition source = .ok atoms ↔
      ∃ parts, List.Forall₂ (fun e part => alone condition.folding source e = .ok part)
        condition.expr.conjuncts parts ∧ atoms = parts.flatten) ∧
    ∀ error, JoinCondition.atoms condition source = .error error ↔
      ∃ before e after, condition.expr.conjuncts = before ++ e :: after ∧
        (∀ x ∈ before, ∃ part, alone condition.folding source x = .ok part) ∧
        alone condition.folding source e = .error error := by
  refine ⟨?_, atoms_eq_ok_iff condition source, atoms_eq_error_iff condition source⟩
  calc JoinCondition.atoms condition source
      = (condition.expr.conjuncts.mapM (alone condition.folding source)).map List.flatten :=
        alone_eq_mapM condition.expr
    _ = (condition'.expr.conjuncts.mapM (alone condition'.folding source)).map List.flatten := by
        rw [hconjuncts, hfolding]
    _ = JoinCondition.atoms condition' source := (alone_eq_mapM condition'.expr).symm

end SqlCondition

/-! ## Three conjuncts, grouped in two ways -/

namespace Sample

/-- `(x AND y) AND z`. -/
def groupedLeft (x y z : Expr) : SqlCondition :=
  ⟨.binary .and (.nested (.binary .and x y)) z, .upper⟩

/-- `(x) AND (y AND (z))`. -/
def groupedRight (x y z : Expr) : SqlCondition :=
  ⟨.binary .and (.nested x) (.nested (.binary .and y (.nested z))), .upper⟩

/-- Both groupings come to the same atoms. Both report the first of two conjuncts that fail. -/
theorem atoms_of_grouped :
    let paid := Expr.isNull true (columnOf salary.exposed.table amount)
    let named := Expr.isNull true (columnOf staff.exposed.table name)
    let ambiguous := Expr.isNull true (.column [⟨"id", none⟩])
    let unknown := Expr.isNull true (.column [⟨"nobody", none⟩])
    (∃ atoms, JoinCondition.atoms (groupedLeft paid named paid) paidStaff = .ok atoms ∧
      JoinCondition.atoms (groupedRight paid named paid) paidStaff = .ok atoms) ∧
    JoinCondition.atoms (groupedLeft paid ambiguous unknown) paidStaff = .error (.ambiguous (.bare id)) ∧
    JoinCondition.atoms (groupedRight paid ambiguous unknown) paidStaff = .error (.ambiguous (.bare id)) := by
  intro paid named ambiguous unknown
  constructor
  · obtain ⟨heq, -⟩ := SqlCondition.atoms_of_conjuncts_eq (groupedLeft paid named paid)
      (groupedRight paid named paid) paidStaff rfl rfl
    obtain ⟨atoms, hatoms⟩ := isOk_iff.1
      (by decide +kernel : (JoinCondition.atoms (groupedLeft paid named paid) paidStaff).isOk = true)
    exact ⟨atoms, hatoms, heq ▸ hatoms⟩
  · obtain ⟨heq, -, herror⟩ := SqlCondition.atoms_of_conjuncts_eq (groupedLeft paid ambiguous unknown)
      (groupedRight paid ambiguous unknown) paidStaff rfl rfl
    have hfirst : JoinCondition.atoms (groupedLeft paid ambiguous unknown) paidStaff =
        .error (.ambiguous (.bare id)) := by
      refine (herror _).2 ⟨[paid], ambiguous, [unknown], rfl, ?_, ?_⟩
      · exact List.forall_mem_singleton.2 (isOk_iff.1 (by decide +kernel))
      · decide +kernel
    exact ⟨hfirst, heq ▸ hfirst⟩

end Sample

end FromClause
