import FromClause.Proofs.Lowering.Variables
/-!
# How far a join condition reaches

A join speaks of the leaves below it and of no others. Whatever its two sides look up is a column of one of
their leaves, under its own name (`hasColumn_of_get?`), so the atoms that a join adds have no variables from
elsewhere; and a condition that mentions a column which no leaf below the join can resolve is refused, so that
the whole tree has no source (`atoms_within`).

Column names may repeat in a leaf here, and names may be shared by any number of leaves: nothing below counts
them.
-/

namespace FromClause

open Sql

/-! ## The column references of a condition -/

namespace Sql

mutual

/-- The column references of an expression, from left to right, as they are written. A test against an empty
list has none, because it is settled without its operand. -/
def Expr.references : Expr → List (List Name)
  | .column names => [names]
  | .literal _ | .applied _ | .other _ => []
  | .binary _ left right => left.references ++ right.references
  | .unary _ inner | .nested inner | .isNull _ inner => inner.references
  | .between _ operand low high => operand.references ++ low.references ++ high.references
  | .inList _ _ [] => []
  | .inList _ operand (item :: items) =>
    operand.references ++ (item.references ++ Expr.referencesOf items)

/-- The column references of several expressions. -/
def Expr.referencesOf : List Expr → List (List Name)
  | [] => []
  | e :: es => e.references ++ Expr.referencesOf es

end

theorem Expr.referencesOf_eq_flatMap (es : List Expr) :
    Expr.referencesOf es = es.flatMap Expr.references := by
  induction es with
  | nil => rw [referencesOf, List.flatMap_nil]
  | cons e es ih => rw [referencesOf, ih, List.flatMap_cons]

end Sql

/-- A column reference, as it is written, can be read over a source. -/
def Expression.Reads (source : Expression) (folding : Folding) (names : List Name) : Prop :=
  ∃ r v, columnReference folding names = .ok r ∧ source.resolve r = .ok v

section Conditions

variable {folding : Folding} {source : Expression}

theorem reads_conditionTerm {e : Expr} {t : Term} (h : conditionTerm folding source e = .ok t) :
    ∀ names ∈ e.references, source.Reads folding names := by
  fun_induction conditionTerm folding source e with
  | case1 inner ih =>
    rw [Expr.references]
    exact ih h
  | case2 names =>
    obtain ⟨r, hr, h⟩ := bind_eq_ok.1 h
    obtain ⟨v, hv, -⟩ := bind_eq_ok.1 h
    rw [Expr.references]
    exact List.forall_mem_singleton.2 ⟨r, v, hr, hv⟩
  | case3 value c hc =>
    rw [Expr.references]
    exact List.forall_mem_nil _
  | case5 digits long =>
    rw [Expr.references, Expr.references]
    exact List.forall_mem_nil _
  | case4 value hc => cases h
  | case6 => cases h

/-- **A condition that has atoms reads all of its references** over the source that it is about. -/
theorem reads_conditionAtoms {place : Place} {e : Expr} {atoms : List Atom}
    (h : conditionAtoms folding source place e = .ok atoms) :
    ∀ names ∈ e.references, source.Reads folding names := by
  fun_induction conditionAtoms folding source place e generalizing atoms with
  | case1 place inner ih =>
    rw [Expr.references]
    exact ih h
  | case2 place left right ihl ihr | case3 place left right ihl ihr =>
    obtain ⟨l, hl, h⟩ := bind_eq_ok.1 h
    obtain ⟨r, hr, -⟩ := bind_eq_ok.1 h
    rw [Expr.references]
    exact List.forall_mem_append.2 ⟨ihl hl, ihr hr⟩
  | case4 place op left right =>
    obtain ⟨l, hl, h⟩ := bind_eq_ok.1 h
    obtain ⟨r, hr, -⟩ := bind_eq_ok.1 h
    rw [Expr.references]
    exact List.forall_mem_append.2 ⟨reads_conditionTerm hl, reads_conditionTerm hr⟩
  | case5 place inner ih =>
    obtain ⟨inner, hi, -⟩ := bind_eq_ok.1 h
    rw [Expr.references]
    exact ih hi
  | case6 place negated operand =>
    obtain ⟨t, ht, -⟩ := bind_eq_ok.1 h
    rw [Expr.references]
    exact reads_conditionTerm ht
  | case7 place negated operand low high =>
    obtain ⟨t, ht, h⟩ := bind_eq_ok.1 h
    obtain ⟨l, hl, h⟩ := bind_eq_ok.1 h
    obtain ⟨u, hu, -⟩ := bind_eq_ok.1 h
    rw [Expr.references, List.forall_mem_append, List.forall_mem_append]
    exact ⟨⟨reads_conditionTerm ht, reads_conditionTerm hl⟩, reads_conditionTerm hu⟩
  | case8 place negated operand =>
    -- an empty list settles the test, so the operand has not been read
    rw [Expr.references]
    exact List.forall_mem_nil _
  | case9 place negated operand item items =>
    obtain ⟨t, ht, h⟩ := bind_eq_ok.1 h
    obtain ⟨values, hvalues, -⟩ := bind_eq_ok.1 h
    have hitems : ∀ i ∈ item :: items, ∀ names ∈ i.references, source.Reads folding names := by
      intro i hi
      obtain ⟨u, hu⟩ := exists_mapM_eq_ok.1 ⟨values, hvalues⟩ i hi
      exact reads_conditionTerm hu
    rw [Expr.references, Expr.referencesOf_eq_flatMap, ← List.flatMap_cons, List.forall_mem_append,
      List.forall_mem_flatMap]
    exact ⟨reads_conditionTerm ht, hitems⟩
  | case10 place value =>
    rw [Expr.references]
    exact List.forall_mem_nil _
  | case11 => cases h

end Conditions

namespace JoinTree

/-! ## Below a join -/

/-- A tree is part of another one, with some leaves on its left and some on its right. -/
inductive Within {α κ : Type} (part : JoinTree α κ) : List α → List α → JoinTree α κ → Prop
  /-- It is the whole of it. -/
  | whole : Within part [] [] part
  /-- It is part of the left side of a join. -/
  | left {before after : List α} {kind : JoinKind κ} {left right : JoinTree α κ} :
    Within part before after left → Within part before (after ++ right.leaves) (join kind left right)
  /-- It is part of the right side of a join. -/
  | right {before after : List α} {kind : JoinKind κ} {left right : JoinTree α κ} :
    Within part before after right → Within part (left.leaves ++ before) after (join kind left right)

namespace Within

theorem leaves_eq {α κ : Type} {part t : JoinTree α κ} {before after : List α}
    (h : part.Within before after t) : t.leaves = before ++ part.leaves ++ after := by
  induction h with
  | whole => simp
  | left _ ih => simp [leaves, ih]
  | right _ ih => simp [leaves, ih]

/-- **Where a tree has a source, so have its parts**, and their atoms stand together in it. -/
theorem source_eq_ok {κ : Type} [JoinCondition κ] {part t : JoinTree Leaf κ} {before after : List Leaf}
    (h : part.Within before after t) {e : Expression} (he : t.source = .ok e) :
    ∃ x, part.source = .ok x ∧ x.atoms <:+: e.atoms := by
  induction h generalizing e with
  | whole => exact ⟨e, he, List.infix_rfl⟩
  | left _ ih =>
    obtain ⟨x, y, hx, -, he⟩ := source_join_eq_ok.1 he
    obtain ⟨-, added, bound, -, rfl⟩ := Expression.join_adds_atoms he
    obtain ⟨p, hp, hatoms⟩ := ih hx
    have hleft : x.atoms <:+: x.atoms ++ y.atoms ++ added :=
      ((List.prefix_append _ _).trans (List.prefix_append _ _)).isInfix
    exact ⟨p, hp, hatoms.trans hleft⟩
  | right _ ih =>
    obtain ⟨x, y, -, hy, he⟩ := source_join_eq_ok.1 he
    obtain ⟨-, added, bound, -, rfl⟩ := Expression.join_adds_atoms he
    obtain ⟨p, hp, hatoms⟩ := ih hy
    exact ⟨p, hp, hatoms.trans (List.infix_append _ _ _)⟩

/-- Leaves that share no variables: those of a part are found nowhere beside it. -/
theorem not_mem_vars {κ : Type} {part t : JoinTree Leaf κ} {before after : List Leaf}
    (h : part.Within before after t) (hnodup : t.vars.Nodup) {v : Variable} (hv : v ∈ part.vars) :
    ∀ l ∈ before ++ after, v ∉ l.vars := by
  rw [vars, h.leaves_eq, List.flatMap_append, List.flatMap_append, List.nodup_append] at hnodup
  obtain ⟨hnodup, -, hafter⟩ := hnodup
  obtain ⟨-, -, hbefore⟩ := List.nodup_append.1 hnodup
  intro l hl hvl
  rcases List.mem_append.1 hl with hl | hl
  · exact hbefore v (List.mem_flatMap.2 ⟨l, hl, hvl⟩) v hv rfl
  · exact hafter v (List.mem_append_right _ hv) v (List.mem_flatMap.2 ⟨l, hl, hvl⟩) rfl

end Within

end JoinTree

/-! ## What a join adds -/

section Joined

variable {kind : JoinKind SqlCondition} {left right : JoinTree Leaf SqlCondition} {x y : Expression}
  {added : List Atom}

open JoinTree

/-- The equalities of merged columns stand between a column of the left side and the one of that name on the
right. -/
theorem Expression.Equates.hasColumn {κ : Type} [JoinCondition κ] {left right : JoinTree Leaf κ}
    {joined : Identifier → Prop} (h : x.Equates y joined added) (hx : left.source = .ok x)
    (hy : right.source = .ok y) {a : Atom} (ha : a ∈ added) :
    ∃ c v w, joined c ∧ a = .equality (.var v) (.var w) ∧ left.HasColumn c v ∧ right.HasColumn c w := by
  obtain ⟨columns, -, hmem, hatoms⟩ := h
  obtain ⟨c, hc, v, w, hv, hw, rfl⟩ := exists_of_mem_forall₂ hatoms ha
  exact ⟨c, v, w, (hmem c).1 hc, rfl, hasColumn_of_get? hx hv, hasColumn_of_get? hy hw⟩

/-- What joins other than those on a condition add are equalities of merged columns. -/
theorem JoinKind.Adds.hasColumn (h : kind.Adds x y added) (hkind : ∀ condition, kind ≠ .on condition)
    (hx : left.source = .ok x) (hy : right.source = .ok y) {a : Atom} (ha : a ∈ added) :
    ∃ c v w, c ∈ kind.merged x y ∧ a = .equality (.var v) (.var w) ∧
      left.HasColumn c v ∧ right.HasColumn c w := by
  cases kind with
  | cross =>
    obtain rfl : added = [] := h
    cases ha
  | on condition => exact absurd rfl (hkind condition)
  | «using» columns => exact Expression.Equates.hasColumn h hx hy ha
  | natural =>
    obtain ⟨c, v, w, hc, hrest⟩ := Expression.Equates.hasColumn h hx hy ha
    exact ⟨c, v, w, Scope.mem_common.2 hc, hrest⟩

/-- **A join on a condition has a source only if its leaves resolve the condition**: each reference of it is
resolved by a leaf below the join. -/
theorem JoinTree.exists_leaf_resolve_of_reference {condition : SqlCondition} {e : Expression}
    (h : (join (.on condition) left right).source = .ok e) {names : List Name}
    (hnames : names ∈ condition.expr.references) :
    ∃ r, columnReference condition.folding names = .ok r ∧
      ∃ l ∈ left.leaves ++ right.leaves, ∃ v, l.expression.resolve r = .ok v := by
  obtain ⟨x, y, hx, hy, he⟩ := source_join_eq_ok.1 h
  obtain ⟨hs, atoms, hatoms, -⟩ := Expression.joinOn_eq_ok.1 he
  obtain ⟨r, v, hr, hv⟩ := reads_conditionAtoms hatoms names hnames
  exact ⟨r, hr, exists_leaf_resolve (source_cross hx hy hs) hv⟩

end Joined

/-- **A join condition does not reach outside its join.** Take any join of a tree. If the tree has a source,
so has the join, and its atoms stand together in those of the tree: the atoms of its left side, those of its
right side, and those that the join adds. Every variable of what it adds is one of a leaf below the join, and
of no leaf beside it if no two columns share a variable. What a join without a condition adds are equalities,
each between a column of a leaf on the left and a column of a leaf on the right, both of one name. And if a
condition has a reference that no leaf below the join resolves, the tree has no source. -/
theorem JoinTree.atoms_within {t : JoinTree Leaf SqlCondition} {kind : JoinKind SqlCondition}
    {left right : JoinTree Leaf SqlCondition} {before after : List Leaf}
    (h : (join kind left right).Within before after t) :
    (∀ e, t.source = .ok e → ∃ x y joined added, left.source = .ok x ∧ right.source = .ok y ∧
      (join kind left right).source = .ok joined ∧ joined.atoms = x.atoms ++ y.atoms ++ added ∧
      joined.atoms <:+: e.atoms ∧
      (∀ a ∈ added, ∀ v ∈ Formula.vars a, v ∈ (join kind left right).vars ∧
        (t.vars.Nodup → ∀ l ∈ before ++ after, v ∉ l.vars)) ∧
      ((∀ condition, kind ≠ .on condition) → ∀ a ∈ added, ∃ c v w, c ∈ kind.merged x y ∧
        a = .equality (.var v) (.var w) ∧ left.HasColumn c v ∧ right.HasColumn c w)) ∧
    ∀ condition, kind = .on condition → ∀ names ∈ condition.expr.references,
      (∀ r, columnReference condition.folding names = .ok r →
        ∀ l ∈ left.leaves ++ right.leaves, ∀ v, l.expression.resolve r ≠ .ok v) →
      ∃ error, t.source = .error error := by
  refine ⟨fun e he => ?_, ?_⟩
  · obtain ⟨joined, hjoined, hinfix⟩ := h.source_eq_ok he
    obtain ⟨x, y, hx, hy, hj⟩ := source_join_eq_ok.1 hjoined
    obtain ⟨hs, added, bound, hadded, hextend⟩ := Expression.join_adds_atoms hj
    have hatoms : joined.atoms = x.atoms ++ y.atoms ++ added := congrArg Expression.atoms hextend
    refine ⟨x, y, joined, added, hx, hy, hjoined, hatoms, hinfix, fun a ha v hv => ?_,
      fun hkind a ha => hadded.hasColumn hkind hx hy ha⟩
    have hmem := mem_vars_of_adds hadded hs hx hy ha hv
    exact ⟨hmem, fun hnodup => h.not_mem_vars hnodup hmem⟩
  · rintro condition rfl names hnames hstray
    cases hsource : t.source with
    | error error => exact ⟨error, rfl⟩
    | ok e =>
      obtain ⟨joined, hjoined, -⟩ := h.source_eq_ok hsource
      obtain ⟨r, hr, l, hl, v, hv⟩ := exists_leaf_resolve_of_reference hjoined hnames
      exact absurd hv (hstray r hr l hl v)

namespace Sample

open JoinTree

/-- The column of a table that is called by its alias or its name. -/
def columnOf (table column : Identifier) : Expr := .column [⟨table.text, none⟩, ⟨column.text, none⟩]

/-- `SALARY.AMOUNT >= r.c` for the given column of another table. -/
def paidAtLeast (table column : Identifier) : SqlCondition :=
  ⟨.binary (.compare .ge) (columnOf salary.exposed.table amount) (columnOf table column), .preserve⟩

/-- `(HR.SALARY JOIN STAFF AS S ON …), GRADE`. -/
def bracketed (condition : SqlCondition) : JoinTree Leaf SqlCondition :=
  join .cross (join (.on condition) (leaf salary) (leaf staff)) (leaf grade)

theorem bracketed_within (condition : SqlCondition) :
    (join (.on condition) (leaf salary) (leaf staff)).Within [] [grade] (bracketed condition) := by
  let rest : JoinTree Leaf SqlCondition := leaf grade
  have hrest : [grade] = [] ++ rest.leaves := rfl
  rw [hrest]
  exact .left .whole

/-- In the brackets a condition may speak of the two tables there, and its atoms have nothing to do with the
grades; if it speaks of these the clause has no source. -/
theorem atoms_within_bracketed :
    (∃ (e x y : Expression) (added : List Atom),
      (bracketed (paidAtLeast staff.exposed.table id)).source = .ok e ∧
      x.atoms ++ y.atoms ++ added <:+: e.atoms ∧
      ∀ a ∈ added, ∀ v ∈ Formula.vars a, v ∈ salary.vars ++ staff.vars ∧ v ∉ grade.vars) ∧
    ∃ error, (bracketed (paidAtLeast grade.exposed.table amount)).source = .error error := by
  constructor
  · have hwithin := bracketed_within (paidAtLeast staff.exposed.table id)
    have hnodup : (bracketed (paidAtLeast staff.exposed.table id)).vars.Nodup := by decide
    obtain ⟨e, he⟩ := isOk_iff.1
      (by decide +kernel : (bracketed (paidAtLeast staff.exposed.table id)).source.isOk = true)
    obtain ⟨x, y, joined, added, -, -, -, hatoms, hinfix, hvars, -⟩ := (atoms_within hwithin).1 e he
    refine ⟨e, x, y, added, he, hatoms ▸ hinfix, fun a ha v hv => ?_⟩
    obtain ⟨hmem, hbeside⟩ := hvars a ha v hv
    exact ⟨by simpa [JoinTree.vars, leaves] using hmem, hbeside hnodup grade (List.mem_singleton_self _)⟩
  · have hwithin := bracketed_within (paidAtLeast grade.exposed.table amount)
    refine (atoms_within hwithin).2 _ rfl [⟨grade.exposed.table.text, none⟩, ⟨amount.text, none⟩] ?_ ?_
    · simp [paidAtLeast, columnOf, Expr.references]
    · intro r hr l hl v hv
      obtain rfl : Reference.qualified grade.exposed amount = r := Except.ok.inj hr
      have hnone : ∀ l ∈ [salary, staff],
          (l.expression.resolve (.qualified grade.exposed amount)).isOk = false := by decide
      have := hnone l hl
      rw [hv] at this
      cases this

end Sample

end FromClause
