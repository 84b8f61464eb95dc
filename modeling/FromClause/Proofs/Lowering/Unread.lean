import FromClause.Proofs.Lowering.Language
/-!
# References that are not read

A condition reads its column references from left to right, and the first one that cannot be read is its failure
(`failsLike_conditionAtoms`). There is one exception. A test against an empty list is settled before its operand is
looked at, so the operand may be anything: a column that no table has, one that several tables have, or no term at all
(`conditionAtoms_of_alike`). An expression without such tests has no references besides those that are read
(`mem_columns_of_listsFilled`).
-/

namespace FromClause

open Sql

namespace Sql

namespace Expr

mutual

/-- The column references of an expression, wherever they stand. -/
def columns : Expr → List (List Name)
  | .column names => [names]
  | .literal _ | .applied _ | .other _ => []
  | .binary _ left right => left.columns ++ right.columns
  | .unary _ inner | .nested inner | .isNull _ inner => inner.columns
  | .between _ operand low high => operand.columns ++ low.columns ++ high.columns
  | .inList _ operand items => operand.columns ++ columnsOf items

/-- The column references of several expressions. -/
def columnsOf : List Expr → List (List Name)
  | [] => []
  | e :: es => e.columns ++ columnsOf es

end

mutual

/-- The operands of tests against empty lists. -/
def unread : Expr → List Expr
  | .column _ | .literal _ | .applied _ | .other _ => []
  | .binary _ left right => left.unread ++ right.unread
  | .unary _ inner | .nested inner | .isNull _ inner => inner.unread
  | .between _ operand low high => operand.unread ++ low.unread ++ high.unread
  | .inList _ operand [] => [operand]
  | .inList _ operand (item :: items) => operand.unread ++ (item.unread ++ unreadOf items)

/-- The operands of such tests in several expressions. -/
def unreadOf : List Expr → List Expr
  | [] => []
  | e :: es => e.unread ++ unreadOf es

end

mutual

/-- The column references are those that are read, and those of the operands of tests against empty lists. -/
theorem mem_columns_append (names : List Name) : ∀ e : Expr,
    names ∈ e.columns ↔ names ∈ e.references ∨ names ∈ e.unread.flatMap columns
  | .column _ | .literal _ | .applied _ | .other _ => by simp [columns, references, unread]
  | .binary _ left right => by
    simp only [columns, references, unread, List.flatMap_append, List.mem_append, mem_columns_append names left,
      mem_columns_append names right]
    exact or_or_or_comm
  | .unary _ inner | .nested inner | .isNull _ inner => by
    simp only [columns, references, unread, mem_columns_append names inner]
  | .between _ operand low high => by
    simp only [columns, references, unread, List.flatMap_append, List.mem_append, mem_columns_append names operand,
      mem_columns_append names low, mem_columns_append names high]
    tauto
  | .inList _ operand [] => by simp [columns, columnsOf, references, unread]
  | .inList _ operand (item :: items) => by
    simp only [columns, columnsOf, references, unread, List.flatMap_append, List.mem_append,
      mem_columns_append names operand, mem_columns_append names item, mem_columnsOf_append names items]
    tauto

/-- The same for several expressions. -/
theorem mem_columnsOf_append (names : List Name) : ∀ es : List Expr,
    names ∈ columnsOf es ↔ names ∈ referencesOf es ∨ names ∈ (unreadOf es).flatMap columns
  | [] => by simp [columnsOf, referencesOf, unreadOf]
  | e :: es => by
    simp only [columnsOf, referencesOf, unreadOf, List.flatMap_append, List.mem_append, mem_columns_append names e,
      mem_columnsOf_append names es]
    exact or_or_or_comm

end

/-- **A column reference is read**, or it stands in the operand of a test against an empty list. -/
theorem mem_columns_iff {names : List Name} {e : Expr} :
    names ∈ e.columns ↔ names ∈ e.references ∨ ∃ operand ∈ e.unread, names ∈ operand.columns := by
  rw [mem_columns_append, List.mem_flatMap]

mutual

/-- Without tests against empty lists there is no such operand. -/
theorem unread_eq_nil : ∀ e : Expr, e.ListsFilled → e.unread = []
  | .column _, _ | .literal _, _ | .applied _, _ | .other _, _ => by rw [unread]
  | .binary _ left right, h => by
    rw [ListsFilled] at h
    rw [unread, unread_eq_nil left h.1, unread_eq_nil right h.2, List.append_nil]
  | .unary _ inner, h | .nested inner, h | .isNull _ inner, h => by
    rw [ListsFilled] at h
    rw [unread, unread_eq_nil inner h]
  | .between _ operand low high, h => by
    rw [ListsFilled] at h
    rw [unread, unread_eq_nil operand h.1, unread_eq_nil low h.2.1, unread_eq_nil high h.2.2, List.append_nil,
      List.append_nil]
  | .inList _ _ [], h => by
    rw [ListsFilled] at h
    exact absurd rfl h.1
  | .inList _ operand (item :: items), h => by
    rw [ListsFilled, AllListsFilled] at h
    rw [unread, unread_eq_nil operand h.2.1, unread_eq_nil item h.2.2.1, unreadOf_eq_nil items h.2.2.2,
      List.append_nil, List.append_nil]

theorem unreadOf_eq_nil : ∀ es : List Expr, AllListsFilled es → unreadOf es = []
  | [], _ => by rw [unreadOf]
  | e :: es, h => by
    rw [AllListsFilled] at h
    rw [unreadOf, unread_eq_nil e h.1, unreadOf_eq_nil es h.2, List.append_nil]

end

/-- An expression without tests against empty lists has all its references read. -/
theorem mem_columns_of_listsFilled {names : List Name} {e : Expr} (h : e.ListsFilled) :
    names ∈ e.columns ↔ names ∈ e.references := by
  rw [mem_columns_iff, unread_eq_nil e h]
  simp

/-- **Two expressions are alike** if they differ in operands of tests against empty lists only, as far as conditions are
made up of tests. -/
inductive Alike : Expr → Expr → Prop
  /-- They do not differ. -/
  | refl {e : Expr} : Alike e e
  /-- Both are tests against an empty list, of any two operands. -/
  | emptyList {negated : Bool} {operand operand' : Expr} :
    Alike (inList negated operand []) (inList negated operand' [])
  /-- Both stand in brackets. -/
  | nested {e e' : Expr} : Alike e e' → Alike (nested e) (nested e')
  /-- Both are negated. -/
  | not {e e' : Expr} : Alike e e' → Alike (unary .not e) (unary .not e')
  /-- Both are conjunctions. -/
  | and {l l' r r' : Expr} : Alike l l' → Alike r r' → Alike (binary .and l r) (binary .and l' r')
  /-- Both are disjunctions. -/
  | or {l l' r r' : Expr} : Alike l l' → Alike r r' → Alike (binary .or l r) (binary .or l' r')

/-- Which of the two comes first does not matter. -/
theorem Alike.symm {e e' : Expr} (h : Alike e e') : Alike e' e := by
  induction h with
  | refl => exact .refl
  | emptyList => exact .emptyList
  | nested _ ih => exact .nested ih
  | not _ ih => exact .not ih
  | and _ _ ihl ihr => exact .and ihl ihr
  | or _ _ ihl ihr => exact .or ihl ihr

end Expr

end Sql

section Conditions

variable {folding : Folding} {source : Expression} {place : Place} {e e' : Expr}

/-! ## What is not read -/

/-- **The operand of a test against an empty list is not looked at**: a condition that comes to atoms comes to the same
atoms with any others in their places. -/
theorem conditionAtoms_of_alike (h : e.Alike e') {atoms : List Atom}
    (hatoms : conditionAtoms folding source place e = .ok atoms) :
    conditionAtoms folding source place e' = .ok atoms := by
  induction h generalizing place atoms with
  | refl => exact hatoms
  | emptyList => exact hatoms
  | nested _ ih =>
    rw [conditionAtoms] at hatoms ⊢
    exact ih hatoms
  | not _ ih =>
    obtain ⟨inner, hinner, h⟩ := bind_eq_ok.1 hatoms
    exact bind_eq_ok.2 ⟨inner, ih hinner, h⟩
  | and _ _ ihl ihr | or _ _ ihl ihr =>
    obtain ⟨l, hl, h⟩ := bind_eq_ok.1 hatoms
    obtain ⟨r, hr, h⟩ := bind_eq_ok.1 h
    exact bind_eq_ok.2 ⟨l, ihl hl, bind_eq_ok.2 ⟨r, ihr hr, h⟩⟩

end Conditions

/-! ## Steps that fail alike -/

/-- One step fails like another one: both succeed, or both fail with the same error. -/
def FailsLike {ε α β : Type} (x : Except ε α) (y : Except ε β) : Prop := ∀ e, x = .error e ↔ y = .error e

namespace FailsLike

variable {ε α β γ : Type} {x : Except ε α} {y : Except ε β}

theorem ok (a : α) (b : β) : FailsLike (.ok a : Except ε α) (.ok b) := by
  intro e
  constructor <;> intro h <;> cases h

theorem error (e : ε) : FailsLike (.error e : Except ε α) (.error e : Except ε β) := by
  intro e'
  rw [Except.error.injEq, Except.error.injEq]

/-- A step that goes on to a result fails like the step alone. -/
theorem map (h : FailsLike x y) (f : α → γ) : FailsLike (x >>= fun a => .ok (f a)) y := by
  intro e
  rw [← h e]
  cases x with
  | error e' => exact error e' e
  | ok a => exact ok (f a) a e

/-- So does the other one. -/
theorem symm (h : FailsLike x y) : FailsLike y x := fun e => (h e).symm

/-- Two steps fail like the steps for two lists, one after the other. -/
theorem append {δ κ : Type} {f : δ → Except ε κ} {as bs : List δ} {z : Except ε β}
    (hx : FailsLike x (as.mapM f)) (hz : FailsLike z (bs.mapM f)) (g : α → β → γ) :
    FailsLike (x >>= fun a => z >>= fun b => .ok (g a b)) ((as ++ bs).mapM f) := by
  rw [List.mapM_append]
  cases x with
  | error e =>
    rw [(hx e).1 rfl]
    exact error e
  | ok a =>
    cases has : as.mapM f with
    | error e => cases (hx e).2 has
    | ok ks => exact ((hz.map (g a)).symm.map (ks ++ ·)).symm

end FailsLike

/-! ## What is read -/

/-- A column reference is read over a source. -/
def readReference (folding : Folding) (source : Expression) (names : List Name) : Except JoinError Variable := do
  source.resolve (← columnReference folding names)

section Reading

variable {folding : Folding} {source : Expression} {place : Place} {e : Expr}

/-- A term fails like the references in it. -/
theorem failsLike_conditionTerm (h : e.IsTerm) :
    FailsLike (conditionTerm folding source e) (e.references.mapM (readReference folding source)) := by
  induction h with
  | nested _ ih =>
    rw [Expr.references]
    exact ih
  | @column names _ _ =>
    have hterm : conditionTerm folding source (.column names) =
        readReference folding source names >>= fun v => .ok (.var v) := by
      rw [readReference, bind_assoc]
      rfl
    rw [hterm, Expr.references, List.mapM_cons, List.mapM_nil]
    cases readReference folding source names with
    | error e => exact .error e
    | ok v => exact .ok _ _
  | _ => exact .ok _ _

/-- Several terms fail like the references in them. -/
theorem failsLike_mapM_conditionTerm {es : List Expr} (h : ∀ e ∈ es, e.IsTerm) :
    FailsLike (es.mapM (conditionTerm folding source))
      ((Expr.referencesOf es).mapM (readReference folding source)) := by
  induction es with
  | nil => exact .ok _ _
  | cons e es ih =>
    obtain ⟨he, hes⟩ := List.forall_mem_cons.1 h
    rw [List.mapM_cons, Expr.referencesOf]
    exact (failsLike_conditionTerm he).append (ih hes) List.cons

/-- **A condition reads its column references from left to right**: it comes to atoms if all of them are read, and else
it fails with the error of the first one that is not. -/
theorem failsLike_conditionAtoms (h : e.IsCondition) :
    FailsLike (conditionAtoms folding source place e) (e.references.mapM (readReference folding source)) := by
  induction h generalizing place with
  | nested _ ih =>
    rw [Expr.references, conditionAtoms]
    exact ih
  | and _ _ ihl ihr =>
    rw [Expr.references]
    exact ihl.append ihr fun l r => place.conjoined (l ++ r)
  | or _ _ ihl ihr =>
    rw [Expr.references]
    exact ihl.append ihr fun l r => place.disjoined (l ++ r)
  | not _ ih =>
    rw [Expr.references]
    exact ih.map fun atoms => ([.not (.conjunction atoms)] : List Atom)
  | compare hl hr =>
    rw [Expr.references]
    exact (failsLike_conditionTerm hl).append (failsLike_conditionTerm hr) fun l r => ([.compare _ l r] : List Atom)
  | isNull ht =>
    rw [Expr.references]
    exact (failsLike_conditionTerm ht).map fun t => ([.isNull _ t] : List Atom)
  | @between negated operand low high ht hl hu =>
    have hread : ∀ {e : Expr}, e.IsTerm → FailsLike (conditionTerm folding source e)
        (e.references.mapM (readReference folding source)) := failsLike_conditionTerm
    have hbounds := (hread hl).append (hread hu) Prod.mk
    have hall := (hread ht).append hbounds fun t b =>
      ([if negated then .disjunction [.compare .lt t b.1, .compare .gt t b.2]
        else .conjunction [.compare .ge t b.1, .compare .le t b.2]] : List Atom)
    simp only [bind_assoc, ok_bind] at hall
    rw [Expr.references, List.append_assoc]
    exact hall
  | inList ht hitems =>
    rw [Expr.references, ← Expr.referencesOf]
    exact (failsLike_conditionTerm ht).append (failsLike_mapM_conditionTerm hitems) fun t values => _
  | truth => exact .ok _ _

end Reading

/-! ## Conditions -/

/-- **Every column reference that is read resolves.** If a condition comes to atoms, each of its references spells a
reference that resolves in the source, wherever it stands; the only ones that need not are in operands of tests against
empty lists. So a reference that is absent or ambiguous makes the condition fail. In a condition without such tests this
is so for all references, and the error is the one of the first that does not resolve. The operands of such tests
count for nothing: the same atoms come out with any others in their places. -/
theorem SqlCondition.references_resolve (condition : SqlCondition) (source : Expression) :
    let atoms := JoinCondition.atoms condition source
    let e := condition.expr
    ((∃ as, atoms = .ok as) → ∀ names ∈ e.references, ∃ r v, condition.folding.Spells names r ∧
      source.resolve r = .ok v) ∧
    (∀ names ∈ e.references,
      (∀ r, condition.folding.Spells names r → ∃ error, source.resolve r = .error error) →
        ∃ error, atoms = .error error) ∧
    (∀ names, names ∈ e.columns ↔ names ∈ e.references ∨ ∃ operand ∈ e.unread, names ∈ operand.columns) ∧
    (e.ListsFilled → ∀ names, names ∈ e.columns ↔ names ∈ e.references) ∧
    (e.IsCondition → ∀ error, atoms = .error error ↔
      ∃ before names after, e.references = before ++ names :: after ∧
        (∀ earlier ∈ before, ∃ v, readReference condition.folding source earlier = .ok v) ∧
        readReference condition.folding source names = .error error) ∧
    ∀ e' as, e.Alike e' →
      (atoms = .ok as ↔ JoinCondition.atoms (⟨e', condition.folding⟩ : SqlCondition) source = .ok as) := by
  intro atoms e
  have hreads : (∃ as, atoms = .ok as) → ∀ names ∈ e.references, ∃ r v, condition.folding.Spells names r ∧
      source.resolve r = .ok v := by
    rintro ⟨as, has⟩ names hnames
    obtain ⟨r, v, hr, hv⟩ := reads_conditionAtoms has names hnames
    exact ⟨r, v, columnReference_eq_ok.1 hr, hv⟩
  refine ⟨hreads, fun names hnames hnone => ?_, fun names => Expr.mem_columns_iff,
    fun hfilled names => Expr.mem_columns_of_listsFilled hfilled, fun hcondition error => ?_, fun e' as halike => ?_⟩
  · cases hatoms : atoms with
    | error error => exact ⟨error, rfl⟩
    | ok as =>
      obtain ⟨r, v, hr, hv⟩ := hreads ⟨as, hatoms⟩ names hnames
      obtain ⟨error, herror⟩ := hnone r hr
      cases hv.symm.trans herror
  · exact (failsLike_conditionAtoms hcondition error).trans mapM_eq_error
  · exact ⟨conditionAtoms_of_alike halike, conditionAtoms_of_alike halike.symm⟩

/-! ## Tests against empty lists -/

namespace Sample

/-- A test of a column against an empty list. -/
def emptyTest (column : String) : Expr := .inList false (.column [⟨column, none⟩]) []

/-- The name of a column that no table has. -/
def nope : Identifier := ⟨"NOPE", by decide⟩

/-- The column name `ID`, which two tables expose. -/
def idNames : List Name := [⟨"id", none⟩]

/-- An ambiguous reference makes a condition fail. A test against an empty list comes to the same whatever it tests. -/
theorem references_resolve_paidStaff :
    (∀ r, Folding.upper.Spells idNames r → ∃ error, paidStaff.resolve r = .error error) ∧
    (∃ error, JoinCondition.atoms (missing (.column idNames)) paidStaff = .error error) ∧
    (JoinCondition.atoms (⟨emptyTest "amount", .upper⟩ : SqlCondition) paidStaff = .ok [.truth false] ↔
      JoinCondition.atoms (⟨emptyTest "nope", .upper⟩ : SqlCondition) paidStaff = .ok [.truth false]) := by
  have hambiguous : ∀ r, Folding.upper.Spells idNames r → ∃ error, paidStaff.resolve r = .error error := by
    intro r hr
    have hbare : Folding.upper.Spells idNames (.bare id) := .column (by decide +kernel)
    obtain rfl := Except.ok.inj ((columnReference_eq_ok.2 hr).symm.trans (columnReference_eq_ok.2 hbare))
    exact ⟨.ambiguous (.bare id), by decide +kernel⟩
  obtain ⟨-, hfails, -⟩ := SqlCondition.references_resolve (missing (.column idNames)) paidStaff
  obtain ⟨-, -, -, -, -, halike⟩ := SqlCondition.references_resolve ⟨emptyTest "amount", .upper⟩ paidStaff
  refine ⟨hambiguous, hfails idNames ?_ hambiguous, halike _ _ .emptyList⟩
  simp [missing, Expr.references]

/-- **A column that is tested against an empty list need not be there.** `nope IN ()` comes to an atom over the staff
and their salaries, though neither table has the column. -/
theorem unread_nope :
    JoinCondition.atoms (⟨emptyTest "nope", .upper⟩ : SqlCondition) paidStaff = .ok [.truth false] ∧
    [⟨"nope", none⟩] ∈ (emptyTest "nope").columns ∧ Folding.upper.Spells [⟨"nope", none⟩] (.bare nope) ∧
    paidStaff.resolve (.bare nope) = .error (.unresolved (.bare nope)) :=
  ⟨rfl, by simp [emptyTest, Expr.columns], .column (by decide +kernel), by decide +kernel⟩

end Sample

end FromClause
