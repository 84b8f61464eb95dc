import FromClause.Proofs.Lowering.Condition
import FromClause.Proofs.Lowering.Language
import FromClause.Proofs.Semantics.Literals
/-!
# What an ON expression means

An expression is evaluated directly, given a way to read the columns that it refers to: its terms have values
(`Expr.value?`) and its conditions have truth values (`Expr.truthValue?`). Both are partial, since the
language of conditions is only a part of all expressions and a column may not be there to be read. A column is the one
that its names spell and a literal has the value that is written, so neither depends on what terms and atoms are.

The atoms of a condition are then shown to mean what the expression means (`conditionAtoms_truthValue`). How
the atoms are to be combined depends on the place of the expression: those of an operand of a longer
disjunction by disjunction, all others by conjunction.
-/

namespace FromClause

open Sql

variable {V : Type}

/-! ## Evaluation -/

namespace Sql

namespace Expr

variable (D : Database V) (folding : Folding) (read : Reference → Option (Cell V))

/-- The value of a term: a column, a literal, or a number behind a minus sign. -/
def value? : Expr → Option (Cell V)
  | nested inner => inner.value?
  | column names => (folding.spelled? names).bind read
  | literal value => D.literal? value
  | unary .minus (literal (.number digits _)) => some (some (D.number true digits))
  | _ => none

/-- **A numeral stands for the number that it spells**, or for its opposite, where numbers go by their values. -/
theorem Writes.value?_eq {value : ℚ → V} {negative : Bool} {digits : String} {e : Expr} (h : Writes digits negative e)
    (hdigits : IsNumeral digits) (hD : D.ByValue value) : e.value? D folding read =
      some (some (value (if negative then -numeralValue digits.toList else numeralValue digits.toList))) := by
  induction h with
  | plain | minus => exact congrArg (some <| some ·) (hD.number_eq hdigits)
  | nested _ ih => exact ih

variable [Ord V]

/-- The truth of a condition. A range stands for its two comparisons and a list for its equations; no value is
in the empty list. -/
def truthValue? : Expr → Option Truth
  | nested inner => inner.truthValue?
  | binary .and left right => do return (← left.truthValue?).and (← right.truthValue?)
  | binary .or left right => do return (← left.truthValue?).or (← right.truthValue?)
  | binary (.compare op) left right => do
    return op.truthValue (← left.value? D folding read) (← right.value? D folding read)
  | unary .not inner => return (← inner.truthValue?).not
  | isNull negated operand => do
    let x ← operand.value? D folding read
    return .ofBool (x.isNone != negated)
  | between negated operand low high => do
    let x ← operand.value? D folding read
    let inside := (Comparison.ge.truthValue x (← low.value? D folding read)).and
      (Comparison.le.truthValue x (← high.value? D folding read))
    return if negated then inside.not else inside
  | inList negated _ [] => some (.ofBool negated)
  | inList negated operand (item :: items) => do
    let x ← operand.value? D folding read
    let ys ← (item :: items).mapM (value? D folding read)
    let found := Truth.any (ys.map (Comparison.eq.truthValue x))
    return if negated then found.not else found
  | literal (.boolean b) => some (.ofBool b)
  | _ => none

end Expr

end Sql

/-! ## Terms -/

section Meaning

variable {D : Database V} {folding : Folding} {source : Expression} {read : Reference → Option (Cell V)}
  {ν : Variable → Cell V}

/-- Columns are read as the source resolves them. -/
def ReadsAs (source : Expression) (ν : Variable → Cell V) (read : Reference → Option (Cell V)) : Prop :=
  ∀ r v, source.resolve r = .ok v → read r = some (ν v)

/-- **A term means what its expression means.** -/
theorem conditionTerm_value (hread : ReadsAs source ν read) {e : Expr} {t : Term}
    (h : conditionTerm folding source e = .ok t) :
    e.value? D folding read = some (D.termValue ν t) := by
  fun_induction conditionTerm folding source e with
  | case1 inner ih => exact ih h
  | case2 names =>
    obtain ⟨r, hr, h⟩ := bind_eq_ok.1 h
    obtain ⟨v, hv, h⟩ := bind_eq_ok.1 h
    cases h
    rw [Expr.value?, Folding.spelled?_eq_some.2 (columnReference_eq_ok.1 hr), Option.bind_some]
    exact hread r v hv
  | case3 value c hc =>
    cases h
    rw [Expr.value?, ← D.constantValue_literalConstant?, hc]
    rfl
  | case4 value hc => cases h
  | case5 digits long =>
    cases h
    rw [Expr.value?, ← D.constantValue_numberConstant]
    rfl
  | case6 => cases h

/-- Several terms mean what their expressions mean. -/
theorem mapM_conditionTerm_value (hread : ReadsAs source ν read) {es : List Expr} {ts : List Term}
    (h : es.mapM (conditionTerm folding source) = .ok ts) :
    es.mapM (Expr.value? D folding read) = some (ts.map (D.termValue ν)) := by
  rw [mapM_eq_ok] at h
  induction h with
  | nil => rfl
  | cons hterm _ ih => simp [conditionTerm_value hread hterm, ih]

/-! ## Conditions -/

variable [Ord V]

/-- The truth of what the atoms of an expression at a place are combined to. -/
def Place.combine : Place → List Truth → Truth
  | .disjunct, ts => .any ts
  | .top, ts | .conjunct, ts | .alone, ts => .all ts

@[simp] theorem Place.combine_singleton (place : Place) (t : Truth) : place.combine [t] = t := by
  cases place <;> simp [combine]

/-- An expression by itself comes to one atom. -/
theorem conditionAtoms_alone {e : Expr} {atoms : List Atom}
    (h : conditionAtoms folding source .alone e = .ok atoms) : ∃ a, atoms = [a] := by
  generalize hplace : Place.alone = place at h
  fun_induction conditionAtoms folding source place e generalizing atoms with
  | case1 place inner ih =>
    subst hplace
    exact ih rfl h
  | case2 place left right | case3 place left right =>
    subst hplace
    obtain ⟨l, -, h⟩ := bind_eq_ok.1 h
    obtain ⟨r, -, h⟩ := bind_eq_ok.1 h
    cases h
    exact ⟨_, rfl⟩
  | case4 place op left right =>
    obtain ⟨l, -, h⟩ := bind_eq_ok.1 h
    obtain ⟨r, -, h⟩ := bind_eq_ok.1 h
    cases h
    exact ⟨_, rfl⟩
  | case5 place inner =>
    obtain ⟨inner, -, h⟩ := bind_eq_ok.1 h
    cases h
    exact ⟨_, rfl⟩
  | case6 place negated operand =>
    obtain ⟨t, -, h⟩ := bind_eq_ok.1 h
    cases h
    exact ⟨_, rfl⟩
  | case7 place negated operand low high =>
    obtain ⟨t, -, h⟩ := bind_eq_ok.1 h
    obtain ⟨l, -, h⟩ := bind_eq_ok.1 h
    obtain ⟨u, -, h⟩ := bind_eq_ok.1 h
    cases h
    exact ⟨_, rfl⟩
  | case8 place negated operand | case10 place value =>
    cases h
    exact ⟨_, rfl⟩
  | case9 place negated operand item items =>
    obtain ⟨t, -, h⟩ := bind_eq_ok.1 h
    obtain ⟨values, -, h⟩ := bind_eq_ok.1 h
    cases h
    exact ⟨_, rfl⟩
  | case11 => cases h

/-- What the operands of a conjunction are combined to is combined further by the place. -/
theorem Place.combine_conjoined (place : Place) (atoms : List Atom) (truth : Atom → Truth)
    (h : truth (.conjunction atoms) = .all (atoms.map truth)) :
    place.combine ((place.conjoined atoms).map truth) = .all (atoms.map truth) := by
  cases place with
  | top => rfl
  | conjunct => rfl
  | disjunct => exact Truth.any_singleton.trans h
  | alone => exact Truth.all_singleton.trans h

/-- The same for a disjunction. -/
theorem Place.combine_disjoined (place : Place) (atoms : List Atom) (truth : Atom → Truth)
    (h : truth (.disjunction atoms) = .any (atoms.map truth)) :
    place.combine ((place.disjoined atoms).map truth) = .any (atoms.map truth) := by
  cases place with
  | disjunct => rfl
  | top => exact Truth.all_singleton.trans h
  | conjunct => exact Truth.all_singleton.trans h
  | alone => exact Truth.all_singleton.trans h

theorem Place.combine_conjuncts (place : Place) (ts : List Truth) :
    place.conjuncts.combine ts = .all ts := by
  cases place <;> rfl

/-- **The atoms of a condition mean what its expression means.** -/
theorem conditionAtoms_truthValue (hread : ReadsAs source ν read) {place : Place} {e : Expr}
    {atoms : List Atom} (h : conditionAtoms folding source place e = .ok atoms) :
    e.truthValue? D folding read =
      some (place.combine (atoms.map (Formula.truthValue D (D.termValue ν)))) := by
  fun_induction conditionAtoms folding source place e generalizing atoms with
  | case1 place inner ih =>
    rw [Expr.truthValue?, ih h]
    cases place with
    | top => rfl
    | conjunct => rfl
    | alone => rfl
    | disjunct =>
      -- brackets end a disjunction, so there is one atom to combine
      obtain ⟨a, rfl⟩ := conditionAtoms_alone h
      simp
  | case2 place left right ihl ihr =>
    obtain ⟨l, hl, h⟩ := bind_eq_ok.1 h
    obtain ⟨r, hr, h⟩ := bind_eq_ok.1 h
    cases h
    rw [Expr.truthValue?, ihl hl, ihr hr, Place.combine_conjuncts, Place.combine_conjuncts,
      place.combine_conjoined _ _ (Formula.truthValue_conjunction D _ _), List.map_append,
      Truth.all_append]
    rfl
  | case3 place left right ihl ihr =>
    obtain ⟨l, hl, h⟩ := bind_eq_ok.1 h
    obtain ⟨r, hr, h⟩ := bind_eq_ok.1 h
    cases h
    rw [Expr.truthValue?, ihl hl, ihr hr,
      place.combine_disjoined _ _ (Formula.truthValue_disjunction D _ _), List.map_append,
      Truth.any_append]
    rfl
  | case4 place op left right =>
    obtain ⟨l, hl, h⟩ := bind_eq_ok.1 h
    obtain ⟨r, hr, h⟩ := bind_eq_ok.1 h
    cases h
    rw [Expr.truthValue?, conditionTerm_value hread hl, conditionTerm_value hread hr, List.map_singleton,
      Place.combine_singleton]
    rfl
  | case5 place inner ih =>
    obtain ⟨inner, hi, h⟩ := bind_eq_ok.1 h
    cases h
    rw [Expr.truthValue?, ih hi, List.map_singleton, Place.combine_singleton, Formula.truthValue,
      Formula.truthValue_conjunction]
    rfl
  | case6 place negated operand =>
    obtain ⟨t, ht, h⟩ := bind_eq_ok.1 h
    cases h
    rw [Expr.truthValue?, conditionTerm_value hread ht, List.map_singleton, Place.combine_singleton]
    rfl
  | case7 place negated operand low high =>
    obtain ⟨t, ht, h⟩ := bind_eq_ok.1 h
    obtain ⟨l, hl, h⟩ := bind_eq_ok.1 h
    obtain ⟨u, hu, h⟩ := bind_eq_ok.1 h
    cases h
    rw [Expr.truthValue?, conditionTerm_value hread ht, conditionTerm_value hread hl,
      conditionTerm_value hread hu, List.map_singleton, Place.combine_singleton, Formula.truthValue_range]
    rfl
  | case8 place negated operand =>
    cases h
    rw [Expr.truthValue?, List.map_singleton, Place.combine_singleton, Formula.truthValue]
  | case9 place negated operand item items =>
    obtain ⟨t, ht, h⟩ := bind_eq_ok.1 h
    obtain ⟨values, hvalues, h⟩ := bind_eq_ok.1 h
    cases h
    rw [Expr.truthValue?, conditionTerm_value hread ht, mapM_conditionTerm_value hread hvalues,
      List.map_singleton, Place.combine_singleton, Formula.truthValue_members]
    rfl
  | case10 place value =>
    cases h
    rw [Expr.truthValue?, List.map_singleton, Place.combine_singleton, Formula.truthValue]
  | case11 => cases h

end Meaning

/-! ## The whole condition -/

/-- Columns are read through the source: the value of a reference is that of the variable it resolves to. -/
def Expression.reading (source : Expression) (ν : Variable → Cell V) (r : Reference) : Option (Cell V) :=
  (source.resolve r).toOption.map ν

section Reading

variable {D : Database V} {folding : Folding} {source : Expression} {ν : Variable → Cell V}

theorem readsAs_reading : ReadsAs source ν (source.reading ν) := by
  intro r v h
  rw [Expression.reading, h]
  rfl

/-- A reference that has a value resolves. -/
theorem exists_resolve_of_reading {r : Reference} {x : Cell V} (h : source.reading ν r = some x) :
    ∃ v, source.resolve r = .ok v := by
  rw [Expression.reading] at h
  cases hr : source.resolve r with
  | error e =>
    rw [hr] at h
    cases h
  | ok v => exact ⟨v, rfl⟩

/-- **An expression that has a value is a term.** -/
theorem exists_conditionTerm {e : Expr} {x : Cell V}
    (h : e.value? D folding (source.reading ν) = some x) :
    ∃ t, conditionTerm folding source e = .ok t := by
  fun_induction conditionTerm folding source e with
  | case1 inner ih => exact ih h
  | case2 names =>
    rw [Expr.value?, Option.bind_eq_some_iff] at h
    obtain ⟨r, hr, h⟩ := h
    obtain ⟨v, hv⟩ := exists_resolve_of_reading h
    have hread := columnReference_eq_ok.2 (Folding.spelled?_eq_some.1 hr)
    exact ⟨.var v, bind_eq_ok.2 ⟨r, hread, bind_eq_ok.2 ⟨v, hv, rfl⟩⟩⟩
  | case3 value c hc => exact ⟨_, rfl⟩
  | case4 value hc =>
    rw [Expr.value?, ← D.constantValue_literalConstant?, hc] at h
    cases h
  | case5 digits long => exact ⟨_, rfl⟩
  | case6 e h1 h2 h3 h4 =>
    rw [Expr.value?] at h
    · cases h
    all_goals assumption

/-- Expressions that have values are terms. -/
theorem exists_mapM_conditionTerm {es : List Expr} {xs : List (Cell V)}
    (h : es.mapM (Expr.value? D folding (source.reading ν)) = some xs) :
    ∃ ts, es.mapM (conditionTerm folding source) = .ok ts := by
  induction es generalizing xs with
  | nil => exact ⟨[], rfl⟩
  | cons e rest ih =>
    simp only [List.mapM_cons, Option.bind_eq_bind, Option.bind_eq_some_iff] at h
    obtain ⟨x, hx, ys, hys, -⟩ := h
    obtain ⟨t, ht⟩ := exists_conditionTerm hx
    obtain ⟨ts, hts⟩ := ih hys
    exact ⟨t :: ts, by rw [List.mapM_cons, ht, hts]; rfl⟩

variable [Ord V]

/-- **An expression that has a truth value is a condition**, wherever it stands. -/
theorem exists_conditionAtoms {place : Place} {e : Expr} {t : Truth}
    (h : e.truthValue? D folding (source.reading ν) = some t) :
    ∃ atoms, conditionAtoms folding source place e = .ok atoms := by
  fun_induction conditionAtoms folding source place e generalizing t with
  | case1 place inner ih => exact ih h
  | case2 place left right ihl ihr =>
    simp only [Expr.truthValue?, Option.bind_eq_bind, Option.bind_eq_some_iff] at h
    obtain ⟨l, hl, r, hr, -⟩ := h
    obtain ⟨as, has⟩ := ihl hl
    obtain ⟨bs, hbs⟩ := ihr hr
    exact ⟨_, bind_eq_ok.2 ⟨as, has, bind_eq_ok.2 ⟨bs, hbs, rfl⟩⟩⟩
  | case3 place left right ihl ihr =>
    simp only [Expr.truthValue?, Option.bind_eq_bind, Option.bind_eq_some_iff] at h
    obtain ⟨l, hl, r, hr, -⟩ := h
    obtain ⟨as, has⟩ := ihl hl
    obtain ⟨bs, hbs⟩ := ihr hr
    exact ⟨_, bind_eq_ok.2 ⟨as, has, bind_eq_ok.2 ⟨bs, hbs, rfl⟩⟩⟩
  | case4 place op left right =>
    simp only [Expr.truthValue?, Option.bind_eq_bind, Option.bind_eq_some_iff] at h
    obtain ⟨x, hx, y, hy, -⟩ := h
    obtain ⟨l, hl⟩ := exists_conditionTerm hx
    obtain ⟨r, hr⟩ := exists_conditionTerm hy
    exact ⟨_, bind_eq_ok.2 ⟨l, hl, bind_eq_ok.2 ⟨r, hr, rfl⟩⟩⟩
  | case5 place inner ih =>
    simp only [Expr.truthValue?, Option.bind_eq_bind, Option.bind_eq_some_iff] at h
    obtain ⟨u, hu, -⟩ := h
    obtain ⟨atoms, hatoms⟩ := ih hu
    exact ⟨_, bind_eq_ok.2 ⟨atoms, hatoms, rfl⟩⟩
  | case6 place negated operand =>
    simp only [Expr.truthValue?, Option.bind_eq_bind, Option.bind_eq_some_iff] at h
    obtain ⟨x, hx, -⟩ := h
    obtain ⟨a, ha⟩ := exists_conditionTerm hx
    exact ⟨_, bind_eq_ok.2 ⟨a, ha, rfl⟩⟩
  | case7 place negated operand low high =>
    simp only [Expr.truthValue?, Option.bind_eq_bind, Option.bind_eq_some_iff] at h
    obtain ⟨x, hx, y, hy, z, hz, -⟩ := h
    obtain ⟨a, ha⟩ := exists_conditionTerm hx
    obtain ⟨b, hb⟩ := exists_conditionTerm hy
    obtain ⟨c, hc⟩ := exists_conditionTerm hz
    exact ⟨_, bind_eq_ok.2 ⟨a, ha, bind_eq_ok.2 ⟨b, hb, bind_eq_ok.2 ⟨c, hc, rfl⟩⟩⟩⟩
  | case8 place negated operand => exact ⟨_, rfl⟩
  | case9 place negated operand item items =>
    simp only [Expr.truthValue?, Option.bind_eq_bind, Option.bind_eq_some_iff] at h
    obtain ⟨x, hx, ys, hys, -⟩ := h
    obtain ⟨a, ha⟩ := exists_conditionTerm hx
    obtain ⟨bs, hbs⟩ := exists_mapM_conditionTerm hys
    exact ⟨_, bind_eq_ok.2 ⟨a, ha, bind_eq_ok.2 ⟨bs, hbs, rfl⟩⟩⟩
  | case10 place value => exact ⟨_, rfl⟩
  | case11 place e h1 h2 h3 h4 h5 h6 h7 h8 h9 h10 =>
    rw [Expr.truthValue?] at h
    · cases h
    all_goals assumption

end Reading

variable [Ord V]

/-- **A condition keeps the meaning of its expression.** Over any source, under any values of the variables,
the missing value among them, an expression has a truth value exactly when it comes to atoms, and it is the
truth value of the conjunction of these atoms. -/
theorem SqlCondition.truth_atoms (condition : SqlCondition) (source : Expression) (D : Database V)
    (ν : Variable → Cell V) :
    ((JoinCondition.atoms condition source).toOption.map fun atoms =>
        Truth.all (atoms.map (Formula.truthValue D (D.termValue ν)))) =
      condition.expr.truthValue? D condition.folding (source.reading ν) := by
  cases h : JoinCondition.atoms condition source with
  | ok atoms => exact (conditionAtoms_truthValue readsAs_reading h).symm
  | error e =>
    refine (Option.eq_none_iff_forall_ne_some.2 fun t ht => ?_).symm
    have hok : ∃ atoms, conditionAtoms condition.folding source .top condition.expr = .ok atoms :=
      exists_conditionAtoms ht
    obtain ⟨atoms, hatoms⟩ := hok
    have herror : conditionAtoms condition.folding source .top condition.expr = .error e := h
    rw [herror] at hatoms
    cases hatoms

/-- The empty list has no member, whatever is looked for: a column that is not there, for one. -/
example (D : Database V) (folding : Folding) (operand : Expr) :
    (Expr.inList false operand []).truthValue? D folding (fun _ => none) = some .no := rfl

end FromClause
