import FromClause.Lowering.Condition
import FromClause.Proofs.Data.Outcome
import FromClause.Proofs.Logic.Formula
/-!
# What the atoms of a condition are made of

Every atom of a condition is put together by the connectives from comparisons and tests of its terms, whatever
the place of the expression (`builtFrom_conditionAtoms`). So a condition applies no relation, and the variables in
it are those that its column references resolve to.
-/

namespace FromClause

open Sql

variable {folding : Folding} {source : Expression}

/-- A term that is a variable is one that some reference resolves to. -/
def Term.Resolved (source : Expression) (t : Term) : Prop :=
  ∀ v, t = .var v → ∃ r, source.resolve r = .ok v

/-- **The variables of a condition come from its column references.** -/
theorem resolved_conditionTerm {e : Expr} {t : Term} (h : conditionTerm folding source e = .ok t) :
    t.Resolved source := by
  intro v hv
  fun_induction conditionTerm folding source e with
  | case1 inner ih => exact ih h
  | case2 names =>
    obtain ⟨r, -, h⟩ := bind_eq_ok.1 h
    obtain ⟨w, hw, h⟩ := bind_eq_ok.1 h
    cases h
    cases hv
    exact ⟨r, hw⟩
  | case3 value c hc =>
    cases h
    cases hv
  | case4 value hc => cases h
  | case5 digits long =>
    cases h
    cases hv
  | case6 => cases h

/-! ## The shape of the atoms -/

/-- The terms that a condition compares and tests, from left to right. A test against an empty list has none, because
it is settled without its operand. -/
def Sql.Expr.operands : Expr → List Expr
  | .nested inner | .unary .not inner => inner.operands
  | .binary .and left right | .binary .or left right => left.operands ++ right.operands
  | .binary (.compare _) left right => [left, right]
  | .isNull _ operand => [operand]
  | .between _ operand low high => [operand, low, high]
  | .inList _ _ [] => []
  | .inList _ operand (item :: items) => operand :: item :: items
  | _ => []

/-- Formulas that are built from tests, one at least. -/
def BuiltFrom (T : Term → Prop) (atoms : List Atom) : Prop := atoms ≠ [] ∧ ∀ a ∈ atoms, Formula.Built T a

namespace BuiltFrom

variable {T : Term → Prop} {atoms more : List Atom} {a : Atom}

theorem singleton (h : Formula.Built T a) : BuiltFrom T [a] :=
  ⟨List.cons_ne_nil _ _, List.forall_mem_singleton.2 h⟩

theorem append (h : BuiltFrom T atoms) (hmore : BuiltFrom T more) : BuiltFrom T (atoms ++ more) :=
  ⟨List.append_ne_nil_of_left_ne_nil h.1 _, List.forall_mem_append.2 ⟨h.2, hmore.2⟩⟩

/-- What a conjunction comes to at a place is built from what its operands come to. -/
theorem conjoined (h : BuiltFrom T atoms) (place : Place) : BuiltFrom T (place.conjoined atoms) := by
  cases place with
  | top => exact h
  | conjunct => exact h
  | disjunct => exact singleton (.conjunction h.1 h.2)
  | alone => exact singleton (.conjunction h.1 h.2)

/-- The same for a disjunction. -/
theorem disjoined (h : BuiltFrom T atoms) (place : Place) : BuiltFrom T (place.disjoined atoms) := by
  cases place with
  | disjunct => exact h
  | top => exact singleton (.disjunction h.1 h.2)
  | conjunct => exact singleton (.disjunction h.1 h.2)
  | alone => exact singleton (.disjunction h.1 h.2)

/-- A range is two comparisons. -/
theorem range (negated : Bool) {t low high : Term} (ht : T t) (hlow : T low) (hhigh : T high) :
    BuiltFrom T [if negated then .disjunction [.compare .lt t low, .compare .gt t high]
      else .conjunction [.compare .ge t low, .compare .le t high]] := by
  cases negated with
  | true =>
    have hall : ∀ a ∈ [Formula.compare .lt t low, .compare .gt t high], Formula.Built T a := by
      simp [Formula.Built.compare ht hlow, Formula.Built.compare ht hhigh]
    exact singleton (.disjunction (List.cons_ne_nil _ _) hall)
  | false =>
    have hall : ∀ a ∈ [Formula.compare .ge t low, .compare .le t high], Formula.Built T a := by
      simp [Formula.Built.compare ht hlow, Formula.Built.compare ht hhigh]
    exact singleton (.conjunction (List.cons_ne_nil _ _) hall)

/-- A list is one comparison for each of its items. -/
theorem members (negated : Bool) {t : Term} {items : List Term} (hne : items ≠ []) (ht : T t)
    (hitems : ∀ u ∈ items, T u) :
    BuiltFrom T [if negated then .conjunction (items.map (.compare .ne t))
      else .disjunction (items.map (.compare .eq t))] := by
  have hall : ∀ op, ∀ a ∈ items.map (Formula.compare op t), Formula.Built T a :=
    fun op => List.forall_mem_map.2 fun u hu => .compare ht (hitems u hu)
  have hmap : ∀ op, items.map (Formula.compare op t) ≠ [] := fun op h => hne (List.map_eq_nil_iff.1 h)
  cases negated with
  | true => exact singleton (.conjunction (hmap .ne) (hall .ne))
  | false => exact singleton (.disjunction (hmap .eq) (hall .eq))

end BuiltFrom

/-- **The atoms of a condition are built from tests of its terms**, at every place, and there is one at least. No
connective in them has fewer than two parts. -/
theorem builtFrom_conditionAtoms {T : Term → Prop} {place : Place} {e : Expr} {atoms : List Atom}
    (hT : ∀ x ∈ e.operands, ∀ t, conditionTerm folding source x = .ok t → T t)
    (h : conditionAtoms folding source place e = .ok atoms) : BuiltFrom T atoms := by
  fun_induction conditionAtoms folding source place e generalizing atoms with
  | case1 place inner ih =>
    rw [Expr.operands] at hT
    exact ih hT h
  | case2 place left right ihl ihr =>
    obtain ⟨l, hl, h⟩ := bind_eq_ok.1 h
    obtain ⟨r, hr, h⟩ := bind_eq_ok.1 h
    cases h
    rw [Expr.operands, List.forall_mem_append] at hT
    exact ((ihl hT.1 hl).append (ihr hT.2 hr)).conjoined place
  | case3 place left right ihl ihr =>
    obtain ⟨l, hl, h⟩ := bind_eq_ok.1 h
    obtain ⟨r, hr, h⟩ := bind_eq_ok.1 h
    cases h
    rw [Expr.operands, List.forall_mem_append] at hT
    exact ((ihl hT.1 hl).append (ihr hT.2 hr)).disjoined place
  | case4 place op left right =>
    obtain ⟨l, hl, h⟩ := bind_eq_ok.1 h
    obtain ⟨r, hr, h⟩ := bind_eq_ok.1 h
    cases h
    rw [Expr.operands, List.forall_mem_cons, List.forall_mem_singleton] at hT
    exact .singleton (.compare (hT.1 l hl) (hT.2 r hr))
  | case5 place inner ih =>
    obtain ⟨inner, hi, h⟩ := bind_eq_ok.1 h
    cases h
    rw [Expr.operands] at hT
    obtain ⟨hne, hall⟩ := ih hT hi
    exact .singleton (.not (.conjunction hne hall))
  | case6 place negated operand =>
    obtain ⟨t, ht, h⟩ := bind_eq_ok.1 h
    cases h
    rw [Expr.operands, List.forall_mem_singleton] at hT
    exact .singleton (.isNull (hT t ht))
  | case7 place negated operand low high =>
    obtain ⟨t, ht, h⟩ := bind_eq_ok.1 h
    obtain ⟨l, hl, h⟩ := bind_eq_ok.1 h
    obtain ⟨u, hu, h⟩ := bind_eq_ok.1 h
    cases h
    simp only [Expr.operands, List.forall_mem_cons] at hT
    obtain ⟨hoperand, hlow, hhigh, -⟩ := hT
    exact .range negated (hoperand t ht) (hlow l hl) (hhigh u hu)
  | case8 place negated operand | case10 place value =>
    cases h
    exact .singleton .truth
  | case9 place negated operand item items =>
    obtain ⟨t, ht, h⟩ := bind_eq_ok.1 h
    obtain ⟨values, hvalues, h⟩ := bind_eq_ok.1 h
    cases h
    rw [Expr.operands, List.forall_mem_cons] at hT
    obtain ⟨hoperand, hitems⟩ := hT
    have hne : values ≠ [] := by
      intro hnil
      have hlength := (mapM_eq_ok.1 hvalues).length_eq
      rw [hnil] at hlength
      cases hlength
    have hall : ∀ u ∈ values, T u := by
      intro u hu
      obtain ⟨x, hx, hxu⟩ := exists_of_mem_mapM hvalues hu
      exact hitems x hx u hxu
    exact .members negated hne (hoperand t ht) hall
  | case11 => cases h

/-- **A property that the terms of a condition settle** holds of all its atoms, at every place. -/
theorem conditionAtoms_forall {T : Term → Prop} {P : Atom → Prop} (hP : Formula.Compositional T P)
    (hT : ∀ e t, conditionTerm folding source e = .ok t → T t) {place : Place} {e : Expr}
    {atoms : List Atom} (h : conditionAtoms folding source place e = .ok atoms) : ∀ a ∈ atoms, P a := by
  intro a ha
  have hbuilt := (builtFrom_conditionAtoms (fun x _ => hT x) h).2 a ha
  exact hbuilt.compositional hP

/-- **A condition applies no relation.** -/
theorem applications_conditionAtoms {place : Place} {e : Expr} {atoms : List Atom}
    (h : conditionAtoms folding source place e = .ok atoms) : ∀ a ∈ atoms, a.applications = [] :=
  conditionAtoms_forall (T := fun _ => True) Formula.compositional_applications (fun _ _ _ => trivial) h

/-- **Every variable of a condition is one that a reference resolves to.** -/
theorem resolve_of_mem_vars_conditionAtoms {place : Place} {e : Expr} {atoms : List Atom}
    (h : conditionAtoms folding source place e = .ok atoms) {a : Atom} (ha : a ∈ atoms) {v : Variable}
    (hv : v ∈ Formula.vars a) : ∃ r, source.resolve r = .ok v := by
  have hargs := conditionAtoms_forall Formula.compositional_arguments
    (fun e t he => resolved_conditionTerm (e := e) (t := t) he) h a ha
  obtain ⟨t, ht, htv⟩ := List.mem_filterMap.1 hv
  cases t with
  | var w =>
    cases htv
    exact hargs _ ht _ rfl
  | const c => cases htv

end FromClause
