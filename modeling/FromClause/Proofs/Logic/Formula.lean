import FromClause.Logic.Formula
/-!
# What formulas are made of

Two readings of a formula that later proofs take: the relations that are applied anywhere in it, with their
arguments, and the formula with its arguments replaced. Both go through the connectives part by part.

Conditions are built from comparisons and tests by the connectives alone, and no connective joins fewer than two
parts (`Formula.Built`). A property that goes through the connectives is `Formula.Compositional`; of what is built
so it is settled by the arguments.
-/

namespace FromClause

namespace Formula

variable {τ σ : Type}

theorem argumentsOf_eq_flatMap (fs : List (Formula τ)) : argumentsOf fs = fs.flatMap arguments := by
  induction fs with
  | nil => rfl
  | cons f fs ih => rw [argumentsOf, ih, List.flatMap_cons]

/-! ## Relations in a formula -/

mutual

/-- The relations that are applied in a formula, with their arguments, in order of appearance. -/
def applications : Formula τ → List (Predicate × List τ)
  | .data p args => [(p, args)]
  | .compare .. | .isNull .. | .truth _ => []
  | .not f => f.applications
  | .and fs => applicationsOf fs
  | .or fs => applicationsOf fs

/-- The relations that are applied in several formulas. -/
def applicationsOf : List (Formula τ) → List (Predicate × List τ)
  | [] => []
  | f :: fs => f.applications ++ applicationsOf fs

end

theorem applicationsOf_eq_flatMap (fs : List (Formula τ)) :
    applicationsOf fs = fs.flatMap applications := by
  induction fs with
  | nil => rfl
  | cons f fs ih => rw [applicationsOf, ih, List.flatMap_cons]

/-- The relation that an atom applies by itself, with its arguments. -/
def data? : Formula τ → Option (Predicate × List τ)
  | .data p args => some (p, args)
  | .compare .. | .isNull .. | .truth _ | .not _ | .and _ | .or _ => none

/-- A formula that applies no relation is no relation applied. -/
theorem data?_eq_none_of_applications {f : Formula τ} (h : f.applications = []) : f.data? = none := by
  cases f with
  | data p args =>
    rw [applications] at h
    cases h
  | _ => rfl

/-! ## Replaced arguments -/

mutual

/-- The formula with every argument replaced. -/
def map (f : τ → σ) : Formula τ → Formula σ
  | .data p args => .data p (args.map f)
  | .compare op left right => .compare op (f left) (f right)
  | .isNull negated arg => .isNull negated (f arg)
  | .not inner => .not (inner.map f)
  | .and fs => .and (mapAll f fs)
  | .or fs => .or (mapAll f fs)
  | .truth value => .truth value

/-- Several formulas with every argument replaced. -/
def mapAll (f : τ → σ) : List (Formula τ) → List (Formula σ)
  | [] => []
  | g :: gs => g.map f :: mapAll f gs

end

variable (f : τ → σ)

theorem mapAll_eq_map (fs : List (Formula τ)) : mapAll f fs = fs.map (map f) := by
  induction fs with
  | nil => rfl
  | cons g gs ih => rw [mapAll, ih, List.map_cons]

theorem map_conjunction (fs : List (Formula τ)) :
    (conjunction fs).map f = conjunction (fs.map (map f)) := by
  match fs with
  | [g] => rfl
  | [] => rfl
  | g :: h :: fs => exact congrArg Formula.and (mapAll_eq_map f _)

theorem map_disjunction (fs : List (Formula τ)) :
    (disjunction fs).map f = disjunction (fs.map (map f)) := by
  match fs with
  | [g] => rfl
  | [] => rfl
  | g :: h :: fs => exact congrArg Formula.or (mapAll_eq_map f _)

/-! ## Properties that go through the connectives -/

/-- **A property of conditions that their arguments settle**: it holds of the comparisons and tests of arguments
with the property `T`, and of what the connectives make of conditions that have it. -/
structure Compositional (T : τ → Prop) (P : Formula τ → Prop) : Prop where
  /-- It holds of comparisons. -/
  compare {op : Comparison} {left right : τ} : T left → T right → P (.compare op left right)
  /-- It holds of tests for the missing value. -/
  isNull {negated : Bool} {arg : τ} : T arg → P (.isNull negated arg)
  /-- It holds of truth values. -/
  truth {value : Bool} : P (.truth value)
  /-- It goes through negation. -/
  not {g : Formula τ} : P g → P (.not g)
  /-- It goes through conjunction. -/
  and {gs : List (Formula τ)} : (∀ g ∈ gs, P g) → P (.and gs)
  /-- It goes through disjunction. -/
  or {gs : List (Formula τ)} : (∀ g ∈ gs, P g) → P (.or gs)

/-- **What is built from tests by the connectives**: the comparisons, tests and truth values whose arguments have the
property `T`, their negations, and the conjunctions and disjunctions of at least two parts that are so built. -/
inductive Built (T : τ → Prop) : Formula τ → Prop
  /-- A comparison. -/
  | compare {op : Comparison} {left right : τ} : T left → T right → Built T (.compare op left right)
  /-- A test for the missing value. -/
  | isNull {negated : Bool} {arg : τ} : T arg → Built T (.isNull negated arg)
  /-- A truth value. -/
  | truth {value : Bool} : Built T (.truth value)
  /-- A negation. -/
  | not {g : Formula τ} : Built T g → Built T (.not g)
  /-- A conjunction. -/
  | and {gs : List (Formula τ)} : 2 ≤ gs.length → (∀ g ∈ gs, Built T g) → Built T (.and gs)
  /-- A disjunction. -/
  | or {gs : List (Formula τ)} : 2 ≤ gs.length → (∀ g ∈ gs, Built T g) → Built T (.or gs)

namespace Built

variable {T : τ → Prop} {gs : List (Formula τ)}

/-- A conjunction of one part is that part, and one of several parts is built from them. -/
theorem conjunction (hne : gs ≠ []) (h : ∀ g ∈ gs, Built T g) : Built T (conjunction gs) := by
  match gs with
  | [] => exact absurd rfl hne
  | [g] => exact h g List.mem_cons_self
  | g :: g' :: gs => exact .and (by simp) h

/-- So is a disjunction. -/
theorem disjunction (hne : gs ≠ []) (h : ∀ g ∈ gs, Built T g) : Built T (disjunction gs) := by
  match gs with
  | [] => exact absurd rfl hne
  | [g] => exact h g List.mem_cons_self
  | g :: g' :: gs => exact .or (by simp) h

/-- **A property that goes through the connectives** holds of what is built by them. -/
theorem compositional {P : Formula τ → Prop} {g : Formula τ} (h : Built T g) (hP : Compositional T P) : P g := by
  induction h with
  | compare hl hr => exact hP.compare hl hr
  | isNull ht => exact hP.isNull ht
  | truth => exact hP.truth
  | not _ ih => exact hP.not ih
  | and _ _ ih => exact hP.and ih
  | or _ _ ih => exact hP.or ih

end Built

/-- No relation is applied in a condition. -/
theorem compositional_applications {T : τ → Prop} :
    Compositional T fun f => f.applications = [] where
  compare _ _ := by rw [applications]
  isNull _ := by rw [applications]
  truth := rfl
  not h := by rw [applications, h]
  and h := by rw [applications, applicationsOf_eq_flatMap, List.flatMap_eq_nil_iff.2 h]
  or h := by rw [applications, applicationsOf_eq_flatMap, List.flatMap_eq_nil_iff.2 h]

/-- The arguments of a condition are those of its parts. -/
theorem compositional_arguments {T : τ → Prop} :
    Compositional T fun f => ∀ t ∈ f.arguments, T t where
  compare hl hr := by
    rw [arguments]
    simp [hl, hr]
  isNull h := by
    rw [arguments]
    simp [h]
  truth := List.forall_mem_nil _
  not h := by
    rw [arguments]
    exact h
  and h := by
    rw [arguments, argumentsOf_eq_flatMap]
    exact List.forall_mem_flatMap.2 h
  or h := by
    rw [arguments, argumentsOf_eq_flatMap]
    exact List.forall_mem_flatMap.2 h

end Formula

end FromClause
