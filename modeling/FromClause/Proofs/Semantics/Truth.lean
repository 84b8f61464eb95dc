import FromClause.Logic.Formula
/-!
# Three-valued truth

The truth values of conditions over values that may be missing, and the truth of atoms. A comparison with the
missing value is unknown. How two values that are there compare is left open: any three-way comparison will
do, and the six signs are read off it, so that each sign is the negation of the opposite one.
-/

namespace FromClause

/-- The truth of a condition. -/
inductive Truth where
  /-- The condition is met. -/
  | yes
  /-- The condition is not met. -/
  | no
  /-- It cannot be told, because a value is missing. -/
  | unknown
  deriving DecidableEq, Repr

namespace Truth

/-- The truth of a condition that can be told. -/
def ofBool : Bool → Truth
  | true => yes
  | false => no

/-- The truth of a negation. -/
def not : Truth → Truth
  | yes => no
  | no => yes
  | unknown => unknown

/-- The truth of a conjunction. -/
def and : Truth → Truth → Truth
  | no, _ | _, no => no
  | yes, yes => yes
  | unknown, _ | _, unknown => unknown

/-- The truth of a disjunction. -/
def or : Truth → Truth → Truth
  | yes, _ | _, yes => yes
  | no, no => no
  | unknown, _ | _, unknown => unknown

/-- The truth of a conjunction of several conditions. -/
def all (ts : List Truth) : Truth := ts.foldr and yes

/-- The truth of a disjunction of several conditions. -/
def any (ts : List Truth) : Truth := ts.foldr or no

variable {t u v : Truth} {ts us : List Truth}

@[simp] theorem yes_and : yes.and t = t := by cases t <;> rfl

@[simp] theorem and_yes : t.and yes = t := by cases t <;> rfl

@[simp] theorem no_or : no.or t = t := by cases t <;> rfl

@[simp] theorem or_no : t.or no = t := by cases t <;> rfl

theorem and_assoc : (t.and u).and v = t.and (u.and v) := by
  cases t <;> cases u <;> cases v <;> rfl

theorem or_assoc : (t.or u).or v = t.or (u.or v) := by
  cases t <;> cases u <;> cases v <;> rfl

theorem not_and : (t.and u).not = t.not.or u.not := by
  cases t <;> cases u <;> rfl

theorem not_or : (t.or u).not = t.not.and u.not := by
  cases t <;> cases u <;> rfl

theorem not_ofBool (b : Bool) : (ofBool b).not = ofBool !b := by
  cases b <;> rfl

theorem and_eq_yes : t.and u = yes ↔ t = yes ∧ u = yes := by
  cases t <;> cases u <;> simp [and]

@[simp] theorem ofBool_eq_yes {b : Bool} : ofBool b = yes ↔ b = true := by
  cases b <;> simp [ofBool]

@[simp] theorem all_singleton : all [t] = t := and_yes

@[simp] theorem any_singleton : any [t] = t := or_no

theorem all_append : all (ts ++ us) = (all ts).and (all us) := by
  induction ts with
  | nil => exact yes_and.symm
  | cons t ts ih => exact (congrArg t.and ih).trans and_assoc.symm

theorem any_append : any (ts ++ us) = (any ts).or (any us) := by
  induction ts with
  | nil => exact no_or.symm
  | cons t ts ih => exact (congrArg t.or ih).trans or_assoc.symm

/-- A conjunction is met when every part is. -/
theorem all_eq_yes : all ts = yes ↔ ∀ t ∈ ts, t = yes := by
  induction ts with
  | nil => simp [all]
  | cons t ts ih => rw [List.forall_mem_cons, ← ih, ← and_eq_yes, all, all, List.foldr_cons]

/-- The negation of a disjunction is the conjunction of the negations. -/
theorem not_any : (any ts).not = all (ts.map not) := by
  induction ts with
  | nil => rfl
  | cons t ts ih => exact not_or.trans (congrArg t.not.and ih)

end Truth

/-! ## Values -/

/-- A value of a column, or the missing value. -/
abbrev Cell (V : Type) := Option V

/-- What a sign says of the outcome of a three-way comparison. -/
def Comparison.test : Comparison → Ordering → Bool
  | eq, o => o.isEq
  | ne, o => o.isNe
  | lt, o => o.isLT
  | le, o => o.isLE
  | gt, o => o.isGT
  | ge, o => o.isGE

/-- The truth of a comparison. -/
def Comparison.truthValue {V : Type} [Ord V] (op : Comparison) : Cell V → Cell V → Truth
  | some x, some y => .ofBool (op.test (compare x y))
  | _, _ => .unknown

section Comparisons

variable {V : Type} [Ord V] {x y : Cell V}

theorem Comparison.not_eq : (Comparison.eq.truthValue x y).not = Comparison.ne.truthValue x y := by
  rcases x with _ | x <;> rcases y with _ | y
  iterate 3 rfl
  simp only [truthValue, Truth.not_ofBool, test]
  cases compare x y <;> rfl

theorem Comparison.not_ge : (Comparison.ge.truthValue x y).not = Comparison.lt.truthValue x y := by
  rcases x with _ | x <;> rcases y with _ | y
  iterate 3 rfl
  simp only [truthValue, Truth.not_ofBool, test]
  cases compare x y <;> rfl

theorem Comparison.not_le : (Comparison.le.truthValue x y).not = Comparison.gt.truthValue x y := by
  rcases x with _ | x <;> rcases y with _ | y
  iterate 3 rfl
  simp only [truthValue, Truth.not_ofBool, test]
  cases compare x y <;> rfl

end Comparisons

/-! ## Databases and atoms -/

/-- A database, with the meaning of constants: which rows the relation behind each symbol has, and the value
of each constant other than the missing value. -/
structure Database (V : Type) where
  /-- The rows of a relation. -/
  rows : Predicate → List (Cell V) → Bool
  /-- The value of a constant. -/
  constant : Constant → V

namespace Database

variable {V : Type} (D : Database V)

/-- The value of a constant; the missing value stands for itself. -/
def constantValue : Constant → Cell V
  | .null => none
  | c => some (D.constant c)

/-- The value of a term under values of the variables. -/
def termValue (ν : Variable → Cell V) : Term → Cell V
  | .var v => ν v
  | .const c => D.constantValue c

end Database

namespace Formula

variable {V τ : Type} [Ord V] (D : Database V) (value : τ → Cell V)

mutual

/-- The truth of a formula whose arguments have values. -/
def truthValue : Formula τ → Truth
  | .data p args => .ofBool (D.rows p (args.map value))
  | .compare op left right => op.truthValue (value left) (value right)
  | .isNull negated arg => .ofBool ((value arg).isNone != negated)
  | .not f => (truthValue f).not
  | .and fs => .all (truthValues fs)
  | .or fs => .any (truthValues fs)
  | .truth b => .ofBool b

/-- The truth of each of several formulas. -/
def truthValues : List (Formula τ) → List Truth
  | [] => []
  | f :: fs => truthValue f :: truthValues fs

end

theorem truthValues_eq_map (fs : List (Formula τ)) : truthValues D value fs = fs.map (truthValue D value) := by
  induction fs with
  | nil => rfl
  | cons f fs ih => rw [truthValues, ih, List.map_cons]

theorem truthValue_conjunction (fs : List (Formula τ)) :
    (conjunction fs).truthValue D value = .all (fs.map (truthValue D value)) := by
  match fs with
  | [f] => exact Truth.all_singleton.symm
  | [] => rfl
  | f :: g :: fs => exact congrArg Truth.all (truthValues_eq_map D value _)

theorem truthValue_disjunction (fs : List (Formula τ)) :
    (disjunction fs).truthValue D value = .any (fs.map (truthValue D value)) := by
  match fs with
  | [f] => exact Truth.any_singleton.symm
  | [] => rfl
  | f :: g :: fs => exact congrArg Truth.any (truthValues_eq_map D value _)

variable {D value}

/-- A range is its two comparisons, and outside of it one of their opposites holds. -/
theorem truthValue_range (negated : Bool) (t low high : τ) :
    (if negated then disjunction [.compare .lt t low, .compare .gt t high]
      else conjunction [.compare .ge t low, .compare .le t high] : Formula τ).truthValue D value =
      if negated then ((Comparison.ge.truthValue (value t) (value low)).and
        (Comparison.le.truthValue (value t) (value high))).not
      else (Comparison.ge.truthValue (value t) (value low)).and
        (Comparison.le.truthValue (value t) (value high)) := by
  cases negated with
  | false =>
    simp only [Bool.false_eq_true, if_false, truthValue_conjunction, truthValue, Truth.all, List.map_cons,
      List.map_nil, List.foldr_cons, List.foldr_nil, Truth.and_yes]
  | true =>
    simp only [if_true, truthValue_disjunction, truthValue, Truth.any, List.map_cons, List.map_nil,
      List.foldr_cons, List.foldr_nil, Truth.or_no, Truth.not_and, Comparison.not_ge, Comparison.not_le]

/-- A list is its equations, and outside of it all their opposites hold. -/
theorem truthValue_members (negated : Bool) (t : τ) (items : List τ) :
    (if negated then conjunction (items.map (.compare .ne t))
      else disjunction (items.map (.compare .eq t)) : Formula τ).truthValue D value =
      if negated then (Truth.any ((items.map value).map (Comparison.eq.truthValue (value t)))).not
      else Truth.any ((items.map value).map (Comparison.eq.truthValue (value t))) := by
  cases negated with
  | false =>
    rw [if_neg Bool.false_ne_true, if_neg Bool.false_ne_true, truthValue_disjunction, List.map_map,
      List.map_map]
    rfl
  | true =>
    rw [if_pos rfl, if_pos rfl, truthValue_conjunction, Truth.not_any, List.map_map, List.map_map,
      List.map_map]
    refine congrArg Truth.all (List.map_congr_left fun u _ => ?_)
    exact Comparison.not_eq.symm

end Formula

end FromClause
