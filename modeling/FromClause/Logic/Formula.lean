import FromClause.Logic.Term
/-!
# Atoms

The conjuncts of a source: a relation applied to its arguments, a comparison, a test for the missing value,
and what negation, conjunction and disjunction make of these. The type leaves open what stands at an argument
place; `Atom` fixes it to terms.
-/

namespace FromClause

/-- The symbol of a relation, with the number of its arguments. -/
structure Predicate where
  /-- The name of the symbol. -/
  name : String
  /-- The number of arguments. -/
  arity : Nat
  deriving DecidableEq, Repr

/-- The symbol for a relation of the catalog. -/
def Predicate.ofRelation (relation : RelationId) (arity : Nat) : Predicate :=
  ⟨relation.text, arity⟩

/-- A comparison of two values. -/
inductive Comparison where
  /-- Equal. -/
  | eq
  /-- Different. -/
  | ne
  /-- Less. -/
  | lt
  /-- Less or equal. -/
  | le
  /-- Greater. -/
  | gt
  /-- Greater or equal. -/
  | ge
  deriving DecidableEq, Repr

/-- The sign of a comparison. -/
def Comparison.symbol : Comparison → String
  | eq => "="
  | ne => "<>"
  | lt => "<"
  | le => "<="
  | gt => ">"
  | ge => ">="

/-- A conjunct whose argument places hold values of type `τ`. -/
inductive Formula (τ : Type) where
  /-- A relation applied to arguments, in the declared order of its columns. -/
  | data (predicate : Predicate) (args : List τ)
  /-- A comparison of two arguments. -/
  | compare (op : Comparison) (left right : τ)
  /-- The test that an argument is missing, or that it is not. -/
  | isNull (negated : Bool) (arg : τ)
  /-- A negation. -/
  | not (inner : Formula τ)
  /-- A conjunction inside a negation or a disjunction. -/
  | and (parts : List (Formula τ))
  /-- A disjunction. -/
  | or (parts : List (Formula τ))
  /-- A truth value used as a condition. -/
  | truth (value : Bool)

/-- A conjunct over variables and constants. -/
abbrev Atom := Formula Term

namespace Formula

variable {τ σ ε : Type}

/-! ## Equality -/

mutual

/-- Whether two formulas are the same. -/
def same [DecidableEq τ] : Formula τ → Formula τ → Bool
  | .data p xs, .data q ys => p = q && xs = ys
  | .compare o x y, .compare o' x' y' => o = o' && x = x' && y = y'
  | .isNull b x, .isNull b' x' => b = b' && x = x'
  | .not f, .not g => same f g
  | .and fs, .and gs => sameAll fs gs
  | .or fs, .or gs => sameAll fs gs
  | .truth b, .truth b' => b = b'
  | _, _ => false

/-- Whether two lists hold the same formulas in the same places. -/
def sameAll [DecidableEq τ] : List (Formula τ) → List (Formula τ) → Bool
  | [], [] => true
  | f :: fs, g :: gs => same f g && sameAll fs gs
  | _, _ => false

end

mutual

theorem same_iff [DecidableEq τ] : ∀ f g : Formula τ, same f g = true ↔ f = g
  | .data p xs, g => by cases g <;> simp [same]
  | .compare o x y, g => by cases g <;> simp [same, and_assoc]
  | .isNull b x, g => by cases g <;> simp [same]
  | .not f, g => by cases g <;> simp [same, same_iff f]
  | .and fs, g => by cases g <;> simp [same, sameAll_iff fs]
  | .or fs, g => by cases g <;> simp [same, sameAll_iff fs]
  | .truth b, g => by cases g <;> simp [same]

theorem sameAll_iff [DecidableEq τ] : ∀ fs gs : List (Formula τ), sameAll fs gs = true ↔ fs = gs
  | [], gs => by cases gs <;> simp [sameAll]
  | f :: fs, gs => by cases gs <;> simp [sameAll, same_iff f, sameAll_iff fs]

end

instance [DecidableEq τ] : DecidableEq (Formula τ) := fun f g =>
  decidable_of_iff _ (same_iff f g)

/-! ## Construction -/

/-- The formula that two arguments are equal. -/
def equality (left right : τ) : Formula τ := .compare .eq left right

/-- The conjunction of some formulas. A single one stands for itself. -/
def conjunction : List (Formula τ) → Formula τ
  | [f] => f
  | fs => .and fs

/-- The disjunction of some formulas. A single one stands for itself. -/
def disjunction : List (Formula τ) → Formula τ
  | [f] => f
  | fs => .or fs

/-! ## Arguments -/

mutual

/-- The arguments in order of appearance. -/
def arguments : Formula τ → List τ
  | .data _ args => args
  | .compare _ left right => [left, right]
  | .isNull _ arg => [arg]
  | .not f => f.arguments
  | .and fs => argumentsOf fs
  | .or fs => argumentsOf fs
  | .truth _ => []

/-- The arguments of several formulas in order of appearance. -/
def argumentsOf : List (Formula τ) → List τ
  | [] => []
  | f :: fs => f.arguments ++ argumentsOf fs

end

/-- The variables of an atom in order of appearance. -/
def vars (atom : Atom) : List Variable := atom.arguments.filterMap Term.asVariable

mutual

/-- The formula with every argument replaced, from left to right; the first replacement that fails is the
failure of the whole. -/
def mapArgs (f : τ → Except ε σ) : Formula τ → Except ε (Formula σ)
  | .data p args => return .data p (← args.mapM f)
  | .compare op left right => return .compare op (← f left) (← f right)
  | .isNull negated arg => return .isNull negated (← f arg)
  | .not inner => return .not (← inner.mapArgs f)
  | .and fs => return .and (← mapArgsOf f fs)
  | .or fs => return .or (← mapArgsOf f fs)
  | .truth value => return .truth value

/-- Several formulas with every argument replaced. -/
def mapArgsOf (f : τ → Except ε σ) : List (Formula τ) → Except ε (List (Formula σ))
  | [] => return []
  | g :: gs => return (← g.mapArgs f) :: (← mapArgsOf f gs)

end

/-! ## Text -/

mutual

/-- The formula as it is printed. Conjunctions and disjunctions stand in brackets, negations do not. -/
def text [ToString τ] : Formula τ → String
  | .data p args => p.name ++ "(" ++ ", ".intercalate (args.map toString) ++ ")"
  | .compare op left right => toString left ++ " " ++ op.symbol ++ " " ++ toString right
  | .isNull negated arg => toString arg ++ if negated then " IS NOT NULL" else " IS NULL"
  | .not f => "NOT " ++ f.text
  | .and fs => "(" ++ " AND ".intercalate (texts fs) ++ ")"
  | .or fs => "(" ++ " OR ".intercalate (texts fs) ++ ")"
  | .truth value => truthWord value

/-- Several formulas as they are printed. -/
def texts [ToString τ] : List (Formula τ) → List String
  | [] => []
  | f :: fs => f.text :: texts fs

end

instance [ToString τ] : ToString (Formula τ) := ⟨text⟩

end Formula

end FromClause
