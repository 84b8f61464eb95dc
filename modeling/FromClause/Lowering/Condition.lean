import FromClause.Folding
import FromClause.Relation.Join
import FromClause.Sql.Printer
import FromClause.Text.Digits
/-!
# Join conditions

An ON expression as atoms over the joined source. The conjuncts at the top become atoms of their own; below
that, a chain of one connective becomes one atom with all its operands. Ranges and lists are spelled out as
comparisons. What the atoms cannot express is refused, with the text of the smallest part at fault.
-/

namespace FromClause

open Sql

/-! ## Terms -/

/-- The least whole number that is kept as a number. -/
def minInteger : Int := -Int.pow 2 63

/-- The greatest whole number that is kept as a number. -/
def maxInteger : Int := Int.pow 2 63 - 1

/-- The constant for a number. A whole number in range is one; any other number stays as written. Only an expression
that does not come from a text has numbers with a sign of their own. -/
def numberConstant (negative : Bool) (digits : String) : Constant :=
  let written := if negative then "-" ++ digits else digits
  match Text.integer? written.toList with
  | none => .decimal written
  | some value => if minInteger ≤ value ∧ value ≤ maxInteger then .integer value else .decimal written

/-- The constant for a literal, if it has one. -/
def literalConstant? : Literal → Option Constant
  | .number digits _ => some (numberConstant false digits)
  | .string value | .doubleQuoted value => some (.string value)
  | .boolean value => some (.boolean value)
  | .null => some .null
  | .other _ => none

/-- The error that an expression cannot be expressed. -/
def inexpressible {α : Type} (e : Expr) : Except JoinError α := .error (.unsupported e.text)

/-- The identifier for a name in a condition. -/
def conditionName (folding : Folding) (n : Name) : Except JoinError Identifier :=
  (folding.identifier n.value n.quote.isSome).mapError fun e => .unsupported e.message

/-- The reference that one to three names with points between them make. -/
def columnReference (folding : Folding) : List Name → Except JoinError Reference
  | [column] => return .bare (← conditionName folding column)
  | [table, column] => do
    let table ← conditionName folding table
    return .qualified (.bare table) (← conditionName folding column)
  | [schema, table, column] => do
    let schema ← conditionName folding schema
    let table ← conditionName folding table
    return .qualified ⟨some schema, table⟩ (← conditionName folding column)
  | names =>
    .error (.unsupported
      ("column reference '" ++ ".".intercalate (names.map Name.value) ++ "'"))

/-- The term for an expression over a source. -/
def conditionTerm (folding : Folding) (source : Expression) : Expr → Except JoinError Term
  | .nested inner => conditionTerm folding source inner
  | .column names => do
    let reference ← columnReference folding names
    return .var (← source.resolve reference)
  | .literal value =>
    match literalConstant? value with
    | some c => .ok (.const c)
    | none => inexpressible (.literal value)
  | .unary .minus (.literal (.number digits _)) => .ok (.const (numberConstant true digits))
  | e => inexpressible e

/-! ## Atoms -/

/-- Where an expression stands in a condition. -/
inductive Place where
  /-- Among the conjuncts of the whole condition. -/
  | top
  /-- Among the operands of a conjunction below the top. -/
  | conjunct
  /-- Among the operands of a disjunction. -/
  | disjunct
  /-- By itself. -/
  | alone
  deriving DecidableEq, Repr

/-- The place of the operands of a conjunction. -/
def Place.conjuncts : Place → Place
  | top => top
  | _ => conjunct

/-- What the operands of a conjunction come to: at the top and in a longer conjunction they stay apart. -/
def Place.conjoined : Place → List Atom → List Atom
  | top, atoms | conjunct, atoms => atoms
  | _, atoms => [.conjunction atoms]

/-- What the operands of a disjunction come to: in a longer disjunction they stay apart. -/
def Place.disjoined : Place → List Atom → List Atom
  | disjunct, atoms => atoms
  | _, atoms => [.disjunction atoms]

/-- The place of an expression in brackets. Brackets count for nothing at the top and end a chain below. -/
def Place.bracketed : Place → Place
  | top => top
  | _ => alone

/-- The atoms for an expression at a place. There is one of them, unless the expression is a chain that the
place continues. -/
def conditionAtoms (folding : Folding) (source : Expression) (place : Place) :
    Expr → Except JoinError (List Atom)
  | .nested inner => conditionAtoms folding source place.bracketed inner
  | .binary .and left right => do
    let l ← conditionAtoms folding source place.conjuncts left
    let r ← conditionAtoms folding source place.conjuncts right
    return place.conjoined (l ++ r)
  | .binary .or left right => do
    let l ← conditionAtoms folding source .disjunct left
    let r ← conditionAtoms folding source .disjunct right
    return place.disjoined (l ++ r)
  | .binary (.compare op) left right => do
    let l ← conditionTerm folding source left
    let r ← conditionTerm folding source right
    return [.compare op l r]
  | .unary .not inner => do
    let atoms ← conditionAtoms folding source .alone inner
    return [.not (.conjunction atoms)]
  | .isNull negated operand => do
    let t ← conditionTerm folding source operand
    return [.isNull negated t]
  | .between negated operand low high => do
    let t ← conditionTerm folding source operand
    let low ← conditionTerm folding source low
    let high ← conditionTerm folding source high
    return [if negated then .disjunction [.compare .lt t low, .compare .gt t high]
      else .conjunction [.compare .ge t low, .compare .le t high]]
  | .inList negated _ [] => return [.truth negated]
  | .inList negated operand (item :: items) => do
    let t ← conditionTerm folding source operand
    let values ← (item :: items).mapM (conditionTerm folding source)
    return [if negated then .conjunction (values.map (.compare .ne t))
      else .disjunction (values.map (.compare .eq t))]
  | .literal (.boolean value) => return [.truth value]
  | e => inexpressible e

/-- An ON expression with the folding of the names in it. -/
structure SqlCondition where
  /-- The expression. -/
  expr : Expr
  /-- How its names are normalised. -/
  folding : Folding

instance : JoinCondition SqlCondition :=
  ⟨fun condition source => conditionAtoms condition.folding source .top condition.expr⟩

end FromClause
