import FromClause.Relation.Expression
/-!
# Joins

The joins of two sources. The cross join merges them; a condition adds atoms on top of it; USING adds
equalities and lets each joined name stand for its left column again; a natural join is USING over the names
that both sides have.
-/

namespace FromClause

/-- A condition that can be read, over the source that it is about, as a list of atoms. -/
class JoinCondition (κ : Type) where
  /-- The atoms that express the condition, in order. -/
  atoms : κ → Expression → Except JoinError (List Atom)

instance : JoinCondition (Expression → Except JoinError (List Atom)) := ⟨id⟩

/-- How two sources are combined. -/
inductive JoinKind (κ : Type) where
  /-- Every row with every row. -/
  | cross
  /-- The pairs that meet a condition. -/
  | on (condition : κ)
  /-- The pairs that agree on every name that both sides have. -/
  | natural
  /-- The pairs that agree on the given columns. -/
  | using (columns : List Identifier)

/-- The kind as it is printed. -/
def JoinKind.text {κ : Type} : JoinKind κ → String
  | cross => "CROSS"
  | on _ => "ON"
  | natural => "NATURAL"
  | .using columns => "USING (" ++ ", ".intercalate (columns.map Identifier.text) ++ ")"

namespace Expression

/-- Two sources merged. Qualified references keep their variables. A bare name is kept only where exactly one
relation of the merged scope exposes it, and denotes that relation's column. -/
def product (left right : Expression) : Expression :=
  let scope := left.scope.union right.scope
  let qualified : Dictionary :=
    .ofList (left.dictionary.qualified.entries ++ right.dictionary.qualified.entries)
  let bare := scope.names.filterMap fun name => do
    let relation ← scope.unique? name
    let v ← qualified.get? (.qualified relation name)
    return (name, v)
  { atoms := left.atoms ++ right.atoms
    dictionary := bare.foldl (fun d e => d.insert (.bare e.1) e.2) qualified
    scope }

/-- The least relation that qualifies columns of both sources. -/
def shared? (left right : Expression) : Option RelationId :=
  left.relations.toList.find? right.relations.contains

/-- The cross join. -/
def crossJoin (left right : Expression) : Except JoinError Expression :=
  match shared? left right with
  | some relation => .error (.sharedRelation relation)
  | none => .ok (product left right)

/-- The join on a condition, which is read over the cross join. -/
def joinOn {κ : Type} [JoinCondition κ] (left right : Expression) (condition : κ) :
    Except JoinError Expression := do
  let joined ← crossJoin left right
  let atoms ← JoinCondition.atoms condition joined
  return joined.addAtoms atoms

/-- The members of a list at their first places. -/
def firsts : List Identifier → List Identifier
  | [] => []
  | column :: rest => column :: (firsts rest).filter (· ≠ column)

/-- The variables of a bare name in both sources. -/
def bareVariables? (left right : Expression) (column : Identifier) :
    Except JoinError (Identifier × Variable × Variable) :=
  match left.dictionary.bare? column, right.dictionary.bare? column with
  | some x, some y => .ok (column, x, y)
  | _, _ => .error (.unknownColumn column)

/-- The join on equal columns. Each column is to be exposed by one relation of either side; its bare name
denotes the left one in the result. -/
def joinUsing (left right : Expression) (columns : List Identifier) :
    Except JoinError Expression :=
  match shared? left right with
  | some relation => .error (.sharedRelation relation)
  | none =>
    let columns := firsts columns
    match columns.find? fun c => left.scope.isAmbiguous c || right.scope.isAmbiguous c with
    | some column => .error (.ambiguousColumn column)
    | none =>
      match columns.find? fun c => !left.scope.contains c || !right.scope.contains c with
      | some column => .error (.unknownColumn column)
      | none => do
        let pairs ← columns.mapM (bareVariables? left right)
        let joined := product left right
        return {
          atoms := joined.atoms ++ pairs.map fun p => .equality (.var p.2.1) (.var p.2.2)
          dictionary := pairs.foldl (fun d p => d.insert (.bare p.1) p.2.1) joined.dictionary
          scope := joined.scope }

/-- The names that both sources have, in order. -/
def commonColumns (left right : Expression) : List Identifier := left.scope.common right.scope

/-- The join on every name that both sources have. -/
def naturalJoin (left right : Expression) : Except JoinError Expression :=
  joinUsing left right (commonColumns left right)

/-- The join of the given kind. -/
def join {κ : Type} [JoinCondition κ] (left right : Expression) :
    JoinKind κ → Except JoinError Expression
  | .cross => crossJoin left right
  | .on condition => joinOn left right condition
  | .using columns => joinUsing left right columns
  | .natural => naturalJoin left right

end Expression

/-! ## Events -/

namespace JoinKind

variable {κ : Type} [JoinCondition κ]

/-- What is to be told of USING: how many columns were equated, if it was possible. -/
def usingEvents (left right : Expression) (columns : List Identifier) : List Event :=
  match left.joinUsing right columns with
  | .ok _ => [.columnsEquated (Expression.firsts columns).length]
  | .error _ => []

/-- What is to be told of a join. -/
def events (kind : JoinKind κ) (left right : Expression) : List Event :=
  match kind with
  | cross => []
  | on condition =>
    match left.crossJoin right >>= JoinCondition.atoms condition with
    | .ok atoms => [.conditionAdded atoms.length]
    | .error _ => []
  | .using columns => usingEvents left right columns
  | natural =>
    let columns := left.commonColumns right
    .commonColumns columns.length :: usingEvents left right columns

end JoinKind

end FromClause
