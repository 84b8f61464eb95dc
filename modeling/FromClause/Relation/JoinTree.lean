import FromClause.Relation.Join
/-!
# Join trees

A FROM clause before it is evaluated: table references at the leaves, joins at the inner nodes. Folding the
tree evaluates it from the leaves up, the left side of a join before the right one.
-/

namespace FromClause

/-- A tree of joins with conditions of type `κ` over leaves of type `α`. -/
inductive JoinTree (α κ : Type) where
  /-- One table reference. -/
  | leaf (source : α)
  /-- The join of two trees. -/
  | join (kind : JoinKind κ) (left right : JoinTree α κ)

namespace JoinTree

variable {α β κ : Type}

/-- The leaves from left to right. -/
def leaves : JoinTree α κ → List α
  | leaf source => [source]
  | join _ left right => left.leaves ++ right.leaves

/-- The number of leaves. -/
def leafCount : JoinTree α κ → Nat
  | leaf _ => 1
  | join _ left right => left.leafCount + right.leafCount

/-- The kinds of join, each before those below it. -/
def kinds : JoinTree α κ → List (JoinKind κ)
  | leaf _ => []
  | join kind left right => kind :: (left.kinds ++ right.kinds)

/-- The same tree over other leaves. -/
def map (f : α → β) : JoinTree α κ → JoinTree β κ
  | leaf source => leaf (f source)
  | join kind left right => join kind (left.map f) (right.map f)

/-- The source that a tree of sources denotes. -/
def fold [JoinCondition κ] : JoinTree Expression κ → Except JoinError Expression
  | leaf source => .ok source
  | join kind left right => do
    let l ← left.fold
    let r ← right.fold
    l.join r kind

/-- What is to be told about the folding of a tree. -/
def events [JoinCondition κ] : JoinTree Expression κ → List Event
  | leaf _ => []
  | join kind left right =>
    left.events ++
      match left.fold with
      | .error _ => []
      | .ok l =>
        right.events ++
          match right.fold with
          | .error _ => []
          | .ok r => .joining kind.text l.relations.size r.relations.size :: kind.events l r

end JoinTree

end FromClause
