import FromClause.Yaml.Meaning
import FromClause.Yaml.Node
/-!
# Records

Reading values of known shape from a document. Where a string is wanted, every scalar is one, whatever it would
mean elsewhere. Where a collection is wanted, a value that is left out is an empty one. A record has no fields
but the known ones, and none of them twice.
-/

namespace FromClause

namespace Yaml

namespace Node

/-- The text of a scalar. -/
def text? : Node → Option String
  | scalar s => some s.text
  | _ => none

/-- The text of a scalar, or nothing for a missing value. -/
def optionalText? : Node → Option (Option String)
  | scalar s => some (if s.meaning = .null then none else some s.text)
  | _ => none

/-- The items of a sequence. -/
def items? : Node → Option (List Node)
  | sequence items => some items
  | scalar s => if s = .missing then some [] else none
  | mapping _ => none

/-- The entries of a mapping. -/
def entries? : Node → Option (List (Node × Node))
  | mapping entries => some entries
  | scalar s => if s = .missing then some [] else none
  | sequence _ => none

/-- The fields of a record. -/
def fields? (known : List String) (n : Node) : Option (List (String × Node)) := do
  let fields ← (← n.entries?).mapM fun e => do return (← e.1.text?, e.2)
  let names := fields.map Prod.fst
  guard (names.all known.contains && decide names.Nodup)
  return fields

/-- The value of a field, or what stands for it when there is no such field. -/
def field? {α : Type} (fields : List (String × Node)) (name : String) (read : Node → Option α)
    (default : Option α) : Option α :=
  match fields.lookup name with
  | some value => read value
  | none => default

mutual

/-- Whether every scalar in a node has a property. -/
def all (p : Scalar → Bool) : Node → Bool
  | scalar s => p s
  | sequence items => allItems p items
  | mapping entries => allEntries p entries

/-- Whether every scalar in some items has a property. -/
def allItems (p : Scalar → Bool) : List Node → Bool
  | [] => true
  | item :: items => all p item && allItems p items

/-- Whether every scalar in some entries has a property. -/
def allEntries (p : Scalar → Bool) : List (Node × Node) → Bool
  | [] => true
  | (key, value) :: entries => all p key && all p value && allEntries p entries

end

end Node

end Yaml

end FromClause
