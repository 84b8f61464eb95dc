import FromClause.Identifier
import FromClause.Text.Blank
import FromClause.Text.Case
/-!
# Case folding

How a written name becomes an identifier. A delimited name keeps its spelling; any other name is folded to one
case, or kept where the folding says so. `identifier` takes a name whose quotes are off already, as a statement
gives it; `read` takes the text of a catalog, where double quotes at both ends delimit the name.
-/

namespace FromClause

/-- What becomes of the letters of a name that is not delimited. -/
inductive Folding where
  /-- They turn to upper case. -/
  | upper
  /-- They turn to lower case. -/
  | lower
  /-- They stay as written. -/
  | preserve
  deriving DecidableEq, Repr

/-- A name that is empty once it is normalised. -/
inductive NameError where
  /-- Nothing is left of the name. -/
  | empty
  deriving DecidableEq, Repr

/-- The wording of the error. -/
def NameError.message : NameError → String
  | .empty => "[E006] Invalid identifier: identifier must not be empty"

namespace Folding

/-- A name that is not delimited, folded. -/
def fold : Folding → String → String
  | upper, name => Text.upper name
  | lower, name => Text.lower name
  | preserve, name => name

/-- The identifier for a name whose quotes are off; `delimited` says that there were some. -/
def identifier (folding : Folding) (name : String) (delimited : Bool) :
    Except NameError Identifier :=
  match Identifier.ofText? (if delimited then name else folding.fold name) with
  | some id => .ok id
  | none => .error .empty

/-- What stands between the double quotes at the two ends of a text. -/
def undelimited? : List Char → Option (List Char)
  | '"' :: rest => if rest.getLast? = some '"' then some rest.dropLast else none
  | _ => none

/-- A delimited name as it is meant: two double quotes in a row stand for one. -/
def undoubled : List Char → List Char
  | '"' :: '"' :: rest => '"' :: undoubled rest
  | c :: rest => c :: undoubled rest
  | [] => []

/-- The identifier for the text of a name, with blanks around it and perhaps with its quotes. -/
def read (folding : Folding) (text : String) : Except NameError Identifier :=
  let name := Text.trimChars text.toList
  match undelimited? name with
  | some inner => folding.identifier (String.ofList (undoubled inner)) true
  | none => folding.identifier (String.ofList name) false

/-- The relation id for the texts of a schema and a table. -/
def readRelation (folding : Folding) (schema : Option String) (table : String) :
    Except NameError RelationId := do
  let schema ← schema.mapM folding.read
  return ⟨schema, ← folding.read table⟩

end Folding

end FromClause
