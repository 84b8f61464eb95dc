import FromClause.Identifier
/-!
# Terms

What stands at an argument place of an atom: a variable, which stands for one column of one table reference,
or a constant of a condition.
-/

namespace FromClause

/-- A variable, standing for one column of one table reference. Its name is not empty. -/
@[ext] structure Variable where
  /-- The name. -/
  name : String
  /-- No name is empty. -/
  name_ne : name ≠ ""

namespace Variable

instance : DecidableEq Variable := fun _ _ => decidable_of_iff _ Variable.ext_iff.symm

/-- The variable with the given name, if the name is not empty. -/
def ofName? (name : String) : Option Variable :=
  if h : name ≠ "" then some ⟨name, h⟩ else none

instance : ToString Variable := ⟨name⟩

end Variable

/-- A constant of a condition. -/
inductive Constant where
  /-- A whole number. -/
  | integer (value : Int)
  /-- Any other number, as it is written. -/
  | decimal (digits : String)
  /-- A text. -/
  | string (value : String)
  /-- A truth value. -/
  | boolean (value : Bool)
  /-- The missing value. -/
  | null
  deriving DecidableEq, Repr

/-- The keyword for a truth value. -/
def truthWord (value : Bool) : String := if value then "TRUE" else "FALSE"

/-- A text between single quotes, with those inside it doubled. -/
def quoteString (value : String) : String :=
  "'" ++ String.ofList (value.toList.flatMap fun c => if c = '\'' then [c, c] else [c]) ++ "'"

/-- The constant as it is written in a condition. -/
def Constant.text : Constant → String
  | integer value => toString value
  | decimal digits => digits
  | string value => quoteString value
  | boolean value => truthWord value
  | null => "NULL"

instance : ToString Constant := ⟨Constant.text⟩

/-- An argument of an atom. -/
inductive Term where
  /-- A variable. -/
  | var (v : Variable)
  /-- A constant. -/
  | const (c : Constant)
  deriving DecidableEq

namespace Term

/-- The term as it is printed. -/
def text : Term → String
  | var v => v.name
  | const c => c.text

instance : ToString Term := ⟨text⟩

/-- The variable that the term is, if it is one. -/
def asVariable : Term → Option Variable
  | var v => some v
  | const _ => none

end Term

end FromClause
