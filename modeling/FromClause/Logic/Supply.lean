import FromClause.Logic.Term
import FromClause.Text.Case
/-!
# Fresh variables

A supply hands out variables, each for one column, and never the same one twice. A variable is named for its
column in lower case with a number behind it, and the number grows from one variable to the next. Columns may
end in digits themselves, so two of them can spell one name at different numbers; the supply remembers what it
gave away and passes over a number that would repeat a name.
-/

namespace FromClause

/-- A supply of variables, with what it has handed out so far. -/
structure Supply where
  /-- The last number used. -/
  counter : Nat
  /-- The names given away, the latest first. -/
  issued : List String
  deriving Inhabited, DecidableEq

namespace Supply

/-- The supply that has handed out nothing. -/
def initial : Supply := ⟨0, []⟩

/-- A stem with a number behind it. -/
def spell (stem : String) (number : Nat) : String := stem ++ toString number

theorem spell_ne (stem : String) (number : Nat) : spell stem number ≠ "" := by
  simp [spell, toString]

/-- The first number, from `start` on, whose name is not taken, after at most `tries` that are. -/
def firstFree (taken : List String) (stem : String) : (tries start : Nat) → Nat
  | 0, start => start
  | tries + 1, start =>
    if spell stem start ∈ taken then firstFree taken stem tries (start + 1) else start

/-- The number that the next variable for a column carries. There are only as many taken names as the supply
has handed out, so the search may stop after so many. -/
def nextNumber (supply : Supply) (column : Identifier) : Nat :=
  firstFree supply.issued (Text.lower column.text) supply.issued.length (supply.counter + 1)

/-- The names that the supply passes over before the next variable for a column. -/
def passedOver (supply : Supply) (column : Identifier) : List String :=
  (List.range' (supply.counter + 1) (supply.nextNumber column - (supply.counter + 1))).map
    (spell (Text.lower column.text))

/-- A variable for a column, and the supply without it. -/
def fresh (supply : Supply) (column : Identifier) : Variable × Supply :=
  let number := supply.nextNumber column
  let name := spell (Text.lower column.text) number
  (⟨name, spell_ne _ _⟩, ⟨number, name :: supply.issued⟩)

/-- How many variables the supply has handed out. -/
def issuedCount (supply : Supply) : Nat := supply.issued.length

/-- A variable for each of some columns, in order. -/
def bind (supply : Supply) : List Identifier → List (Identifier × Variable) × Supply
  | [] => ([], supply)
  | column :: rest =>
    let (v, supply) := supply.fresh column
    let (bound, supply) := supply.bind rest
    ((column, v) :: bound, supply)

/-- The names that the supply passes over on the way to a variable for each of some columns. -/
def allPassedOver (supply : Supply) : List Identifier → List String
  | [] => []
  | column :: rest => supply.passedOver column ++ (supply.fresh column).2.allPassedOver rest

end Supply

end FromClause
