import FromClause.Event
import FromClause.Logic.Formula
import FromClause.Relation.Dictionary
import FromClause.Relation.Scope
/-!
# Relational expressions

A source of rows as a list of atoms, with the dictionary that resolves column references over it and the scope
that tells which of them are ambiguous. A leaf is one table reference; `Leaf.expression` is the source that it
denotes.
-/

namespace FromClause

/-- A source of rows. -/
structure Expression where
  /-- The conjuncts in order of contribution. -/
  atoms : List Atom
  /-- The variables of the column references. -/
  dictionary : Dictionary
  /-- The relations behind each column name. -/
  scope : Scope
  deriving DecidableEq

/-- Why two sources cannot be joined, or a condition not be read over them. -/
inductive JoinError where
  /-- A relation qualifies columns of both sources. -/
  | sharedRelation (relation : RelationId)
  /-- A join column is ambiguous in one of the sources. -/
  | ambiguousColumn (column : Identifier)
  /-- A join column is missing from one of the sources. -/
  | unknownColumn (column : Identifier)
  /-- A condition refers to a column that is not there. -/
  | unresolved (reference : Reference)
  /-- A condition refers to a column that several relations expose. -/
  | ambiguous (reference : Reference)
  /-- A condition has a part that no atom expresses. -/
  | unsupported (text : String)
  deriving DecidableEq

/-- The wording of the error. -/
def JoinError.message : JoinError → String
  | sharedRelation relation =>
    s!"[J001] Relation '{relation}' occurs in both arguments of the join"
  | ambiguousColumn column => s!"[J002] Ambiguous join column '{column}'"
  | unknownColumn column => s!"[J003] Unknown join column '{column}'"
  | unresolved reference => s!"[J004] Cannot resolve column reference '{reference}'"
  | ambiguous reference => s!"[J005] Column reference '{reference}' is ambiguous"
  | unsupported text => s!"[J006] Unsupported join condition: {text}"

namespace Expression

/-- The relations that qualify columns of the source. -/
def relations (e : Expression) : SortedSet RelationId := e.dictionary.relations

/-- The variable that a column reference denotes. -/
def resolve (e : Expression) (reference : Reference) : Except JoinError Variable :=
  match e.dictionary.get? reference with
  | some v => .ok v
  | none =>
    if !reference.isQualified && e.scope.isAmbiguous reference.column then
      .error (.ambiguous reference)
    else .error (.unresolved reference)

/-- The source with more conjuncts. -/
def addAtoms (e : Expression) (atoms : List Atom) : Expression :=
  { e with atoms := e.atoms ++ atoms }

/-- The source as it is printed. -/
def text (e : Expression) : String :=
  "[" ++ ", ".intercalate (Formula.texts e.atoms) ++ "] with " ++ e.dictionary.text ++ " over " ++
    e.scope.text

/-! ## Leaves -/

/-- The source of one relation under an alias. Each column is found under the alias and by its bare name. -/
def ofAliased (relation exposed : RelationId) (columns : List (Identifier × Variable)) :
    Expression where
  atoms := [.data (.ofRelation relation columns.length) (columns.map fun c => .var c.2)]
  dictionary :=
    columns.foldl (fun d c => (d.insert (.qualified exposed c.1) c.2).insert (.bare c.1) c.2) ∅
  scope := columns.foldl (fun s c => s.expose c.1 (.ofList [exposed])) ∅

/-- The source of one relation under its own name. -/
def ofBase (relation : RelationId) (columns : List (Identifier × Variable)) : Expression :=
  ofAliased relation relation columns

/-- The source of a relation of the catalog. One with a schema answers to its table name as well; that name
does not count as another relation in scope. -/
def ofCatalog (relation : RelationId) (columns : List (Identifier × Variable)) : Expression :=
  let e := ofBase relation columns
  if relation.hasSchema then
    { e with
      dictionary := columns.foldl
        (fun d c => d.insert (.qualified (.bare relation.table) c.1) c.2) e.dictionary }
  else e

end Expression

/-- A table reference, with the variables that its columns are bound to. -/
inductive Leaf where
  /-- A relation under its own name. -/
  | base (relation : RelationId) (columns : List (Identifier × Variable))
  /-- A relation of the catalog without an alias. -/
  | catalog (relation : RelationId) (columns : List (Identifier × Variable))
  /-- A relation under an alias. -/
  | aliased (relation exposed : RelationId) (columns : List (Identifier × Variable))

namespace Leaf

/-- The source that a table reference denotes. -/
def expression : Leaf → Expression
  | base relation columns => .ofBase relation columns
  | catalog relation columns => .ofCatalog relation columns
  | aliased relation exposed columns => .ofAliased relation exposed columns

/-- What is to be told about a table reference. -/
def event : Leaf → Event
  | base relation columns | catalog relation columns => .leaf relation relation columns.length
  | aliased relation exposed columns => .leaf relation exposed columns.length

end Leaf

end FromClause
