import FromClause.Catalog.Basic
import FromClause.Logic.Supply
import FromClause.Lowering.Condition
import FromClause.Relation.JoinTree
import FromClause.Sql.Parser.Statement
/-!
# Lowering FROM clauses

A statement is lowered against a catalog: each table becomes a leaf with fresh variables for its columns,
the joins become a tree over the leaves, and the tree is folded into one source. Statements may share a supply
of variables; one that fails half-way has used up those that it drew.
-/

namespace FromClause

open Sql

/-- Why a text denotes no source. -/
inductive LoweringError where
  /-- The text cannot be parsed. -/
  | malformed (error : ParseError)
  /-- There is no statement. -/
  | empty
  /-- There are several statements. -/
  | several (count : Nat)
  /-- The statement is no plain SELECT. -/
  | statement (kind : String)
  /-- The FROM clause has a part that denotes no source. -/
  | construct (what : String)
  /-- The catalog has no such relation. -/
  | unknownRelation (relation : RelationId)
  /-- An alias names more columns than the relation has. -/
  | aliasColumns (exposed relation : RelationId) (expected given : Nat)
  /-- A join is refused. -/
  | join (error : JoinError)
  /-- A name or a column is refused. -/
  | catalog (error : CatalogError)
  deriving DecidableEq

/-- The wording of the error. -/
def LoweringError.message : LoweringError → String
  | malformed error =>
    let (line, column) := locate error.message
    let text := error.message
    s!"[S001] SQL parse error at line {line}, column {column}: {text}"
  | empty => "[S002] SQL is empty"
  | several count => s!"[S007] Expected a single statement, found {count}"
  | statement kind => s!"[S003] Unsupported SQL statement type: {kind}"
  | construct what => s!"[S004] Unsupported construct in FROM clause: {what}"
  | unknownRelation relation => s!"[S005] Unknown relation '{relation}'"
  | aliasColumns exposed relation expected given =>
    s!"[S006] Alias '{exposed}' lists {given} column(s) but '{relation}' has {expected}"
  | join error => error.message
  | catalog error => error.message

/-- The error for a text that gives no single statement. -/
def LoweringError.ofSyntax : Dialect.SyntaxError → LoweringError
  | .malformed error => malformed error
  | .empty => empty
  | .several count => several count

/-- What goes on from one step to the next, failing steps included. -/
structure Progress where
  /-- The supply of variables. -/
  supply : Supply
  /-- What there is to tell, in order. -/
  events : List Event

/-- Nothing is drawn and nothing is told yet. -/
def Progress.start : Progress := ⟨.initial, []⟩

/-- A step on the way from a text to its source. -/
abbrev Lowering (α : Type) := ExceptT LoweringError (StateM Progress) α

namespace Lowering

/-- Something is told. -/
def tell (events : List Event) : Lowering Unit :=
  modify fun p => { p with events := p.events ++ events }

/-! ## Names -/

/-- The identifier for a name. -/
def identifier (folding : Folding) (n : Name) : Except LoweringError Identifier :=
  (folding.identifier n.value n.quote.isSome).mapError fun e => .catalog (.name e)

/-- The plain names that make up the name of a table. -/
def plainNames (name : ObjectName) : Except LoweringError (List Name) :=
  name.mapM fun
    | .name n => .ok n
    | .computed _ => .error (.construct ("object name '" ++ name.text ++ "'"))

/-- The relation id that the name of a table refers to. -/
def relationId (folding : Folding) (name : ObjectName) : Except LoweringError RelationId := do
  match ← plainNames name with
  | [table] => return .bare (← identifier folding table)
  | [schema, table] =>
    let schema ← identifier folding schema
    return ⟨some schema, ← identifier folding table⟩
  | names => throw (.construct s!"relation name with {names.length} parts")

/-- The column that a name in a USING list refers to. -/
def usingColumn (folding : Folding) (name : ObjectName) : Except LoweringError Identifier := do
  match ← plainNames name with
  | [column] => identifier folding column
  | _ => throw (.construct ("qualified USING column '" ++ name.text ++ "'"))

/-! ## Leaves -/

/-- The first column that equals one before it. -/
def firstDuplicate? (columns : List Identifier) : Option Identifier :=
  (columns.zipIdx.find? fun c => (columns.take c.2).contains c.1).map (·.1)

/-- The columns with the first ones renamed. -/
def renamed (columns new : List Identifier) : List Identifier := new ++ columns.drop new.length

/-- The name under which a table is exposed and the names of its columns there. -/
def exposure (folding : Folding) (d : Definition) (label : Option TableAlias) :
    Except LoweringError (Option RelationId × List Identifier) := do
  let columns := d.columns.map Column.name
  match label with
  | none => return (none, columns)
  | some a =>
    let qualifier := RelationId.bare (← identifier folding a.name)
    if columns.length < a.columns.length then
      throw (.aliasColumns qualifier d.id columns.length a.columns.length)
    let new ← a.columns.mapM fun c => identifier folding c.name
    return (some qualifier, renamed columns new)

/-- Fresh variables for some columns. -/
def bind (columns : List Identifier) : Lowering (List (Identifier × Variable)) := do
  let p ← get
  let (bound, supply) := p.supply.bind columns
  set (⟨supply, p.events ++ (p.supply.allPassedOver columns).map .nameTaken⟩ : Progress)
  return bound

/-- The leaf for a table of the catalog. -/
def leaf (c : Catalog) (name : ObjectName) (label : Option TableAlias) : Lowering Leaf := do
  let reference ← relationId c.folding name
  let found := c.lookup reference
  tell (found.events reference)
  match found.definition? with
  | none => throw (.unknownRelation reference)
  | some d =>
    let (qualifier, columns) ← exposure c.folding d label
    if let some column := firstDuplicate? columns then
      throw (.catalog (.duplicateColumn (qualifier.getD d.id) column))
    let bound ← bind columns
    let leaf := match qualifier with
      | some label => Leaf.aliased d.id label bound
      | none => Leaf.catalog d.id bound
    tell [leaf.event]
    return leaf

/-! ## Trees -/

/-- The kind of join that a join operator stands for. -/
def joinKind (folding : Folding) (operator : JoinOperator) :
    Except LoweringError (JoinKind SqlCondition) :=
  match operator.family with
  | .cross => .ok .cross
  | .outer => .error (.construct "outer join")
  | .other => .error (.construct "join operator other than inner, cross or natural")
  | .inner =>
    match operator.constraint with
    | .on condition => .ok (.on ⟨condition, folding⟩)
    | .using columns => do return .using (← columns.mapM (usingColumn folding))
    | .natural => .ok .natural
    | .none => .ok .cross

/-- A tree of joins over tables of the catalog. -/
abbrev Tree := JoinTree Leaf SqlCondition

mutual

/-- The tree for a single source. -/
def factorTree (c : Catalog) : TableFactor → Lowering Tree
  | .table name none label => do return .leaf (← leaf c name label)
  | .table name (some _) _ => throw (.construct ("table function '" ++ name.text ++ "'"))
  | .nested item none => itemTree c item
  | .nested _ (some label) =>
    throw (.construct ("alias '" ++ label.name.text ++ "' on a parenthesized join"))
  | .derived .. => throw (.construct "derived table")
  | .other text label => throw (.construct ("table factor '" ++ withAlias text label ++ "'"))

/-- The tree for an item of a FROM clause. -/
def itemTree (c : Catalog) : TableItem → Lowering Tree
  | .factor source => factorTree c source
  | .join left operator right => do
    let l ← itemTree c left
    let r ← factorTree c right
    let kind ← joinKind c.folding operator
    return .join kind l r

end

/-- The tree for the items of a FROM clause, which are cross joined from left to right. -/
def itemsTree (c : Catalog) : List TableItem → Lowering Tree
  | [] => throw (.construct "query without FROM clause")
  | first :: rest => do
    let tree ← itemTree c first
    rest.foldlM (fun tree item => do return .join .cross tree (← itemTree c item)) tree

/-! ## Statements -/

/-- The source that a tree denotes. -/
def evaluate (tree : Tree) : Lowering Expression := do
  let tree := tree.map Leaf.expression
  tell tree.events
  match tree.fold with
  | .ok e => return e
  | .error e => throw (.join e)

/-- The source that the FROM clause of a SELECT denotes. -/
def select (c : Catalog) (s : Select) : Lowering Expression := do
  let tree ← itemsTree c s.items
  tell [.treeBuilt tree.leafCount]
  evaluate tree

/-- The SELECT that a statement is. -/
def plainSelect : Statement → Except LoweringError Select
  | .query q =>
    match q.body with
    | .select s => .ok s
    | .other => .error (.statement "set operation or VALUES")
  | .command kind => .error (.statement kind.text)

/-- The source that the FROM clause of a statement denotes. -/
def statement (c : Catalog) (s : Statement) : Lowering Expression := do
  select c (← plainSelect s)

/-- The only statement of a text. -/
def parse (d : Dialect) (text : String) : Lowering Statement :=
  match d.parseSingle text with
  | .ok s => return s
  | .error e => throw (.ofSyntax e)

/-- The source that the FROM clause of the only statement of a text denotes. -/
def text (d : Dialect) (c : Catalog) (text : String) : Lowering Expression := do
  statement c (← parse d text)

end Lowering

end FromClause
