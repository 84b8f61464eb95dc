import FromClause.Sql.Parser.Table
/-!
# Queries

The parser for queries. Of a plain SELECT the items of its FROM clause are kept; of everything else, and of
the clauses around it, only the text is.
-/

namespace FromClause

namespace Sql

namespace Parser

/-- A text with something in front, if there is one. -/
def lead (before : String) (text : Option String) : String := (text.map (before ++ ·)).getD ""

/-! ## Results -/

/-- Names in brackets, or a single name, behind a word that changes what a star stands for. -/
def starNames : Parser String := do
  if ← sign? "(" then
    let names ← list none name
    sign ")"
    return "(" ++ commaList (names.map Name.text) ++ ")"
  else return (← name).text

/-- What may follow a star, as it is printed. -/
def starOptions (d : Dialect) (l : Level) : Parser String := do
  let pattern ← if d = .duckdb then pure none else after? ["ILIKE"] literal
  let exclude ← after? ["EXCLUDE"] starNames
  let except ← if d = .generic then after? ["EXCEPT"] starNames else pure none
  let replace ← after? ["REPLACE"] (bracketed (list d.trailing do
    let e ← l.expr
    word "AS"
    return e.text ++ " AS " ++ (← name).text))
  let rename ←
    if d = .duckdb then pure none
    else after? ["RENAME"] do
      let pair : Parser String := do
        let old ← name
        word "AS"
        return old.text ++ " AS " ++ (← name).text
      if ← atSign "(" then
        let pairs ← bracketed (list d.trailing pair)
        return "(" ++ commaList pairs ++ ")"
      else pair
  return lead " ILIKE " (pattern.map Literal.text) ++ lead " EXCLUDE " exclude ++
    lead " EXCEPT " except ++ lead " REPLACE " (replace.map fun items => "(" ++ commaList items ++ ")") ++
    lead " RENAME " rename

/-- A result of a SELECT, as it is printed. A result named `from` is taken for a missing one. -/
def resultItem (d : Dialect) (l : Level) : Parser String := do
  if d = .snowflake then discard (word? "CONNECT_BY_ROOT")
  match ← starOrExpr l with
  | (true, star) => return star.text ++ (← starOptions d l)
  | (false, e) =>
    if let .column [⟨value, none⟩] := e then
      if Text.lower value = "from" then invalid ("Expected an expression, found: " ++ value)
    match ← alias? (aliasesColumn d) with
    | some (_, n) => return e.text ++ " AS " ++ n.text
    | none => return e.text

/-- The results of a SELECT, as they are printed. A last comma is allowed in every dialect. -/
def results (d : Dialect) (l : Level) : Parser String := do
  return commaList (← list (some reservedForColumn) (resultItem d l))

/-- Which of equal rows are wanted, as it is printed. -/
def distinctness (d : Dialect) (l : Level) : Parser String := do
  let tokens ← get
  let all ← word? "ALL"
  let distinct ← word? "DISTINCT"
  unless distinct do return ""
  if all then
    throw (.invalid "Cannot specify both ALL and DISTINCT" (tokens.head?.map Lexeme.position))
  unless ← word? "ON" do return " DISTINCT"
  sign "("
  let es ← if ← atSign ")" then pure [] else exprs d l
  sign ")"
  return " DISTINCT ON (" ++ commaList (es.map Expr.text) ++ ")"

/-- How many rows are wanted at most, TOP being taken off, as it is printed. -/
def topCount (l : Level) : Parser String := do
  let count ←
    if ← atSign "(" then do pure ("(" ++ (← bracketed l.expr).text ++ ")")
    else match ← peek with
      | some (.number digits _) => do
        advance
        pure digits
      | _ => expected "literal int"
  let percent := if ← word? "PERCENT" then " PERCENT" else ""
  let ties := if ← words? ["WITH", "TIES"] then " WITH TIES" else ""
  return " TOP " ++ count ++ percent ++ ties

/-- The table that the rows go into, INTO being taken off, as it is printed. -/
def intoTable (d : Dialect) (l : Level) : Parser String := do
  let temporary := match ← oneOf? ["TEMPORARY", "TEMP"] with
    | some _ => "TEMPORARY "
    | none => ""
  let unlogged := if ← word? "UNLOGGED" then "UNLOGGED " else ""
  let table := if ← word? "TABLE" then "TABLE " else ""
  return temporary ++ unlogged ++ table ++ (← objectName d l).text

/-! ## Groups and windows -/

/-- An expression that rows are grouped by, as it is printed. -/
def groupItem (d : Dialect) (l : Level) : Parser String := do
  if ← words? ["GROUPING", "SETS"] then
    let sets ← bracketed (list d.trailing do
      if ← sign? "(" then
        if ← sign? ")" then return "()"
        let text ← exprTexts d l
        sign ")"
        return "(" ++ text ++ ")"
      return (← l.expr).text)
    return "GROUPING SETS (" ++ commaList sets ++ ")"
  let second ← peekSecond
  if (← atSign "(") && second == some (.sign ")") then
    advance
    advance
    return "()"
  return (← l.expr).text

/-- The groups of rows, GROUP BY being taken off, as they are printed. -/
def groups (d : Dialect) (l : Level) : Parser String := do
  let items ←
    if ← word? "ALL" then pure "ALL" else do pure (commaList (← list d.trailing (groupItem d l)))
  let modifier ←
    if ← words? ["WITH", "ROLLUP"] then pure " WITH ROLLUP"
    else if ← words? ["WITH", "CUBE"] then pure " WITH CUBE"
    else if ← words? ["WITH", "TOTALS"] then pure " WITH TOTALS"
    else pure ""
  return items ++ modifier

/-- The named windows, WINDOW being taken off, as they are printed. -/
def namedWindows (d : Dialect) (l : Level) : Parser String := do
  let windows ← list d.trailing do
    let n ← name
    word "AS"
    let window ← if ← atSign "(" then windowSpec d l else do pure (← name).text
    return n.text ++ " AS " ++ window
  return commaList windows

/-- The rows that a row is connected to, as they are printed. -/
def connections (d : Dialect) (l : Level) : Parser String := do
  if d = .duckdb then return ""
  if ← words? ["START", "WITH"] then
    let condition ← l.expr
    words ["CONNECT", "BY"]
    return " START WITH " ++ condition.text ++ " CONNECT BY " ++ (← exprTexts d l)
  if ← words? ["CONNECT", "BY"] then
    let relations ← exprTexts d l
    words ["START", "WITH"]
    return " START WITH " ++ (← l.expr).text ++ " CONNECT BY " ++ relations
  return ""

/-! ## SELECT -/

/-- The clauses behind the FROM clause of a SELECT, as they are printed. -/
def selectTail (d : Dialect) (l : Level) : Parser String := do
  let condition ← after? ["WHERE"] l.expr
  let connected ← connections d l
  let grouped ← after? ["GROUP", "BY"] (groups d l)
  let clustered ← after? ["CLUSTER", "BY"] (exprTexts d l)
  let distributed ← after? ["DISTRIBUTE", "BY"] (exprTexts d l)
  let sorted ← after? ["SORT", "BY"] (orderItems d l)
  let having ← after? ["HAVING"] l.expr
  let (windows, qualified) ←
    if ← word? "WINDOW" then do
      let windows ← namedWindows d l
      pure (some windows, ← after? ["QUALIFY"] l.expr)
    else do
      let qualified ← after? ["QUALIFY"] l.expr
      if qualified.isSome then pure (← after? ["WINDOW"] (namedWindows d l), qualified)
      else pure (none, none)
  return lead " WHERE " (condition.map Expr.text) ++ connected ++ lead " GROUP BY " grouped ++
    lead " CLUSTER BY " clustered ++ lead " DISTRIBUTE BY " distributed ++ lead " SORT BY " sorted ++
    lead " HAVING " (having.map Expr.text) ++ lead " QUALIFY " (qualified.map Expr.text) ++
    lead " WINDOW " windows

/-- The items of a FROM clause, as they are printed. -/
def itemTexts (items : List TableItem) : String := commaList (items.map TableItem.text)

/-- A plain SELECT, with its text. -/
def select (d : Dialect) (l : Level) : Parser (Select × String) := do
  let first ← if d.fromFirst then after? ["FROM"] (tableItems d l) else pure none
  match first, ← word? "SELECT" with
  | some items, false => return (⟨items⟩, "FROM " ++ itemTexts items)
  | _, false => expected "SELECT"
  | first, true =>
    let distinct ← distinctness d l
    let top ← after? ["TOP"] (topCount l)
    let results ← if d.emptyProjection && (← atWord "FROM") then pure "" else results d l
    let into ← after? ["INTO"] (intoTable d l)
    let items ← match first with
      | some items => pure items
      | none => do pure ((← after? ["FROM"] (tableItems d l)).getD [])
    let tail ← selectTail d l
    let source := if items.isEmpty then "" else " FROM " ++ itemTexts items
    return (⟨items⟩, "SELECT" ++ distinct ++ top.getD "" ++ (if results.isEmpty then "" else " ") ++
      results ++ lead " INTO " into ++ source ++ tail)

/-! ## Set operations -/

/-- How tightly a set operation binds; zero if the word names none. -/
def setPrecedence (key : String) : Nat :=
  if ["UNION", "EXCEPT", "MINUS"].contains key then 10 else if key = "INTERSECT" then 20 else 0

/-- What a set operation does with equal rows, as it is printed. -/
def setQuantifier (key : String) : Parser String := do
  if key = "UNION" then
    if ← words? ["DISTINCT", "BY", "NAME"] then return " DISTINCT BY NAME"
    if ← words? ["BY", "NAME"] then return " BY NAME"
    if ← words? ["ALL", "BY", "NAME"] then return " ALL BY NAME"
  match ← oneOf? ["ALL", "DISTINCT"] with
  | some word => return " " ++ word
  | none => return ""

/-- An operand of a set operation, with its text. -/
def queryPrimary (d : Dialect) (l : Level) : Parser (QueryBody × String) := do
  let key ← peekKey
  if key = "SELECT" || (key = "FROM" && d.fromFirst) then
    let (select, text) ← select d l
    return (.select select, text)
  if ← sign? "(" then
    let query ← l.query
    sign ")"
    return (.other, "(" ++ query.text ++ ")")
  if (← oneOf? ["VALUES", "VALUE"]).isSome then
    let rows ← rowTexts d l
    return (.other, key ++ " " ++ rows)
  if ← word? "TABLE" then
    let n ← objectName d l
    return (.other, "TABLE " ++ n.text)
  expected "SELECT, VALUES, or a subquery in the query body"

/-- The set operations behind an operand that bind more tightly than `bound`. -/
def setOperations (d : Dialect) (l : Level) :
    (bound : Nat) → (left : QueryBody × String) → (rounds : Nat) → Parser (QueryBody × String)
  | _, left, 0 => return left
  | bound, left, rounds + 1 => do
    let key ← peekKey
    let tightness := setPrecedence key
    if tightness ≤ bound then return left
    advance
    let quantifier ← setQuantifier key
    let first ← queryPrimary d l
    let right ← setOperations d l tightness first rounds
    setOperations d l bound (.other, left.2 ++ " " ++ key ++ quantifier ++ " " ++ right.2) rounds

/-- What a query computes, with its text. -/
def queryBody (d : Dialect) (l : Level) : Parser (QueryBody × String) := do
  let first ← queryPrimary d l
  loop (setOperations d l 0 first)

/-! ## Queries -/

/-- A name that a WITH clause defines, with its definition as it is printed. -/
def cte (d : Dialect) (l : Level) : Parser (Name × String) := do
  let n ← name
  let columns ← if ← atWord "AS" then pure [] else aliasColumns d l
  word "AS"
  let query ← bracketed l.query
  let source ← after? ["FROM"] name
  let columnText :=
    if columns.isEmpty then "" else " (" ++ commaList (columns.map AliasColumn.text) ++ ")"
  return (n, n.text ++ columnText ++ " AS (" ++ query.text ++ ")" ++
    lead " FROM " (source.map Name.text))

/-- The WITH clause of a query, the word being taken off. -/
def ctes (d : Dialect) (l : Level) : Parser (List Name × String) := do
  let recursive := if ← word? "RECURSIVE" then "RECURSIVE " else ""
  let defined ← list d.trailing (cte d l)
  return (defined.map (·.1), "WITH " ++ recursive ++ commaList (defined.map (·.2)) ++ " ")

/-- The rows to skip, OFFSET being taken off, as they are printed. -/
def offsetCount (l : Level) : Parser String := do
  let count ← l.expr
  match ← oneOf? ["ROW", "ROWS"] with
  | some word => return count.text ++ " " ++ word
  | none => return count.text

/-- How many rows are wanted, as it is printed. -/
def limitClause (d : Dialect) (l : Level) : Parser String := do
  let early ← after? ["OFFSET"] (offsetCount l)
  let limit ← after? ["LIMIT"] do
    if ← word? "ALL" then return "ALL"
    let count ← l.expr
    if d ≠ .snowflake then
      if ← sign? "," then return count.text ++ ", " ++ (← l.expr).text
    return count.text
  let late ← if early.isNone then after? ["OFFSET"] (offsetCount l) else pure none
  return lead " LIMIT " limit ++ lead " OFFSET " (if early.isSome then early else late)

/-- The rows to fetch, FETCH being taken off, as they are printed. -/
def fetchCount (l : Level) : Parser String := do
  let _ ← oneOf? ["FIRST", "NEXT"]
  let count ←
    if (← oneOf? ["ROW", "ROWS"]).isSome then pure ""
    else do
      let e ← l.operand precedence.point
      let percent := if ← word? "PERCENT" then " PERCENT" else ""
      let _ ← oneOf? ["ROW", "ROWS"]
      pure (" " ++ e.text ++ percent)
  if ← word? "ONLY" then return "FIRST" ++ count ++ " ROWS ONLY"
  if ← words? ["WITH", "TIES"] then return "FIRST" ++ count ++ " ROWS WITH TIES"
  expected "one of ONLY or WITH TIES"

/-- The locks that a query takes, as they are printed. -/
def locks (d : Dialect) (l : Level) : (rounds : Nat) → Parser String
  | 0 => return ""
  | rounds + 1 => do
    unless ← word? "FOR" do return ""
    match ← oneOf? ["UPDATE", "SHARE"] with
    | none => expected "one of UPDATE or SHARE"
    | some mode =>
      let table ← after? ["OF"] (objectName d l)
      let wait ←
        if ← word? "NOWAIT" then pure " NOWAIT"
        else if ← words? ["SKIP", "LOCKED"] then pure " SKIP LOCKED"
        else pure ""
      return " FOR " ++ mode ++ lead " OF " (table.map ObjectName.text) ++ wait ++
        (← locks d l rounds)

/-- The clauses behind what a query computes, as they are printed. -/
def queryTail (d : Dialect) (l : Level) : Parser String := do
  let order ← after? ["ORDER", "BY"] (orderItems d l)
  let limit ← limitClause d l
  let fetch ← after? ["FETCH"] (fetchCount l)
  let locks ← loop (locks d l)
  return lead " ORDER BY " order ++ limit ++ lead " FETCH " fetch ++ locks

/-- A query. Behind a WITH clause a statement that changes rows may stand in its place. -/
def query (d : Dialect) (l : Level) : Parser Query := do
  let (defined, before) ← if ← word? "WITH" then ctes d l else pure ([], "")
  let key ← peekKey
  if ["INSERT", "UPDATE", "DELETE", "MERGE"].contains key then
    discard l.statement
    return ⟨defined, .other, before ++ key⟩
  let (body, text) ← queryBody d l
  return ⟨defined, body, before ++ text ++ (← queryTail d l)⟩

end Parser

end Sql

end FromClause
