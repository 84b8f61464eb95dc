import FromClause.Sql.Parser.Expression
/-!
# Tables

The parser for the items of a FROM clause. A word behind a table is its alias unless the dialect reserves it;
what follows the word may decide. Joins without a constraint are legal, and in a dialect where joins do not
group to the left a join that follows another one without a constraint between them belongs to its right side.
-/

namespace FromClause

namespace Sql

/-! ## Reserved words -/

/-- The words that are no alias of a table without AS. -/
def reservedForTable : List String :=
  ["WITH", "EXPLAIN", "ANALYZE", "SELECT", "WHERE", "GROUP", "SORT", "HAVING", "ORDER", "PIVOT", "UNPIVOT",
    "TOP", "LATERAL", "VIEW", "LIMIT", "OFFSET", "FETCH", "UNION", "EXCEPT", "INTERSECT", "MINUS", "ON",
    "JOIN", "INNER", "CROSS", "FULL", "LEFT", "RIGHT", "NATURAL", "USING", "CLUSTER", "DISTRIBUTE",
    "GLOBAL", "ANTI", "SEMI", "RETURNING", "OUTPUT", "ASOF", "MATCH_CONDITION", "OUTER", "SET", "QUALIFY",
    "WINDOW", "END", "FOR", "PARTITION", "PREWHERE", "SETTINGS", "FORMAT", "START", "CONNECT",
    "MATCH_RECOGNIZE", "SAMPLE", "TABLESAMPLE", "FROM", "OPEN"]

/-- The words that Snowflake never takes for an alias of a table. -/
def neverTableAlias : List String :=
  ["WITH", "ORDER", "SELECT", "WHERE", "GROUP", "HAVING", "LATERAL", "UNION", "INTERSECT", "MINUS", "ON",
    "JOIN", "INNER", "CROSS", "FULL", "LEFT", "RIGHT", "NATURAL", "USING", "ASOF", "MATCH_CONDITION", "SET",
    "QUALIFY", "FOR", "START", "CONNECT", "SAMPLE", "TABLESAMPLE", "FROM"]

/-- The words that Snowflake takes for an alias of a table at the end of a statement only. -/
def lastTableAlias : List String :=
  ["RETURNING", "INNER", "USING", "PIVOT", "UNPIVOT", "EXCEPT", "MATCH_RECOGNIZE"]

/-- The words that start no item of a FROM clause in Snowflake. -/
def neverTable : List String :=
  ["ALL", "ALTER", "AND", "ANY", "AS", "BETWEEN", "BY", "CHECK", "COLUMN", "CONNECT", "CREATE", "CROSS",
    "CURRENT", "DELETE", "DISTINCT", "DROP", "ELSE", "EXISTS", "FOLLOWING", "FOR", "FROM", "FULL", "GRANT",
    "GROUP", "HAVING", "ILIKE", "IN", "INCREMENT", "INNER", "INSERT", "INTERSECT", "INTO", "IS", "JOIN",
    "LEFT", "LIKE", "MINUS", "NATURAL", "NOT", "NULL", "OF", "ON", "OR", "ORDER", "QUALIFY", "REGEXP",
    "REVOKE", "RIGHT", "RLIKE", "ROW", "ROWS", "SAMPLE", "SELECT", "SET", "SOME", "START", "TABLE",
    "TABLESAMPLE", "THEN", "TO", "TRIGGER", "UNION", "UNIQUE", "UPDATE", "USING", "VALUES", "WHEN",
    "WHENEVER", "WHERE", "WITH"]

/-- The words that Snowflake never takes for the name of a result. -/
def neverColumnAlias : List String :=
  ["FROM", "GROUP", "HAVING", "INTERSECT", "INTO", "MINUS", "ORDER", "SELECT", "UNION", "WHERE", "WITH"]

/-- Whether a token may tell how many rows are wanted. -/
def limitsRows : Option Token → Bool
  | some (.number ..) | some (.placeholder _) => true
  | some (.string value) => value.isEmpty
  | some (.dollar _ value) => value.isEmpty
  | some (.word _ key) => key = "NULL"
  | _ => false

/-- Whether a word with the given token behind it may be an alias of a table. -/
def aliasesTable (d : Dialect) (key : String) (behind : Option Token) : Bool :=
  if d = .snowflake then
    let next := (behind.map Token.key).getD ""
    if lastTableAlias.contains key && !(behind.isNone || behind == some (.sign ";")) then false
    else if key = "LIMIT" && limitsRows behind then false
    else if key = "FETCH" && (["FIRST", "NEXT"].contains next || limitsRows behind) then false
    else if ["RIGHT", "LEFT", "SEMI", "ANTI"].contains key && ["JOIN", "OUTER"].contains next then false
    else if key = "GLOBAL" && next = "FULL" then false
    else !neverTableAlias.contains key
  else !reservedForTable.contains key

/-- Whether a word with the given token behind it may be the name of a result. -/
def aliasesColumn (d : Dialect) (key : String) (behind : Option Token) : Bool :=
  if d = .snowflake then
    let next := (behind.map Token.key).getD ""
    if ["EXCEPT", "RETURNING"].contains key && !(behind.isNone || behind == some (.sign ",")) then false
    else if ["LIMIT", "OFFSET"].contains key && limitsRows behind then false
    else if key = "FETCH" && (["FIRST", "NEXT"].contains next || limitsRows behind) then false
    else !neverColumnAlias.contains key
  else !reservedForColumn.contains key

namespace Parser

/-! ## Aliases -/

/-- An alias, and whether AS stands before it. Without AS, the test decides whether a word is one. -/
def alias? (accepts : String → Option Token → Bool) : Parser (Option (Bool × Name)) := do
  let explicit ← word? "AS"
  let behind ← peekSecond
  match ← peek with
  | some (.word n key) =>
    if explicit || accepts key behind then
      advance
      return some (explicit, n)
    return none
  | some (.string value) =>
    advance
    return some (explicit, ⟨value, some '\''⟩)
  | _ => if explicit then expected "an identifier after AS" else return none

/-- The column names behind an alias, with or without types. -/
def aliasColumns (d : Dialect) (l : Level) : Parser (List AliasColumn) := do
  unless ← sign? "(" do return []
  let columns ← list d.trailing do
    let n ← name
    let type ← attempt (dataType d l)
    return ⟨n, type.map DataType.text⟩
  sign ")"
  return columns

/-- An alias of a table. -/
def tableAlias? (d : Dialect) (l : Level) : Parser (Option TableAlias) := do
  match ← alias? (aliasesTable d) with
  | some (explicit, n) => return some ⟨explicit, n, ← aliasColumns d l⟩
  | none => return none

/-! ## Single sources -/

/-- The rows of a VALUES list, as they are printed. -/
def rowTexts (d : Dialect) (l : Level) : Parser String := do
  let rows ← list d.trailing do
    let row ← word? "ROW"
    let text ← bracketed (exprTexts d l)
    return (if row then "ROW" else "") ++ "(" ++ text ++ ")"
  return commaList rows

/-- A query in the place of a table, its opening bracket being taken off. -/
def derivedTable (d : Dialect) (l : Level) (lateral : Bool) : Parser TableFactor := do
  let query ← l.query
  sign ")"
  let label ← tableAlias? d l
  return .derived ((if lateral then "LATERAL " else "") ++ "(" ++ query.text ++ ")") label

/-- A part of the rows of a table: how it is chosen is not kept. -/
def sample (l : Level) : Parser Unit := do
  if (← oneOf? ["TABLESAMPLE", "SAMPLE"]).isSome then
    discard (oneOf? ["BERNOULLI", "ROW", "SYSTEM", "BLOCK"])
    bracketed do
      discard l.expr
      discard (oneOf? ["ROWS", "PERCENT"])
    if (← oneOf? ["REPEATABLE", "SEED"]).isSome then discard (bracketed l.expr)

/-- A table by its name, with arguments if it is a function. -/
def namedTable (d : Dialect) (l : Level) : Parser TableFactor := do
  let n ← objectName d l
  let args ← if ← sign? "(" then do pure (some (← arguments d l)) else pure none
  discard (words? ["WITH", "ORDINALITY"])
  let label ← tableAlias? d l
  let second ← peekSecond
  if (← atWord "WITH") && second == some (.sign "(") then
    advance
    discard (bracketed (exprs d l))
  sample l
  return .table n args label

/-- The source with an alias put on it from outside its brackets. -/
def realiased (outer : TableAlias) : TableFactor → Except ParseError TableFactor
  | .table n args none => .ok (.table n args (some outer))
  | .nested item none => .ok (.nested item (some outer))
  | .derived text none => .ok (.derived text (some outer))
  | .other text none => .ok (.other text (some outer))
  | _ => .error (.invalid "duplicate alias" none)

/-! ## Joins -/

/-- What restricts a join. -/
def joinConstraint (d : Dialect) (l : Level) (natural : Bool) : Parser JoinConstraint := do
  if natural then return .natural
  if ← word? "ON" then return .on (← l.expr)
  if ← word? "USING" then return .using (← bracketed (list d.trailing (objectName d l)))
  return .none

/-- The keywords of a join that may have a constraint, with what such a join does; nothing if none follow. -/
def joinKeywords? (natural : Bool) : Parser (Option (JoinFamily × String)) := do
  let key ← peekKey
  match key with
  | "INNER" =>
    words ["INNER", "JOIN"]
    return some (.inner, "INNER JOIN")
  | "JOIN" =>
    advance
    return some (.inner, "JOIN")
  | "LEFT" | "RIGHT" =>
    advance
    match ← oneOf? ["OUTER", "SEMI", "ANTI", "JOIN"] with
    | some "JOIN" => return some (.outer, key ++ " JOIN")
    | some "OUTER" =>
      word "JOIN"
      return some (.outer, key ++ " OUTER JOIN")
    | some side =>
      word "JOIN"
      return some (.other, key ++ " " ++ side ++ " JOIN")
    | none => throw (.invalid ("expected OUTER, SEMI, ANTI or JOIN after " ++ key) none)
  | "ANTI" | "SEMI" =>
    words [key, "JOIN"]
    return some (.other, key ++ " JOIN")
  | "FULL" =>
    advance
    discard (word? "OUTER")
    word "JOIN"
    return some (.outer, "FULL JOIN")
  | "OUTER" => expected "LEFT, RIGHT, or FULL"
  | "STRAIGHT_JOIN" =>
    advance
    return some (.other, "STRAIGHT_JOIN")
  | _ => if natural then expected "a join type after NATURAL" else return none

/-- A join that has keywords of its own, with its right side; nothing if none follows. -/
def specialJoin? (d : Dialect) (l : Level) : Parser (Option (JoinOperator × TableFactor)) := do
  if ← word? "CROSS" then
    if ← word? "JOIN" then return some (⟨.cross, "CROSS JOIN", .none⟩, ← l.factor)
    if ← word? "APPLY" then return some (⟨.other, "CROSS APPLY", .none⟩, ← l.factor)
    expected "JOIN or APPLY after CROSS"
  if ← word? "OUTER" then
    word "APPLY"
    return some (⟨.other, "OUTER APPLY", .none⟩, ← l.factor)
  if ← word? "ASOF" then
    word "JOIN"
    let factor ← l.factor
    word "MATCH_CONDITION"
    discard (bracketed l.expr)
    return some (⟨.other, "ASOF JOIN", ← joinConstraint d l false⟩, factor)
  return none

/-- Whether a join follows that is to belong to the right side of the join before it. -/
def rightJoinFollows (d : Dialect) : Parser Bool := do
  let key ← peekKey
  return !d.leftAssociativeJoins && ["JOIN", "INNER", "LEFT", "RIGHT", "FULL"].contains key

/-- An item with the joins behind it. -/
def joins (d : Dialect) (l : Level) (left : TableItem) : (rounds : Nat) → Parser TableItem
  | 0 => return left
  | rounds + 1 => do
    discard (word? "GLOBAL")
    match ← specialJoin? d l with
    | some (operator, right) => joins d l (.join left operator right) rounds
    | none =>
      let natural ← word? "NATURAL"
      match ← joinKeywords? natural with
      | none => return left
      | some (family, keywords) =>
        let factor ← l.factor
        let right ←
          if ← rightJoinFollows d then do
            let item ← joins d l (.factor factor) rounds
            pure (.nested item none)
          else pure factor
        let operator := ⟨family, keywords, ← joinConstraint d l natural⟩
        joins d l (.join left operator right) rounds

/-- An item of a FROM clause. -/
def tableItem (d : Dialect) (l : Level) : Parser TableItem := do
  let factor ← l.factor
  loop (joins d l (.factor factor))

/-- What stands in brackets and is no query, the opening one being taken off. -/
def bracketedItem (d : Dialect) (l : Level) : Parser TableFactor := do
  match ← tableItem d l with
  | .factor source =>
    match source with
    | .nested .. =>
      sign ")"
      return .nested (.factor source) (← tableAlias? d l)
    | _ =>
      unless d.bracketedTable do expected "joined table"
      sign ")"
      match ← tableAlias? d l with
      | none => return source
      | some outer => realiased outer source
  | item =>
    sign ")"
    return .nested item (← tableAlias? d l)

/-- A single source of a FROM clause. -/
def factor (d : Dialect) (l : Level) : Parser TableFactor := do
  let second ← peekSecond
  let next ← peekKey
  if ← word? "LATERAL" then
    if ← sign? "(" then return ← derivedTable d l true
    let n ← objectName d l
    sign "("
    let args ← arguments d l
    return .other ("LATERAL " ++ n.text ++ "(" ++ args ++ ")") (← tableAlias? d l)
  if ← word? "TABLE" then
    let e ← bracketed l.expr
    return .other ("TABLE(" ++ e.text ++ ")") (← tableAlias? d l)
  if ← sign? "(" then
    match ← attempt (derivedTable d l false) with
    | some table => return table
    | none => return ← bracketedItem d l
  if d.valuesAsTable && next = "VALUES" && second == some (.sign "(") then
    advance
    let rows ← rowTexts d l
    return .derived ("(VALUES " ++ rows ++ ")") (← tableAlias? d l)
  if d.unnestTable && next = "UNNEST" then
    advance
    let args ← bracketed (exprTexts d l)
    let ordinality := if ← words? ["WITH", "ORDINALITY"] then " WITH ORDINALITY" else ""
    return .other ("UNNEST(" ++ args ++ ")" ++ ordinality) (← tableAlias? d l)
  namedTable d l

/-! ## FROM clauses -/

/-- Whether the items end here although a comma was the last token. -/
def itemsEnd : Parser Bool := do
  let behind ← peekSecond
  match ← peek with
  | none => return true
  | some (.sign text) => return [")", ";", "]", "\x7d"].contains text
  | some token =>
    if token.key = "LIMIT" && limitsRows behind then return true
    if token.key = "TABLE" && behind == some (.sign "(") then return false
    return token.key ≠ "" && neverTable.contains token.key

/-- The items of a FROM clause. -/
def itemRounds (d : Dialect) (l : Level) : (rounds : Nat) → Parser (List TableItem)
  | 0 => return []
  | rounds + 1 => do
    let item ← tableItem d l
    unless ← sign? "," do return [item]
    if d.trailingCommaInFrom then
      if ← itemsEnd then return [item]
    return item :: (← itemRounds d l rounds)

/-- The items of a FROM clause, FROM being taken off. -/
def tableItems (d : Dialect) (l : Level) : Parser (List TableItem) := loop (itemRounds d l)

end Parser

end Sql

end FromClause
