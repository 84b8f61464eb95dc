import FromClause.Sql.Parser.DataType
/-!
# Expressions

The parser for expressions, by precedence: an operand takes in every operator behind it that binds more
tightly than the operator before it. A keyword that introduces an expression of its own is read as a plain
name where that expression does not follow.
-/

namespace FromClause

namespace Sql

/-! ## Operators -/

/-- How tightly operators bind. A greater number binds more tightly. -/
structure Precedence where
  /-- The parts of a name. -/
  point : Nat
  /-- A cast behind its operand. -/
  cast : Nat
  /-- A time zone. -/
  zone : Nat
  /-- Products, quotients and joined strings. -/
  product : Nat
  /-- Sums and differences. -/
  sum : Nat
  /-- The exclusive disjunction. -/
  xor : Nat
  /-- The bits that both numbers have. -/
  bitAnd : Nat
  /-- Shifts, and the bits in which two numbers differ. -/
  shift : Nat
  /-- The bits that either number has. -/
  bitOr : Nat
  /-- Comparisons, ranges and lists. -/
  comparison : Nat
  /-- Patterns. -/
  pattern : Nat
  /-- Tests for the missing value and for truth. -/
  test : Nat
  /-- Any other sign. -/
  sign : Nat
  /-- Negation. -/
  not : Nat
  /-- Conjunction. -/
  and : Nat
  /-- Disjunction. -/
  or : Nat

/-- How tightly the operators of SQL bind. -/
def precedence : Precedence where
  point := 100
  cast := 50
  zone := 41
  product := 40
  sum := 30
  xor := 24
  bitAnd := 23
  shift := 22
  bitOr := 21
  comparison := 20
  pattern := 19
  test := 17
  sign := 16
  not := 15
  and := 10
  or := 5

/-- The precedence of a sign between two operands; zero if it is no operator. -/
def signPrecedence (text : String) : Nat :=
  if ["=", "==", "<", "<=", "<>", ">", ">=", "<=>", ":=", "~", "~*", "!~", "!~*", "~~", "!~~", "~~*",
      "!~~*"].contains text then precedence.comparison
  else if text = "|" then precedence.bitOr
  else if ["^", "#", "<<", ">>"].contains text then precedence.shift
  else if text = "&" then precedence.bitAnd
  else if ["+", "-"].contains text then precedence.sum
  else if ["*", "/", "//", "%", "||"].contains text then precedence.product
  else if ["::", "!", "[", "^@"].contains text then precedence.cast
  else if ["->", "->>", "#>", "#>>", "@>", "<@", "#-", "@?", "@@", "&&"].contains text then
    precedence.sign
  else if text = "." then precedence.point
  else 0

/-- The precedence of a word between two operands; zero if it is no operator. `second` is the word behind it. -/
def wordPrecedence (d : Dialect) (key second third : String) : Nat :=
  match key with
  | "OR" => precedence.or
  | "AND" => precedence.and
  | "XOR" => precedence.xor
  | "AT" => if second = "TIME" ∧ third = "ZONE" then precedence.zone else 0
  | "NOT" =>
    if ["IN", "BETWEEN"].contains second then precedence.comparison
    else if ["LIKE", "ILIKE", "RLIKE", "REGEXP", "SIMILAR", "MATCH"].contains second then
      precedence.pattern
    else if second = "NULL" then precedence.test
    else 0
  | "IS" => precedence.test
  | "IN" | "BETWEEN" | "OVERLAPS" => precedence.comparison
  | "LIKE" | "ILIKE" | "SIMILAR" | "RLIKE" | "REGEXP" => precedence.pattern
  | "DIV" => precedence.product
  | "NOTNULL" => if d.notNullWord then precedence.test else 0
  | _ => 0

/-- The operator that a sign between two operands is. -/
def signOperator? (d : Dialect) (text : String) : Option BinaryOp :=
  match text with
  | "=" | "==" => some (.compare .eq)
  | "<>" => some (.compare .ne)
  | "<" => some (.compare .lt)
  | "<=" => some (.compare .le)
  | ">" => some (.compare .gt)
  | ">=" => some (.compare .ge)
  | "//" | "<<" | ">>" | "^@" => if d = .snowflake then none else some (.other text)
  | "#" | "!" | "[" | "::" | "." => none
  | _ => if signPrecedence text = 0 then none else some (.other text)

/-- The operator that a word between two operands is. -/
def wordOperator? (key : String) : Option BinaryOp :=
  match key with
  | "AND" => some .and
  | "OR" => some .or
  | "XOR" | "OVERLAPS" => some (.other key)
  | _ => none

namespace Parser

/-- The precedence of what comes next, if it stands between two operands. -/
def nextPrecedence (d : Dialect) : Parser Nat := do
  match ← get with
  | [] => return 0
  | ⟨.sign text, _⟩ :: _ => return signPrecedence text
  | ⟨token, _⟩ :: rest =>
    let key (n : Nat) : String := ((rest.drop n).head?.map fun lexeme => lexeme.token.key).getD ""
    return wordPrecedence d token.key (key 0) (key 1)

/-! ## Literals -/

/-- A literal. -/
def literal : Parser Literal := do
  let give (l : Literal) : Parser Literal := do
    advance
    return l
  match ← peek with
  | some (.word n key) =>
    match key, n.quote with
    | "TRUE", none => give (.boolean true)
    | "FALSE", none => give (.boolean false)
    | "NULL", none => give .null
    | _, some '"' => give (.doubleQuoted n.value)
    | _, _ => expected "a concrete value"
  | some (.number digits long) => give (.number digits long)
  | some (.string value) => give (.string value)
  | some (.marked mark value) => give (.other (mark ++ "'" ++ value ++ "'"))
  | some (.dollar tag value) => give (.other (Token.dollar tag value).text)
  | some (.placeholder text) => give (.other text)
  | some (.sign mark) =>
    if mark = ":" || mark = "@" then
      advance
      match ← peek with
      | some (.word n _) => give (.other (mark ++ n.value))
      | some (.number digits false) => give (.other (mark ++ digits))
      | _ => expected "placeholder"
    else expected "a value"
  | none => expected "a value"

/-- A type with a literal of it. -/
def typedLiteral (d : Dialect) (l : Level) : Parser Expr := do
  unless startsBuiltIn (← peekKey) do expected "a data type"
  let type ← dataType d l
  return .other (type.text ++ " " ++ (← literal).text)

/-! ## Pieces of calls -/

/-- Expressions with commas between them. -/
def exprs (d : Dialect) (l : Level) : Parser (List Expr) := list d.trailing l.expr

/-- Expressions with commas between them, as they are printed. -/
def exprTexts (d : Dialect) (l : Level) : Parser String := do
  return commaList ((← exprs d l).map Expr.text)

/-- An expression in an ORDER BY list, as it is printed. -/
def orderItem (l : Level) : Parser String := do
  let e ← l.expr
  let direction := match ← oneOf? ["ASC", "DESC"] with
    | some word => " " ++ word
    | none => ""
  let nulls ←
    if ← words? ["NULLS", "FIRST"] then pure " NULLS FIRST"
    else if ← words? ["NULLS", "LAST"] then pure " NULLS LAST"
    else pure ""
  return e.text ++ direction ++ nulls

/-- An ORDER BY list, as it is printed. -/
def orderItems (d : Dialect) (l : Level) : Parser String := do
  return commaList (← list d.trailing (orderItem l))

/-- The names before the star of a qualified one, as they are printed. -/
def starQualifier (before : List Name) : (rounds : Nat) → Parser (List Name)
  | 0 => return before
  | rounds + 1 => do
    unless ← sign? "." do expected "."
    match ← peek with
    | some (.sign "*") =>
      advance
      return before
    | some (.placeholder text) =>
      advance
      starQualifier (before ++ [⟨text, none⟩]) rounds
    | some (.word n _) =>
      advance
      starQualifier (before ++ [n]) rounds
    | some (.string value) =>
      advance
      starQualifier (before ++ [⟨value, some '\''⟩]) rounds
    | _ => expected "an identifier or a '*' after '.'"

/-- Whether names with points between them go on after a point with something that no name is. -/
def brokenName : (tokens : List Lexeme) → Bool
  | ⟨.sign ".", _⟩ :: ⟨.word .., _⟩ :: rest => brokenName rest
  | ⟨.sign ".", _⟩ :: ⟨.string _, _⟩ :: rest => brokenName rest
  | ⟨.sign ".", _⟩ :: ⟨.placeholder _, _⟩ :: rest => brokenName rest
  | ⟨.sign ".", _⟩ :: ⟨.sign "*", _⟩ :: _ => false
  | ⟨.sign ".", _⟩ :: _ => true
  | _ => false

/-- A star, perhaps behind a name, or an expression. The first component tells them apart. -/
def starOrExpr (l : Level) : Parser (Bool × Expr) := do
  match ← get with
  | ⟨.sign "*", _⟩ :: rest =>
    set rest
    return (true, .other "*")
  | ⟨.sign "(", _⟩ :: ⟨.sign "*", _⟩ :: ⟨.sign ")", _⟩ :: rest =>
    set rest
    return (true, .other "*")
  | ⟨.word .., _⟩ :: rest | ⟨.string _, _⟩ :: rest =>
    let star ← attempt do
      let first ← name
      let names ← loop (starQualifier [first])
      return (true, Expr.other (".".intercalate (names.map Name.text) ++ ".*"))
    match star with
    | some found => return found
    | none =>
      if brokenName rest then
        advance
        discard (loop (starQualifier []))
      return (false, ← l.expr)
  | _ => return (false, ← l.expr)

/-- An argument of a call, as it is printed. -/
def argument (l : Level) : Parser String := do
  let named ← attempt do
    let n ← name
    let op ←
      if ← sign? "=>" then pure " => "
      else if ← sign? ":=" then pure " := "
      else expected "a named argument"
    let (_, e) ← starOrExpr l
    return n.text ++ op ++ e.text
  match named with
  | some text => return text
  | none =>
    let (_, e) ← starOrExpr l
    return e.text

/-- The arguments of a call up to the closing bracket, as they are printed. -/
def arguments (d : Dialect) (l : Level) : Parser String := do
  if ← sign? ")" then return ""
  let mode := match ← oneOf? ["DISTINCT", "ALL"] with
    | some word => word ++ " "
    | none => ""
  let args ← list d.trailing (argument l)
  let nulls ←
    if ← words? ["IGNORE", "NULLS"] then pure " IGNORE NULLS"
    else if ← words? ["RESPECT", "NULLS"] then pure " RESPECT NULLS"
    else pure ""
  let order ← after? ["ORDER", "BY"] (orderItems d l)
  let limit ← after? ["LIMIT"] l.expr
  sign ")"
  return mode ++ commaList args ++ nulls ++ ((order.map (" ORDER BY " ++ ·)).getD "") ++
    ((limit.map (" LIMIT " ++ ·.text)).getD "")

/-- A bound of a window, as it is printed. -/
def frameBound (l : Level) : Parser String := do
  if ← words? ["CURRENT", "ROW"] then return "CURRENT ROW"
  let size ← if ← word? "UNBOUNDED" then pure "UNBOUNDED" else do pure (← l.expr).text
  if ← word? "PRECEDING" then return size ++ " PRECEDING"
  word "FOLLOWING"
  return size ++ " FOLLOWING"

/-- A window in brackets, as it is printed. -/
def windowSpec (d : Dialect) (l : Level) : Parser String := bracketed do
  let base ←
    match ← peek with
    | some (.word n key) =>
      if ["PARTITION", "ORDER", "ROWS", "RANGE", "GROUPS"].contains key then pure []
      else do
        advance
        pure [n.text]
    | _ => pure []
  let parts ← after? ["PARTITION", "BY"] (exprTexts d l)
  let order ← after? ["ORDER", "BY"] (orderItems d l)
  let frame ← match ← oneOf? ["ROWS", "RANGE", "GROUPS"] with
    | none => pure []
    | some units =>
      if ← word? "BETWEEN" then do
        let low ← frameBound l
        word "AND"
        let high ← frameBound l
        pure [units ++ " BETWEEN " ++ low ++ " AND " ++ high]
      else do
        let low ← frameBound l
        pure [units ++ " " ++ low]
  return "(" ++ " ".intercalate (base ++ (parts.map ("PARTITION BY " ++ ·)).toList ++
    (order.map ("ORDER BY " ++ ·)).toList ++ frame) ++ ")"

/-- What may follow the arguments of a call, as it is printed. -/
def callSuffix (d : Dialect) (l : Level) : Parser String := do
  let group ← after? ["WITHIN", "GROUP"] (bracketed do
    words ["ORDER", "BY"]
    orderItems d l)
  let second ← peekSecond
  let filter ←
    if (← atWord "FILTER") && second == some (.sign "(") then do
      advance
      let condition ← bracketed do
        word "WHERE"
        l.expr
      pure (" FILTER (WHERE " ++ condition.text ++ ")")
    else pure ""
  let nulls ←
    if ← words? ["IGNORE", "NULLS"] then pure " IGNORE NULLS"
    else if ← words? ["RESPECT", "NULLS"] then pure " RESPECT NULLS"
    else pure ""
  let window ←
    if ← word? "OVER" then
      if ← atSign "(" then do pure (" OVER " ++ (← windowSpec d l))
      else do pure (" OVER " ++ (← name).text)
    else pure ""
  return ((group.map (" WITHIN GROUP (ORDER BY " ++ · ++ ")")).getD "") ++ filter ++ nulls ++ window

/-- A call of a function whose name is taken off already. -/
def call (d : Dialect) (l : Level) (function : String) : Parser Expr := do
  sign "("
  let args ← arguments d l
  let more ← callSuffix d l
  return .applied (function ++ "(" ++ args ++ ")" ++ more)

/-! ## Keywords that introduce an expression -/

/-- The branches of a CASE, as they are printed. -/
def caseBranches (l : Level) : (rounds : Nat) → Parser String
  | 0 => return ""
  | rounds + 1 => do
    let condition ← l.expr
    word "THEN"
    let result ← l.expr
    let text := " WHEN " ++ condition.text ++ " THEN " ++ result.text
    if ← word? "WHEN" then return text ++ (← caseBranches l rounds)
    else return text

/-- A CASE whose keyword is taken off. -/
def caseExpr (l : Level) : Parser Expr := do
  let operand ←
    if ← word? "WHEN" then pure ""
    else do
      let e ← l.expr
      word "WHEN"
      pure (" " ++ e.text)
  let branches ← loop (caseBranches l)
  let other ← after? ["ELSE"] l.expr
  word "END"
  return .other ("CASE" ++ operand ++ branches ++ ((other.map (" ELSE " ++ ·.text)).getD "") ++ " END")

/-- A cast whose keyword is taken off. -/
def castExpr (d : Dialect) (l : Level) (keyword : String) : Parser Expr := bracketed do
  let e ← l.expr
  word "AS"
  let type ← dataType d l
  let format ← after? ["FORMAT"] literal
  return .other (keyword ++ "(" ++ e.text ++ " AS " ++ type.text ++
    ((format.map (" FORMAT " ++ ·.text)).getD "") ++ ")")

/-- The test that a query has a row, its keyword being taken off. -/
def existsExpr (l : Level) (negated : Bool) : Parser Expr := do
  let query ← bracketed l.query
  return .other (notWord negated ++ "EXISTS (" ++ query.text ++ ")")

/-- A part of a time, its keyword being taken off. -/
def extractExpr (l : Level) : Parser Expr := bracketed do
  let field ← match ← peek with
    | some (.word n "") => do
      advance
      pure n.text
    | some (.word _ key) => do
      advance
      pure key
    | some (.string value) => do
      advance
      pure (quoted '\'' value)
    | _ => expected "date/time field"
  let separator ←
    if ← word? "FROM" then pure " FROM "
    else if ← sign? "," then pure ", "
    else expected "'FROM' or ','"
  let e ← l.expr
  return .other ("EXTRACT(" ++ field ++ separator ++ e.text ++ ")")

/-- A rounded value, its keyword being taken off. -/
def roundingExpr (l : Level) (keyword : String) : Parser Expr := bracketed do
  let e ← l.expr
  if ← word? "TO" then return .other (keyword ++ "(" ++ e.text ++ " TO " ++ (← name).text ++ ")")
  if ← sign? "," then
    return .other (keyword ++ "(" ++ e.text ++ ", " ++ (← literal).text ++ ")")
  return .other (keyword ++ "(" ++ e.text ++ ")")

/-- The place of a string in another one, its keyword being taken off. -/
def positionExpr (l : Level) : Parser Expr := bracketed do
  let e ← l.operand precedence.comparison
  word "IN"
  let text ← l.expr
  return .other ("POSITION(" ++ e.text ++ " IN " ++ text.text ++ ")")

/-- A part of a string, its keyword being taken off. -/
def substringExpr (l : Level) (keyword : String) : Parser Expr := bracketed do
  let e ← l.expr
  let comma ← sign? ","
  let start ← if comma then pure true else word? "FROM"
  let from? ← if start then do pure (some (← l.expr)) else pure none
  let more ← if ← sign? "," then pure true else word? "FOR"
  let for? ← if more then do pure (some (← l.expr)) else pure none
  let (fromText, forText) := if comma then (", ", ", ") else (" FROM ", " FOR ")
  return .other (keyword ++ "(" ++ e.text ++ ((from?.map (fromText ++ ·.text)).getD "") ++
    ((for?.map (forText ++ ·.text)).getD "") ++ ")")

/-- A string without the characters at its ends, its keyword being taken off. -/
def trimExpr (d : Dialect) (l : Level) : Parser Expr := bracketed do
  let side := match ← oneOf? ["BOTH", "LEADING", "TRAILING"] with
    | some word => word ++ " "
    | none => ""
  let e ← l.expr
  if ← word? "FROM" then
    let text ← l.expr
    return .other ("TRIM(" ++ side ++ e.text ++ " FROM " ++ text.text ++ ")")
  if ← sign? "," then
    return .other ("TRIM(" ++ side ++ e.text ++ ", " ++ (← exprTexts d l) ++ ")")
  return .other ("TRIM(" ++ side ++ e.text ++ ")")

/-- The units of intervals. -/
def intervalUnits : List String :=
  ["YEAR", "YEARS", "QUARTER", "QUARTERS", "MONTH", "MONTHS", "WEEK", "WEEKS", "DAY", "DAYS", "HOUR",
    "HOURS", "MINUTE", "MINUTES", "SECOND", "SECONDS", "MILLISECOND", "MILLISECONDS", "MICROSECOND",
    "MICROSECONDS", "NANOSECOND", "NANOSECONDS", "CENTURY", "DECADE", "EPOCH", "MILLENNIUM"]

/-- An interval of time, its keyword being taken off. -/
def intervalExpr (l : Level) : Parser Expr := do
  let value ← l.operand precedence.point
  let unit ← oneOf? intervalUnits
  let last ← if unit.isSome then after? ["TO"] (oneOf? intervalUnits) else pure none
  return .other ("INTERVAL " ++ value.text ++ ((unit.map (" " ++ ·)).getD "") ++
    ((last.join.map (" TO " ++ ·)).getD ""))

/-- A negation, its keyword being taken off. -/
def notExpr (l : Level) : Parser Expr := do
  if ← word? "EXISTS" then existsExpr l true
  else return .unary .not (← l.operand precedence.not)

/-- The words that name a value that a call without arguments gives. -/
def valueWords : List String :=
  ["CURRENT_TIMESTAMP", "CURRENT_TIME", "CURRENT_DATE", "LOCALTIME", "LOCALTIMESTAMP"]

/-- The words that name a user or a catalog in some dialects. -/
def sessionWords : List String := ["CURRENT_CATALOG", "CURRENT_USER", "SESSION_USER", "USER"]

/-- The expression that a keyword introduces, the keyword being taken off; nothing if it introduces none. -/
def introduced? (d : Dialect) (l : Level) (n : Name) (key : String) : Parser (Option Expr) := do
  match key with
  | "TRUE" => return some (.literal (.boolean true))
  | "FALSE" => return some (.literal (.boolean false))
  | "NULL" => return some (.literal .null)
  | "CASE" => return some (← caseExpr l)
  | "CAST" | "TRY_CAST" | "SAFE_CAST" => return some (← castExpr d l key)
  | "EXISTS" => return some (← existsExpr l false)
  | "EXTRACT" => return some (← extractExpr l)
  | "CEIL" | "FLOOR" => return some (← roundingExpr l key)
  | "POSITION" => if ← atSign "(" then return some (← positionExpr l) else return none
  | "SUBSTRING" | "SUBSTR" => return some (← substringExpr l key)
  | "TRIM" => return some (← trimExpr d l)
  | "INTERVAL" => return some (← intervalExpr l)
  | "NOT" => return some (← notExpr l)
  | _ =>
    if valueWords.contains key then
      if ← atSign "(" then return some (← call d l n.text) else return some (.applied n.text)
    else if d = .generic && sessionWords.contains key then return some (.applied n.text)
    else return none

/-- The words that are no plain name even where the expression that they introduce does not follow. -/
def neverName (d : Dialect) : List String :=
  if d = .snowflake then ["EXISTS", "STRUCT", "TRIM"] else ["EXISTS", "INTERVAL", "STRUCT", "TRIM"]

/-- A word as a plain name, or as the name of a function that is called. -/
def plainWord (d : Dialect) (l : Level) (n : Name) : Parser Expr := do
  if ← atSign "(" then call d l n.text else return .column [n]

/-- An expression that starts with a word. -/
def wordExpr (d : Dialect) (l : Level) (n : Name) (key : String) : Parser Expr := fun tokens =>
  match introduced? d l n key tokens with
  | .ok (some e, rest) => .ok (e, rest)
  | .ok (none, _) => plainWord d l n tokens
  | .error .tooDeep => .error .tooDeep
  | .error e =>
    if (neverName d).contains key then .error e
    else
      match plainWord d l n tokens with
      | .ok r => .ok r
      | .error .tooDeep => .error .tooDeep
      | .error _ => .error e

/-! ## Operands -/

/-- An expression in brackets, the opening one being taken off. -/
def bracketExpr (d : Dialect) (l : Level) : Parser Expr := do
  let key ← peekKey
  if key = "SELECT" || key = "WITH" then
    let query ← l.query
    sign ")"
    return .other ("(" ++ query.text ++ ")")
  let es ← exprs d l
  sign ")"
  match es with
  | [e] => return .nested e
  | _ => return .other ("(" ++ commaList (es.map Expr.text) ++ ")")

/-- An expression without an operator behind its first operand. -/
def primary (d : Dialect) (l : Level) : Parser Expr := do
  if let some e ← attempt (typedLiteral d l) then return e
  match ← peek with
  | some (.word n key) =>
    advance
    wordExpr d l n key
  | some (.sign "[") =>
    advance
    if ← sign? "]" then return .other "[]"
    let text ← exprTexts d l
    sign "]"
    return .other ("[" ++ text ++ "]")
  | some (.sign "-") =>
    advance
    return .unary .minus (← l.operand precedence.product)
  | some (.sign "+") =>
    advance
    return .unary .plus (← l.operand precedence.product)
  | some (.sign "~") =>
    advance
    return .unary .tilde (← l.operand precedence.sum)
  | some (.sign "(") =>
    advance
    bracketExpr d l
  | some (.sign text) =>
    if text = ":" || text = "@" then return .literal (← literal) else expected "an expression"
  | some _ => return .literal (← literal)
  | none => expected "an expression"

/-- Two expressions with a point between them. -/
def pointed (root part : Expr) : Expr :=
  match root, part with
  | .column names, .column more => .column (names ++ more)
  | _, _ => .applied (root.text ++ "." ++ part.text)

/-- What stands behind a point. -/
def partExpr (l : Level) : Parser Expr := do
  match ← peek with
  | some (.string value) =>
    advance
    return .column [⟨value, some '\''⟩]
  | some (.placeholder text) =>
    advance
    return .column [⟨text, none⟩]
  | _ =>
    let part ← attempt do
      match ← l.operand precedence.point with
      | .column names => return .column names
      | .literal value => return .literal value
      | .applied text => return .applied text
      | _ => expected "an identifier or value"
    match part with
    | some e => return e
    | none => return .column [← name]

/-- A subscript, the opening bracket being taken off, as it is printed. -/
def subscript (l : Level) : Parser String := do
  let low ← if ← atSign ":" then pure "" else do pure (← l.expr).text
  let high ←
    if ← sign? ":" then
      if ← atSign "]" then pure ":" else do pure (":" ++ (← l.expr).text)
    else pure ""
  sign "]"
  return "[" ++ low ++ high ++ "]"

/-- An expression with the points and subscripts behind it. -/
def parts (l : Level) (root : Expr) : (rounds : Nat) → Parser Expr
  | 0 => return root
  | rounds + 1 => do
    let second ← peekSecond
    if (← atSign ".") && second != some (.sign "*") then
      advance
      parts l (pointed root (← partExpr l)) rounds
    else if ← sign? "[" then
      let text ← subscript l
      parts l (.applied (root.text ++ text)) rounds
    else return root

/-! ## Operators behind an operand -/

/-- What is tested of an expression behind IS, that word being taken off. -/
def testExpr (l : Level) (e : Expr) : Parser Expr := do
  if ← word? "NULL" then return .isNull false e
  if ← words? ["NOT", "NULL"] then return .isNull true e
  for value in ["TRUE", "FALSE", "UNKNOWN"] do
    if ← word? value then return .other (e.text ++ " IS " ++ value)
    if ← words? ["NOT", value] then return .other (e.text ++ " IS NOT " ++ value)
  if ← words? ["DISTINCT", "FROM"] then
    return .other (e.text ++ " IS DISTINCT FROM " ++ (← l.expr).text)
  if ← words? ["NOT", "DISTINCT", "FROM"] then
    return .other (e.text ++ " IS NOT DISTINCT FROM " ++ (← l.expr).text)
  for form in ["", "NFC", "NFD", "NFKC", "NFKD"] do
    let form := if form = "" then [] else [form]
    if ← words? (form ++ ["NORMALIZED"]) then
      return .other (e.text ++ " IS " ++ " ".intercalate (form ++ ["NORMALIZED"]))
    if ← words? ("NOT" :: form ++ ["NORMALIZED"]) then
      return .other (e.text ++ " IS NOT " ++ " ".intercalate (form ++ ["NORMALIZED"]))
  expected "[NOT] NULL | TRUE | FALSE | DISTINCT | [form] NORMALIZED FROM after IS"

/-- The test that an expression is in a list or in the result of a query, IN being taken off. -/
def inExpr (d : Dialect) (l : Level) (e : Expr) (negated : Bool) : Parser Expr := do
  let test := e.text ++ " " ++ notWord negated ++ "IN "
  if ← word? "UNNEST" then
    let text ← bracketed l.expr
    return .other (test ++ "UNNEST(" ++ text.text ++ ")")
  sign "("
  let query ← attempt l.query
  match query with
  | some query =>
    sign ")"
    return .other (test ++ "(" ++ query.text ++ ")")
  | none =>
    let items ← exprs d l
    sign ")"
    return .inList negated e items

/-- A pattern behind its operator, as it is printed. -/
def patternText (l : Level) : Parser String := do
  let pattern ← l.operand precedence.pattern
  let escape ← after? ["ESCAPE"] literal
  return pattern.text ++ ((escape.map (" ESCAPE " ++ ·.text)).getD "")

/-- A test that may be negated. -/
def negatableExpr (d : Dialect) (l : Level) (e : Expr) : Parser Expr := do
  let negated ← word? "NOT"
  let test := e.text ++ " " ++ notWord negated
  if let some keyword ← oneOf? ["REGEXP", "RLIKE"] then
    return .other (test ++ keyword ++ " " ++ (← l.operand precedence.pattern).text)
  if ← word? "NULL" then
    if negated then return .isNull true e else expected "IN or BETWEEN after NOT"
  if ← word? "IN" then return ← inExpr d l e negated
  if ← word? "BETWEEN" then
    let low ← l.operand precedence.comparison
    word "AND"
    let high ← l.operand precedence.comparison
    return .between negated e low high
  if let some keyword ← oneOf? ["LIKE", "ILIKE"] then
    let any := if ← word? "ANY" then "ANY " else ""
    return .other (test ++ keyword ++ " " ++ any ++ (← patternText l))
  if ← words? ["SIMILAR", "TO"] then return .other (test ++ "SIMILAR TO " ++ (← patternText l))
  expected "IN or BETWEEN after NOT"

/-- The right operand of an operator that is taken off. -/
def binaryExpr (l : Level) (left : Expr) (op : BinaryOp) (tightness : Nat) : Parser Expr := do
  match ← oneOf? ["ANY", "ALL", "SOME"] with
  | none => return .binary op left (← l.operand tightness)
  | some keyword =>
    let key ← peekSecondKey
    let right ←
      if key = "SELECT" || key = "WITH" then do
        let e ← l.operand tightness
        pure e.text
      else do
        let e ← bracketed (l.operand tightness)
        pure ("(" ++ e.text ++ ")")
    match op with
    | .and | .or => invalid "Expected a comparison operator"
    | _ =>
      return .other (left.text ++ " " ++ op.text ++ " " ++ keyword ++ right)

/-- An operand with the operator behind it, which binds as tightly as given. -/
def infixExpr (d : Dialect) (l : Level) (left : Expr) (tightness : Nat) : Parser Expr := do
  match ← peek with
  | some (.sign "::") =>
    advance
    return .other (left.text ++ "::" ++ (← dataType d l).text)
  | some (.sign text) =>
    match signOperator? d text with
    | some op =>
      advance
      binaryExpr l left op tightness
    | none => invalid "No infix parser for token"
  | some (.word _ key) =>
    match wordOperator? key with
    | some op =>
      advance
      binaryExpr l left op tightness
    | none =>
      match key with
      | "IS" =>
        advance
        testExpr l left
      | "AT" =>
        words ["AT", "TIME", "ZONE"]
        return .other (left.text ++ " AT TIME ZONE " ++ (← l.operand tightness).text)
      | "NOTNULL" =>
        advance
        return .isNull true left
      | "NOT" | "IN" | "BETWEEN" | "LIKE" | "ILIKE" | "SIMILAR" | "REGEXP" | "RLIKE" =>
        negatableExpr d l left
      | _ => invalid "No infix parser for token"
  | _ => invalid "No infix parser for token"

/-- An operand with every operator behind it that binds more tightly than `bound`. -/
def operators (d : Dialect) (l : Level) (bound : Nat) (left : Expr) : (rounds : Nat) → Parser Expr
  | 0 => return left
  | rounds + 1 => do
    let tightness ← nextPrecedence d
    if tightness ≤ bound then return left
    if ← atSign "." then return left
    let e ← infixExpr d l left tightness
    operators d l bound e rounds

/-- The collation behind an expression. -/
def collated (d : Dialect) (l : Level) (e : Expr) : Parser Expr := do
  if ← word? "COLLATE" then return .other (e.text ++ " COLLATE " ++ (← objectName d l).text)
  return e

/-- An expression whose operators bind more tightly than `bound`. -/
def operand (d : Dialect) (l : Level) (bound : Nat) : Parser Expr := do
  let e ← primary d l
  let e ← collated d l e
  let e ← loop (parts l e)
  let e ← collated d l e
  loop (operators d l bound e)

end Parser

end Sql

end FromClause
