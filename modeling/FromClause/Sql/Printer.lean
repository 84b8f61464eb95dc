import FromClause.Sql.Syntax
/-!
# Normalised text

Names, expressions and tables as an error message shows them: single spaces, keywords in capitals, the
spelling of names kept.
-/

namespace FromClause

namespace Sql

/-- The characters of a quoted text, as they stand between the quotes. A lone quote is doubled. A pair of
quotes, or a quote behind a backslash, is taken to be escaped already. -/
def escapeQuotes (quote : Char) : (afterBackslash : Bool) → List Char → List Char
  | _, [] => []
  | afterBackslash, c :: rest =>
    if c = quote then
      if afterBackslash then c :: escapeQuotes quote true rest
      else
        match rest with
        | [] => [c, c]
        | d :: rest' =>
          if d = quote then c :: d :: escapeQuotes quote false rest'
          else c :: c :: escapeQuotes quote false (d :: rest')
    else c :: escapeQuotes quote (c = '\\') rest

/-- A text between quotes. -/
def quoted (quote : Char) (value : String) : String :=
  String.ofList (quote :: (escapeQuotes quote false value.toList ++ [quote]))

/-- Texts with a comma and a space between them. -/
def commaList (texts : List String) : String := ", ".intercalate texts

namespace Name

/-- The name with its quotes. -/
def text : Name → String
  | ⟨value, some quote⟩ => quoted quote value
  | ⟨value, none⟩ => value

end Name

/-- The part as it is printed. -/
def NamePart.text : NamePart → String
  | name n => n.text
  | computed text => text

/-- The name of a table as it is printed. -/
def ObjectName.text (name : ObjectName) : String := ".".intercalate (name.map NamePart.text)

/-- The literal as it is printed. -/
def Literal.text : Literal → String
  | number digits long => digits ++ if long then "L" else ""
  | string value => quoted '\'' value
  | doubleQuoted value => quoted '"' value
  | boolean value => if value then "true" else "false"
  | null => "NULL"
  | other text => text

/-- The operator as it is printed. -/
def BinaryOp.text : BinaryOp → String
  | and => "AND"
  | or => "OR"
  | compare op => op.symbol
  | other symbol => symbol

/-- The operator as it stands before its operand. -/
def UnaryOp.text : UnaryOp → String
  | not => "NOT "
  | minus => "-"
  | plus => "+"
  | tilde => "~"

/-- The word NOT, where a test is negated. -/
def notWord (negated : Bool) : String := if negated then "NOT " else ""

mutual

/-- The expression as it is printed. -/
def Expr.text : Expr → String
  | .column names => ".".intercalate (names.map Name.text)
  | .literal value => value.text
  | .binary op left right => left.text ++ " " ++ op.text ++ " " ++ right.text
  | .unary op operand => op.text ++ operand.text
  | .nested inner => "(" ++ inner.text ++ ")"
  | .isNull negated operand => operand.text ++ " IS " ++ notWord negated ++ "NULL"
  | .between negated operand low high =>
    operand.text ++ " " ++ notWord negated ++ "BETWEEN " ++ low.text ++ " AND " ++ high.text
  | .inList negated operand items =>
    operand.text ++ " " ++ notWord negated ++ "IN (" ++ commaList (Expr.texts items) ++ ")"
  | .applied text => text
  | .other text => text

/-- Several expressions as they are printed. -/
def Expr.texts : List Expr → List String
  | [] => []
  | e :: es => e.text :: Expr.texts es

end

/-- The column as it is printed. -/
def AliasColumn.text (c : AliasColumn) : String :=
  c.name.text ++ (c.type.map (" " ++ ·)).getD ""

/-- The alias as it is printed. -/
def TableAlias.text (a : TableAlias) : String :=
  (if a.explicit then "AS " else "") ++ a.name.text ++
    if a.columns.isEmpty then "" else " (" ++ commaList (a.columns.map AliasColumn.text) ++ ")"

/-- A source with its alias, if it has one. -/
def withAlias (text : String) : Option TableAlias → String
  | some label => text ++ " " ++ label.text
  | none => text

/-- A join operator and the source behind it as they are printed. -/
def JoinOperator.text (operator : JoinOperator) (factor : String) : String :=
  let join := operator.keywords ++ " " ++ factor
  match operator.constraint with
  | .on condition => join ++ " ON " ++ condition.text
  | .using columns => join ++ " USING(" ++ commaList (columns.map ObjectName.text) ++ ")"
  | .natural => "NATURAL " ++ join
  | .none => join

mutual

/-- The source as it is printed. -/
def TableFactor.text : TableFactor → String
  | .table name arguments label =>
    withAlias (name.text ++ (arguments.map fun args => "(" ++ args ++ ")").getD "") label
  | .nested item label => withAlias ("(" ++ item.text ++ ")") label
  | .derived text label => withAlias text label
  | .other text label => withAlias text label

/-- The item as it is printed. -/
def TableItem.text : TableItem → String
  | .factor source => source.text
  | .join left operator right => left.text ++ " " ++ operator.text right.text

end

end Sql

end FromClause
