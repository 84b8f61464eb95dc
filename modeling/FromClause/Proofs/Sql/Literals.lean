import FromClause.Proofs.Sql.Operators
import FromClause.Proofs.Sql.Tokens
/-!
# The numbers of an expression

An expression has its numbers from the tokens, so all of them are numerals (`Expr.HasNumerals`, `operand_yields`). Most
of what an expression is made of is kept as text, and of the parsers for it nothing is wanted but that they leave lexed
tokens.
-/

open Std.Do

set_option mvcgen.warning false

namespace FromClause

namespace Sql

/-! ## Expressions -/

/-- The literal is no number, or a numeral. -/
def Literal.HasNumeral (value : Literal) : Prop := ∀ digits long, value = .number digits long → IsNumeral digits

/-- **All numbers of an expression are numerals.** -/
inductive Expr.HasNumerals : Expr → Prop
  /-- A column has no number. -/
  | column {names : List Name} : HasNumerals (.column names)
  /-- A literal may be one. -/
  | literal {value : Literal} : value.HasNumeral → HasNumerals (.literal value)
  /-- The numbers on both sides of an operator are numerals. -/
  | binary {op : BinaryOp} {left right : Expr} : HasNumerals left → HasNumerals right →
    HasNumerals (.binary op left right)
  /-- So are those behind an operator, -/
  | unary {op : UnaryOp} {operand : Expr} : HasNumerals operand → HasNumerals (.unary op operand)
  /-- in brackets, -/
  | nested {inner : Expr} : HasNumerals inner → HasNumerals (.nested inner)
  /-- and in tests. -/
  | isNull {negated : Bool} {operand : Expr} : HasNumerals operand → HasNumerals (.isNull negated operand)
  /-- A range has those of its bounds. -/
  | between {negated : Bool} {operand low high : Expr} : HasNumerals operand → HasNumerals low → HasNumerals high →
    HasNumerals (.between negated operand low high)
  /-- A list has those of its items. -/
  | inList {negated : Bool} {operand : Expr} {items : List Expr} : HasNumerals operand →
    (∀ item ∈ items, HasNumerals item) → HasNumerals (.inList negated operand items)
  /-- A call is text. -/
  | applied {text : String} : HasNumerals (.applied text)
  /-- So is anything else. -/
  | other {text : String} : HasNumerals (.other text)

attribute [grind <=] Expr.HasNumerals.column Expr.HasNumerals.literal Expr.HasNumerals.binary
  Expr.HasNumerals.unary Expr.HasNumerals.nested Expr.HasNumerals.isNull Expr.HasNumerals.between
  Expr.HasNumerals.inList Expr.HasNumerals.applied Expr.HasNumerals.other

attribute [grind] Literal.HasNumeral

/-- A part of a name is a part of text. -/
@[grind .]
theorem Parser.pointed_hasNumerals (root part : Expr) : (Parser.pointed root part).HasNumerals := by
  unfold Parser.pointed
  split
  · exact .column
  · exact .applied

/-! ## Statements -/

/-- All numbers of a condition are numerals. -/
def JoinConstraint.HasNumerals : JoinConstraint → Prop
  | .on condition => condition.HasNumerals
  | .using _ | .natural | .none => True

/-- All numbers of the conditions of some join operators are numerals. -/
def AllHaveNumerals (operators : List JoinOperator) : Prop := ∀ op ∈ operators, op.constraint.HasNumerals

/-! ## What stands inside each other -/

/-- **The parsers of a level** leave lexed tokens, and the numbers that they yield are numerals. -/
class Level.Sound (l : Level) : Prop where
  /-- Those of statements do. -/
  statement : l.statement.Yields fun s => AllHaveNumerals s.operators
  /-- Those of queries do. -/
  query : l.query.Yields fun q => AllHaveNumerals q.body.operators
  /-- Those of expressions do. -/
  operand (precedence : Nat) : (l.operand precedence).Yields Expr.HasNumerals
  /-- Those of sources do. -/
  factor : l.factor.Yields fun source => AllHaveNumerals source.operators

attribute [spec] Level.Sound.statement Level.Sound.query Level.Sound.operand Level.Sound.factor

namespace Parser

variable (d : Dialect) (l : Level) [l.Sound]

@[spec]
theorem expr_yields : l.expr.Yields Expr.HasNumerals := Level.Sound.operand 0

/-! ## Names and types -/

@[spec]
theorem name_leaves : name.Leaves := by
  mvcgen [name] with grind

theorem nameParts_leaves {arguments : Parser (List String)} (h : arguments.Leaves) (before : ObjectName)
    (rounds : Nat) : (nameParts d arguments before rounds).Leaves := by
  induction rounds generalizing before with
  | zero => mvcgen [nameParts]
  | succ rounds ih => mvcgen [nameParts, h, ih]

@[spec]
theorem exprs_yields : (exprs d l).Yields fun es => ∀ e ∈ es, e.HasNumerals :=
  list_yields d.trailing (expr_yields l)

@[spec]
theorem objectName_leaves : (objectName d l).Leaves := by
  refine loop_leaves fun rounds => nameParts_leaves d ?_ [] rounds
  mvcgen with grind

@[spec]
theorem typeArguments_leaves (separator : String) : (typeArguments separator).Leaves := by
  mvcgen [typeArguments] with grind

@[spec]
theorem suffix_leaves (text : String) : (suffix text).Leaves := by
  mvcgen [suffix]

@[spec]
theorem timeZone_leaves : timeZone.Leaves := by
  mvcgen [timeZone]

@[spec]
theorem builtInType_leaves (key : String) : (builtInType key).Leaves := by
  mvcgen [builtInType]

@[spec]
theorem arrayMarks_leaves (text : String) (rounds : Nat) : (arrayMarks text rounds).Leaves := by
  induction rounds generalizing text with
  | zero => mvcgen [arrayMarks]
  | succ rounds ih => mvcgen [arrayMarks, ih] with grind

@[spec]
theorem dataType_leaves : (dataType d l).Leaves := by
  mvcgen [dataType] with grind

/-! ## Literals -/

@[spec]
theorem nextPrecedence_leaves : (nextPrecedence d).Leaves := by
  mvcgen [nextPrecedence] with grind

/-- **A literal is a number only where a token is.** -/
@[spec]
theorem literal_yields : literal.Yields Literal.HasNumeral := by
  mvcgen [literal] with grind

@[spec]
theorem typedLiteral_yields : (typedLiteral d l).Yields Expr.HasNumerals := by
  mvcgen [typedLiteral] with grind

/-! ## Pieces of calls -/

@[spec]
theorem exprTexts_leaves : (exprTexts d l).Leaves := by
  mvcgen [exprTexts] with grind

@[spec]
theorem orderItem_leaves : (orderItem l).Leaves := by
  mvcgen [orderItem] with grind

@[spec]
theorem orderItems_leaves : (orderItems d l).Leaves := by
  mvcgen [orderItems]

@[spec]
theorem starQualifier_leaves (before : List Name) (rounds : Nat) : (starQualifier before rounds).Leaves := by
  induction rounds generalizing before with
  | zero => mvcgen [starQualifier]
  | succ rounds ih => mvcgen [starQualifier, ih] with grind

@[spec]
theorem starOrExpr_yields : (starOrExpr l).Yields fun r => r.2.HasNumerals := by
  have hstar {p : Parser (Bool × Expr)} (h : p.Yields fun r => r.2.HasNumerals) := attempt_yields h
  mvcgen [starOrExpr, hstar] with grind

@[spec]
theorem argument_leaves : (argument l).Leaves := by
  mvcgen [argument] with grind

@[spec]
theorem arguments_leaves : (arguments d l).Leaves := by
  mvcgen [arguments] with grind

@[spec]
theorem frameBound_leaves : (frameBound l).Leaves := by
  mvcgen [frameBound] with grind

@[spec]
theorem windowSpec_leaves : (windowSpec d l).Leaves := by
  mvcgen [windowSpec] with grind

@[spec]
theorem callSuffix_leaves : (callSuffix d l).Leaves := by
  mvcgen [callSuffix] with grind

@[spec]
theorem call_yields (function : String) : (call d l function).Yields Expr.HasNumerals := by
  mvcgen [call] with grind

/-! ## Keywords that introduce an expression -/

@[spec]
theorem caseBranches_leaves (rounds : Nat) : (caseBranches l rounds).Leaves := by
  induction rounds with
  | zero => mvcgen [caseBranches]
  | succ rounds ih => mvcgen [caseBranches, ih] with grind

@[spec]
theorem caseExpr_yields : (caseExpr l).Yields Expr.HasNumerals := by
  mvcgen [caseExpr] with grind

@[spec]
theorem castExpr_yields (keyword : String) : (castExpr d l keyword).Yields Expr.HasNumerals := by
  refine bracketed_yields ?_
  mvcgen with grind

@[spec]
theorem existsExpr_yields (negated : Bool) : (existsExpr l negated).Yields Expr.HasNumerals := by
  mvcgen [existsExpr] with grind

@[spec]
theorem extractExpr_yields : (extractExpr l).Yields Expr.HasNumerals := by
  refine bracketed_yields ?_
  mvcgen with grind

@[spec]
theorem roundingExpr_yields (keyword : String) : (roundingExpr l keyword).Yields Expr.HasNumerals := by
  refine bracketed_yields ?_
  mvcgen with grind

@[spec]
theorem positionExpr_yields : (positionExpr l).Yields Expr.HasNumerals := by
  refine bracketed_yields ?_
  mvcgen with grind

@[spec]
theorem substringExpr_yields (keyword : String) : (substringExpr l keyword).Yields Expr.HasNumerals := by
  refine bracketed_yields ?_
  mvcgen with grind

@[spec]
theorem trimExpr_yields : (trimExpr d l).Yields Expr.HasNumerals := by
  refine bracketed_yields ?_
  mvcgen with grind

@[spec]
theorem intervalExpr_yields : (intervalExpr l).Yields Expr.HasNumerals := by
  mvcgen [intervalExpr] with grind

@[spec]
theorem notExpr_yields : (notExpr l).Yields Expr.HasNumerals := by
  mvcgen [notExpr] with grind

@[spec]
theorem introduced?_yields (n : Name) (key : String) :
    (introduced? d l n key).Yields fun r => ∀ e ∈ r, e.HasNumerals := by
  mvcgen [introduced?] with grind

@[spec]
theorem plainWord_yields (n : Name) : (plainWord d l n).Yields Expr.HasNumerals := by
  mvcgen [plainWord] with grind

/-- What a keyword introduces and what a plain word is are tried one after the other, from the same tokens. -/
@[spec]
theorem wordExpr_yields (n : Name) (key : String) : (wordExpr d l n key).Yields Expr.HasNumerals := by
  have hintroduced := triple_iff.1 (introduced?_yields d l n key)
  have hplain := triple_iff.1 (plainWord_yields d l n)
  refine triple_iff.2 fun tokens htokens e rest heq => ?_
  rw [wordExpr] at heq
  split at heq
  next hread =>
    cases heq
    obtain ⟨hrest, he⟩ := hintroduced tokens htokens _ _ hread
    exact ⟨hrest, he e rfl⟩
  next => exact hplain tokens htokens e rest heq
  next => cases heq
  next =>
    split at heq
    · cases heq
    · split at heq
      next hread =>
        cases heq
        exact hplain tokens htokens e rest hread
      next => cases heq
      next => cases heq

/-! ## Operands -/

@[spec]
theorem bracketExpr_yields : (bracketExpr d l).Yields Expr.HasNumerals := by
  mvcgen [bracketExpr] with grind

@[spec]
theorem primary_yields : (primary d l).Yields Expr.HasNumerals := by
  have htyped := attempt_yields (typedLiteral_yields d l)
  mvcgen [primary, htyped] with grind

@[spec]
theorem partExpr_yields : (partExpr l).Yields Expr.HasNumerals := by
  have hpart {p : Parser Expr} (h : p.Yields Expr.HasNumerals) := attempt_yields h
  mvcgen [partExpr, hpart] with grind

@[spec]
theorem subscript_leaves : (subscript l).Leaves := by
  mvcgen [subscript] with grind

theorem parts_yields {root : Expr} (hroot : root.HasNumerals) (rounds : Nat) :
    (parts l root rounds).Yields Expr.HasNumerals := by
  induction rounds generalizing root with
  | zero => mvcgen [parts]
  | succ rounds ih => mvcgen [parts, ih] with grind

/-! ## Operators behind an operand -/

section Behind

variable {d l} {e : Expr}

@[spec]
theorem testExpr_yields (he : e.HasNumerals) : (testExpr l e).Yields Expr.HasNumerals := by
  simp only [testExpr, List.forIn_cons, List.forIn_nil]
  mvcgen with grind

@[spec]
theorem inExpr_yields (he : e.HasNumerals) (negated : Bool) : (inExpr d l e negated).Yields Expr.HasNumerals := by
  mvcgen [inExpr] with grind

@[spec]
theorem patternText_leaves : (patternText l).Leaves := by
  mvcgen [patternText] with grind

@[spec]
theorem negatableExpr_yields (he : e.HasNumerals) : (negatableExpr d l e).Yields Expr.HasNumerals := by
  mvcgen [negatableExpr] with grind

@[spec]
theorem binaryExpr_yields (he : e.HasNumerals) (op : BinaryOp) (tightness : Nat) :
    (binaryExpr l e op tightness).Yields Expr.HasNumerals := by
  mvcgen [binaryExpr] with grind

@[spec]
theorem infixExpr_yields (he : e.HasNumerals) (tightness : Nat) :
    (infixExpr d l e tightness).Yields Expr.HasNumerals := by
  mvcgen [infixExpr] with grind

@[spec]
theorem operators_yields (bound : Nat) (he : e.HasNumerals) (rounds : Nat) :
    (operators d l bound e rounds).Yields Expr.HasNumerals := by
  induction rounds generalizing e with
  | zero => mvcgen [operators]
  | succ rounds ih => mvcgen [operators, ih] with grind

@[spec]
theorem collated_yields (he : e.HasNumerals) : (collated d l e).Yields Expr.HasNumerals := by
  mvcgen [collated] with grind

end Behind

/-- **An expression has its numbers from the tokens.** -/
@[spec]
theorem operand_yields (bound : Nat) : (operand d l bound).Yields Expr.HasNumerals := by
  have hloop {round : Nat → Parser Expr} (h : ∀ rounds, (round rounds).Yields Expr.HasNumerals) := loop_yields h
  mvcgen [operand, hloop, parts_yields] with grind

end Parser

end Sql

end FromClause
