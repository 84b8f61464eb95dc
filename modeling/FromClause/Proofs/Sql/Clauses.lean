import FromClause.Proofs.Sql.Literals
/-!
# The numbers of a statement

What parsers for tables, queries and statements hand on of expressions are the conditions of joins, so the numbers there
are numerals as well (`Dialect.hasNumerals_of_parseSingle`).
-/

open Std.Do

set_option mvcgen.warning false

namespace FromClause

namespace Sql

/-! ## Lists of join operators -/

@[grind .]
theorem allHaveNumerals_nil : AllHaveNumerals [] := List.forall_mem_nil _

@[grind =]
theorem allHaveNumerals_cons {op : JoinOperator} {ops : List JoinOperator} :
    AllHaveNumerals (op :: ops) ↔ op.constraint.HasNumerals ∧ AllHaveNumerals ops := List.forall_mem_cons

@[grind =]
theorem allHaveNumerals_append {ops more : List JoinOperator} :
    AllHaveNumerals (ops ++ more) ↔ AllHaveNumerals ops ∧ AllHaveNumerals more := List.forall_mem_append

attribute [grind =] TableItem.operators TableFactor.operators QueryBody.operators Statement.operators
attribute [grind] JoinConstraint.HasNumerals

namespace Parser

variable (d : Dialect) (l : Level) [l.Sound]

/-! ## Tables -/

@[spec]
theorem alias?_leaves (accepts : String → Option Token → Bool) : (alias? accepts).Leaves := by
  mvcgen [alias?] with grind

@[spec]
theorem aliasColumns_leaves : (aliasColumns d l).Leaves := by
  mvcgen [aliasColumns]

@[spec]
theorem tableAlias?_leaves : (tableAlias? d l).Leaves := by
  mvcgen [tableAlias?]

@[spec]
theorem rowTexts_leaves : (rowTexts d l).Leaves := by
  mvcgen [rowTexts]

@[spec]
theorem derivedTable_yields (lateral : Bool) :
    (derivedTable d l lateral).Yields fun source => AllHaveNumerals source.operators := by
  mvcgen [derivedTable] with grind

@[spec]
theorem sample_leaves : (sample l).Leaves := by
  mvcgen [sample] with grind

@[spec]
theorem namedTable_yields : (namedTable d l).Yields fun source => AllHaveNumerals source.operators := by
  mvcgen [namedTable] with grind

/-! ## Joins -/

@[spec]
theorem joinConstraint_yields (natural : Bool) :
    (joinConstraint d l natural).Yields JoinConstraint.HasNumerals := by
  mvcgen [joinConstraint]

@[spec]
theorem joinKeywords?_leaves (natural : Bool) : (joinKeywords? natural).Leaves := by
  mvcgen [joinKeywords?] with grind

@[spec]
theorem specialJoin?_yields : (specialJoin? d l).Yields fun r => ∀ op right, r = some (op, right) →
    op.constraint.HasNumerals ∧ AllHaveNumerals right.operators := by
  mvcgen [specialJoin?] with grind

@[spec]
theorem rightJoinFollows_leaves : (rightJoinFollows d).Leaves := by
  mvcgen [rightJoinFollows]

theorem joins_yields {left : TableItem} (hleft : AllHaveNumerals left.operators) (rounds : Nat) :
    (joins d l left rounds).Yields fun item => AllHaveNumerals item.operators := by
  induction rounds generalizing left with
  | zero => mvcgen [joins]
  | succ rounds ih => mvcgen [joins, ih] with grind

@[spec]
theorem tableItem_yields : (tableItem d l).Yields fun item => AllHaveNumerals item.operators := by
  have hjoins {factor : TableFactor} (h : AllHaveNumerals factor.operators) := by
    have hleft : AllHaveNumerals (TableItem.factor factor).operators := by grind
    exact loop_yields (joins_yields d l hleft)
  mvcgen [tableItem, hjoins] with grind

/-- An alias put on a source from outside leaves its operators as they are. -/
@[spec]
theorem realiased_operators (outer : TableAlias) (source : TableFactor) :
    ⦃⌜True⌝⦄ realiased outer source ⦃⇓? source' => ⌜source'.operators = source.operators⌝⦄ := by
  rw [Triple.iff]
  intro _
  cases hread : realiased outer source with
  | error e => exact trivial
  | ok source' => exact operators_realiased hread

@[spec]
theorem bracketedItem_yields : (bracketedItem d l).Yields fun source => AllHaveNumerals source.operators := by
  mvcgen [bracketedItem] with grind

@[spec]
theorem factor_yields : (factor d l).Yields fun source => AllHaveNumerals source.operators := by
  have hderived := attempt_yields (derivedTable_yields d l false)
  mvcgen [factor, hderived] with grind

/-! ## FROM clauses -/

@[spec]
theorem itemsEnd_leaves : itemsEnd.Leaves := by
  mvcgen [itemsEnd] with grind

@[spec]
theorem tableItems_yields :
    (tableItems d l).Yields fun items => AllHaveNumerals (items.flatMap TableItem.operators) := by
  refine loop_yields fun rounds => ?_
  induction rounds with
  | zero =>
    mvcgen [itemRounds]
    grind
  | succ rounds ih => mvcgen [itemRounds, ih] with grind

/-! ## Results -/

@[spec]
theorem starNames_leaves : starNames.Leaves := by
  mvcgen [starNames]

@[spec]
theorem starOptions_leaves : (starOptions d l).Leaves := by
  mvcgen [starOptions] with grind

@[spec]
theorem resultItem_leaves : (resultItem d l).Leaves := by
  mvcgen [resultItem] with grind

@[spec]
theorem results_leaves : (results d l).Leaves := by
  mvcgen [results]

@[spec]
theorem distinctness_leaves : (distinctness d l).Leaves := by
  mvcgen [distinctness] with grind

@[spec]
theorem topCount_leaves : (topCount l).Leaves := by
  mvcgen [topCount] with grind

@[spec]
theorem intoTable_leaves : (intoTable d l).Leaves := by
  mvcgen [intoTable]

/-! ## Groups and windows -/

@[spec]
theorem groupItem_leaves : (groupItem d l).Leaves := by
  mvcgen [groupItem] with grind

@[spec]
theorem groups_leaves : (groups d l).Leaves := by
  mvcgen [groups]

@[spec]
theorem namedWindows_leaves : (namedWindows d l).Leaves := by
  mvcgen [namedWindows]

@[spec]
theorem connections_leaves : (connections d l).Leaves := by
  mvcgen [connections] with grind

/-! ## SELECT -/

@[spec]
theorem selectTail_leaves : (selectTail d l).Leaves := by
  mvcgen [selectTail] with grind

/-- **The conditions of a plain SELECT** have numerals for their numbers. -/
@[spec]
theorem select_yields : (select d l).Yields fun r => AllHaveNumerals (r.1.items.flatMap TableItem.operators) := by
  have hfrom := after?_yields ["FROM"] (tableItems_yields d l)
  -- a SELECT without FROM has no items
  have hitems : ∀ items? : Option (List TableItem),
      (∀ items ∈ items?, AllHaveNumerals (items.flatMap TableItem.operators)) →
      AllHaveNumerals ((items?.getD []).flatMap TableItem.operators) := by
    intro items? h
    cases items? with
    | none => exact allHaveNumerals_nil
    | some items => exact h items rfl
  mvcgen [select, hfrom] with grind

/-! ## Set operations -/

@[spec]
theorem setQuantifier_leaves (key : String) : (setQuantifier key).Leaves := by
  mvcgen [setQuantifier]

@[spec]
theorem queryPrimary_yields : (queryPrimary d l).Yields fun r => AllHaveNumerals r.1.operators := by
  mvcgen [queryPrimary] with grind

@[spec]
theorem setOperations_yields (bound : Nat) {left : QueryBody × String} (hleft : AllHaveNumerals left.1.operators)
    (rounds : Nat) : (setOperations d l bound left rounds).Yields fun r => AllHaveNumerals r.1.operators := by
  induction rounds generalizing bound left with
  | zero => mvcgen [setOperations]
  | succ rounds ih => mvcgen [setOperations, ih] with grind

@[spec]
theorem queryBody_yields : (queryBody d l).Yields fun r => AllHaveNumerals r.1.operators := by
  have hloop {first : QueryBody × String} (h : AllHaveNumerals first.1.operators) :=
    loop_yields (setOperations_yields d l 0 h)
  mvcgen [queryBody, hloop] with grind

/-! ## Queries -/

@[spec]
theorem cte_leaves : (cte d l).Leaves := by
  mvcgen [cte] with grind

@[spec]
theorem ctes_leaves : (ctes d l).Leaves := by
  mvcgen [ctes]

@[spec]
theorem offsetCount_leaves : (offsetCount l).Leaves := by
  mvcgen [offsetCount] with grind

@[spec]
theorem limitClause_leaves : (limitClause d l).Leaves := by
  mvcgen [limitClause] with grind

@[spec]
theorem fetchCount_leaves : (fetchCount l).Leaves := by
  mvcgen [fetchCount] with grind

@[spec]
theorem locks_leaves (rounds : Nat) : (locks d l rounds).Leaves := by
  induction rounds with
  | zero => mvcgen [locks]
  | succ rounds ih => mvcgen [locks, ih] with grind

@[spec]
theorem queryTail_leaves : (queryTail d l).Leaves := by
  mvcgen [queryTail]

@[spec]
theorem query_yields : (query d l).Yields fun q => AllHaveNumerals q.body.operators := by
  mvcgen [query] with grind

/-! ## Statements -/

@[spec]
theorem skipStatement_leaves : skipStatement.Leaves := by
  mvcgen [skipStatement] with exact Lexed.sublist ‹_› (List.dropWhile_sublist _)

@[spec]
theorem skipBrackets_leaves (depth rounds : Nat) : (skipBrackets depth rounds).Leaves := by
  induction rounds generalizing depth with
  | zero => mvcgen [skipBrackets]
  | succ rounds ih => mvcgen [skipBrackets, ih] with grind

@[spec]
theorem assignments_leaves : (assignments d l).Leaves := by
  mvcgen [assignments] with grind

@[spec]
theorem returning_leaves : (returning d l).Leaves := by
  mvcgen [returning]

@[spec]
theorem insert_leaves : (insert d l).Leaves := by
  mvcgen [insert] with grind

@[spec]
theorem update_leaves : (update d l).Leaves := by
  mvcgen [update] with grind

@[spec]
theorem delete_leaves : (delete d l).Leaves := by
  mvcgen [delete] with grind

@[spec]
theorem createTable_leaves : (createTable d l).Leaves := by
  mvcgen [createTable] with grind

@[spec]
theorem create_leaves : (create d l).Leaves := by
  mvcgen [create]

@[spec]
theorem dropObject_leaves : (dropObject d l).Leaves := by
  mvcgen [dropObject] with grind

@[spec]
theorem transactionEnd_leaves : transactionEnd.Leaves := by
  mvcgen [transactionEnd]

@[spec]
theorem statement_yields : (statement d l).Yields fun s => AllHaveNumerals s.operators := by
  mvcgen [statement] with grind

theorem statements_yields (ended : Bool) (rounds : Nat) :
    (statements l ended rounds).Yields fun ss => ∀ s ∈ ss, AllHaveNumerals s.operators := by
  induction rounds generalizing ended with
  | zero =>
    mvcgen [statements]
    grind
  | succ rounds ih => mvcgen [statements, ih] with grind

end Parser

/-! ## Whole texts -/

/-- **Every level is sound**: a parser is made of those one level further in. -/
theorem Level.sound_ofDepth (d : Dialect) (depth : Nat) : (Level.ofDepth d depth).Sound := by
  induction depth with
  | zero =>
    constructor
    all_goals
      intros
      exact Parser.triple_iff.2 fun _ _ _ _ h => by cases h
  | succ depth ih =>
    exact ⟨Parser.statement_yields d _, Parser.query_yields d _, Parser.operand_yields d _, Parser.factor_yields d _⟩

/-- **The numbers of a statement are numerals**, in every text that holds a single statement. -/
theorem Dialect.allHaveNumerals_of_parseSingle {d : Dialect} {text : String} {s : Statement}
    (h : d.parseSingle text = .ok s) : AllHaveNumerals s.operators := by
  obtain ⟨tokens, ss, rest, htokens, hrun, hs⟩ := exists_run_of_parseSingle h
  have _ : d.level.Sound := Level.sound_ofDepth d maxDepth
  have hall := Parser.loop_yields fun rounds => Parser.statements_yields d.level false rounds
  exact (Parser.triple_iff.1 hall tokens (lexed_of_lex htokens) ss rest hrun).2 s hs

end Sql

end FromClause
