import FromClause.Proofs.Data.Outcome
import FromClause.Sql.Parser.Statement
/-!
# The join operators of a text

The operators of a FROM clause, at any depth of brackets, and what can be said of those that a text has. A
cross join takes no constraint: none is read behind it, whatever follows, so a statement that comes from a text
has only cross joins without one (`lawful_of_parseSingle`).

The parsers are followed through what they yield alone. `Ensures` says that all values of a parser have a
property, and it needs to look only at the steps that hand on a part of the clause.
-/

namespace FromClause

namespace Sql

/-! ## Operators -/

mutual

/-- The join operators within a single source, from left to right. -/
def TableFactor.operators : TableFactor → List JoinOperator
  | .nested item _ => item.operators
  | .table .. | .derived .. | .other .. => []

/-- The join operators of an item of a FROM clause, from left to right, with those in brackets. -/
def TableItem.operators : TableItem → List JoinOperator
  | .factor source => source.operators
  | .join left operator right => left.operators ++ operator :: right.operators

end

/-- The join operators of the FROM clause of a query. -/
def QueryBody.operators : QueryBody → List JoinOperator
  | .select s => s.items.flatMap TableItem.operators
  | .other => []

/-- The join operators of the FROM clause of a statement. -/
def Statement.operators : Statement → List JoinOperator
  | .query q => q.body.operators
  | .command _ => []

/-- A join operator that keeps every pair of rows has no constraint. -/
def JoinOperator.Lawful (op : JoinOperator) : Prop := op.family = .cross → op.constraint = .none

theorem JoinOperator.lawful_of_ne {op : JoinOperator} (h : op.family ≠ .cross) : op.Lawful :=
  fun hcross => absurd hcross h

/-- All of some operators are lawful. -/
def AllLawful (ops : List JoinOperator) : Prop := ∀ op ∈ ops, op.Lawful

theorem allLawful_nil : AllLawful [] := List.forall_mem_nil _

theorem allLawful_join {left : TableItem} {op : JoinOperator} {right : TableFactor} :
    AllLawful (TableItem.join left op right).operators ↔
      AllLawful left.operators ∧ op.Lawful ∧ AllLawful right.operators := by
  rw [TableItem.operators, AllLawful, List.forall_mem_append, List.forall_mem_cons]
  rfl

/-! ## What parsers yield -/

namespace Parser

variable {α β : Type}

/-- Every value that a parser yields has a property. -/
def Ensures (p : Parser α) (P : α → Prop) : Prop := ∀ tokens a rest, p tokens = .ok (a, rest) → P a

namespace Ensures

variable {p : Parser α} {f : α → Parser β} {P : α → Prop} {Q : β → Prop}

theorem pure {a : α} (h : P a) : Ensures (Pure.pure a) P := by
  intro tokens a' rest heq
  cases heq
  exact h

theorem throw (e : ParseError) : Ensures (MonadExcept.throw e : Parser α) P := by
  intro tokens a rest heq
  cases heq

theorem expected (what : String) : Ensures (Parser.expected what : Parser α) P := by
  intro tokens a rest heq
  cases heq

theorem lift {x : Except ParseError α} (h : ∀ a, x = .ok a → P a) : Ensures (liftM x : Parser α) P := by
  intro tokens a rest heq
  cases x with
  | error e => cases heq
  | ok b =>
    cases heq
    exact h _ rfl

/-- What a step yields is known to the steps after it. -/
theorem bind (hp : p.Ensures P) (hf : ∀ a, P a → (f a).Ensures Q) : (p >>= f).Ensures Q := by
  intro tokens b rest heq
  change (p tokens >>= fun r => f r.1 r.2) = .ok (b, rest) at heq
  cases hstep : p tokens with
  | error e =>
    rw [hstep] at heq
    cases heq
  | ok r =>
    rw [hstep] at heq
    exact hf r.1 (hp tokens r.1 r.2 hstep) r.2 b rest heq

protected theorem trivial : p.Ensures fun _ => True := fun _ _ _ _ => trivial

/-- A step of which nothing is asked. -/
theorem after (hf : ∀ a, (f a).Ensures Q) : (p >>= f).Ensures Q := .bind .trivial fun a _ => hf a

/-- Two steps that go on alike. -/
theorem ite_bind {c : Prop} [Decidable c] {p' : Parser α} (hp : p.Ensures P) (hp' : p'.Ensures P)
    (hf : ∀ a, P a → (f a).Ensures Q) : (if c then p >>= f else p' >>= f).Ensures Q := by
  split
  · exact hp.bind hf
  · exact hp'.bind hf

theorem loop {round : Nat → Parser α} (h : ∀ rounds, (round rounds).Ensures P) :
    (Parser.loop round).Ensures P :=
  after fun _ => h _

theorem attempt (h : p.Ensures P) : (Parser.attempt p).Ensures fun r => ∀ a ∈ r, P a := by
  intro tokens r rest heq
  rw [Parser.attempt] at heq
  cases hp : p tokens with
  | ok s =>
    rw [hp] at heq
    cases heq
    rintro _ ⟨⟩
    exact h tokens s.1 s.2 hp
  | error e =>
    -- the error is taken back and nothing is yielded, unless the text is nested too deep
    rw [hp] at heq
    cases e
    all_goals
      cases heq
      try exact nofun

theorem after? {texts : List String} (h : p.Ensures P) :
    (Parser.after? texts p).Ensures fun r => ∀ a ∈ r, P a := by
  rw [Parser.after?]
  refine after fun found => ?_
  split
  · refine bind h fun a ha => pure ?_
    rintro _ ⟨⟩
    exact ha
  · exact pure nofun

end Ensures

/-! ## Sources and joins -/

variable {d : Dialect} {l : Level}

/-- A parser of sources yields lawful operators only. -/
def LawfulFactor (p : Parser TableFactor) : Prop := p.Ensures fun source => AllLawful source.operators

/-- So does a parser of items. -/
def LawfulItem (p : Parser TableItem) : Prop := p.Ensures fun item => AllLawful item.operators

theorem derivedTable_lawful (lateral : Bool) : LawfulFactor (derivedTable d l lateral) := by
  rw [derivedTable]
  refine .after fun query => .after fun _ => .after fun label => .pure ?_
  rw [TableFactor.operators]
  exact allLawful_nil

theorem namedTable_lawful : LawfulFactor (namedTable d l) := by
  have table : ∀ n args label, LawfulFactor (pure (.table n args label)) := fun n args label =>
    .pure (by rw [TableFactor.operators]; exact allLawful_nil)
  -- whether it has arguments and whether hints follow, a table is all that comes of it
  have hints : ∀ n args, LawfulFactor (do
      discard (words? ["WITH", "ORDINALITY"])
      let label ← tableAlias? d l
      let second ← peekSecond
      if (← atWord "WITH") && second == some (.sign "(") then
        advance
        discard (bracketed (exprs d l))
      sample l
      return .table n args label) := by
    intro n args
    refine .after fun _ => .after fun label => .after fun second => .after fun follows => ?_
    dsimp only
    split
    · exact .after fun _ => .after fun _ => .after fun _ => table n args label
    · exact .after fun _ => table n args label
  rw [namedTable]
  refine .after fun n => .after fun call => ?_
  dsimp only
  split
  · exact .after fun args => .after fun _ => hints n _
  · exact .after fun args => hints n _

/-- An alias put on a source from outside leaves its operators as they are. -/
theorem operators_realiased {outer : TableAlias} {source source' : TableFactor}
    (h : realiased outer source = .ok source') : source'.operators = source.operators := by
  unfold realiased at h
  split at h
  all_goals
    cases h
    try rw [TableFactor.operators, TableFactor.operators]

/-- A join that may have a constraint is no cross join. -/
theorem joinKeywords?_ne_cross (natural : Bool) :
    (joinKeywords? natural).Ensures fun r => ∀ keywords ∈ r, keywords.1 ≠ .cross := by
  have kept : ∀ (family : JoinFamily) (text : String), family ≠ .cross →
      Ensures (pure (some (family, text)) : Parser _) fun r => ∀ keywords ∈ r, keywords.1 ≠ .cross := by
    intro family text h
    refine .pure ?_
    rintro _ ⟨⟩
    exact h
  have inner := fun text => kept .inner text (by decide)
  have outer := fun text => kept .outer text (by decide)
  have other := fun text => kept .other text (by decide)
  rw [joinKeywords?]
  refine .after fun key => ?_
  split
  case h_1 | h_2 => exact .after fun _ => inner _
  case h_3 | h_4 =>
    refine .after fun _ => .after fun side => ?_
    split
    · exact outer _
    · exact .after fun _ => outer _
    · exact .after fun _ => other _
    · exact .throw _
  case h_5 | h_6 | h_9 => exact .after fun _ => other _
  case h_7 => exact .after fun _ => .after fun _ => .after fun _ => outer _
  case h_8 => exact .expected _
  case h_10 =>
    split
    · exact .expected _
    · exact .pure nofun

/-- **A join with keywords of its own** is lawful: behind CROSS JOIN no constraint is read. -/
theorem specialJoin?_lawful (hl : LawfulFactor l.factor) :
    (specialJoin? d l).Ensures fun r => ∀ j ∈ r, j.1.Lawful ∧ AllLawful j.2.operators := by
  have kept : ∀ (op : JoinOperator) (right : TableFactor), op.Lawful → AllLawful right.operators →
      Ensures (pure (some (op, right)) : Parser _) fun r =>
        ∀ j ∈ r, j.1.Lawful ∧ AllLawful j.2.operators := by
    intro op right hop hright
    refine .pure ?_
    rintro _ ⟨⟩
    exact ⟨hop, hright⟩
  have other := fun keywords constraint right =>
    kept ⟨.other, keywords, constraint⟩ right (JoinOperator.lawful_of_ne nofun)
  rw [specialJoin?]
  refine .after fun cross => ?_
  dsimp only
  split
  · refine .after fun join => ?_
    split
    · exact .bind hl fun right hright => kept _ right (fun _ => rfl) hright
    · refine .after fun apply => ?_
      split
      · exact .bind hl fun right hright => other _ _ right hright
      · exact .bind (.expected _) (P := fun _ => False) fun _ => False.elim
  · refine .after fun outer => ?_
    split
    · exact .after fun _ => .bind hl fun right hright => other _ _ right hright
    · refine .after fun asof => ?_
      split
      · refine .after fun _ => .bind hl fun right hright => ?_
        exact .after fun _ => .after fun _ => .after fun constraint => other _ constraint right hright
      · exact .pure nofun

/-- **An item with the joins behind it** has lawful operators when it had some before them. -/
theorem joins_lawful (hl : LawfulFactor l.factor) (rounds : Nat) {left : TableItem}
    (hleft : AllLawful left.operators) : LawfulItem (joins d l left rounds) := by
  induction rounds generalizing left with
  | zero => exact .pure hleft
  | succ rounds ih =>
    rw [joins]
    refine .after fun _ => .bind (specialJoin?_lawful hl) fun special hspecial => ?_
    split
    next operator right =>
      obtain ⟨hop, hright⟩ := hspecial _ rfl
      exact ih (allLawful_join.2 ⟨hleft, hop, hright⟩)
    next =>
      refine .after fun natural => .bind (joinKeywords?_ne_cross natural) fun keywords hkeywords => ?_
      split
      next => exact .pure hleft
      next family text =>
        have rest : ∀ right : TableFactor, AllLawful right.operators → LawfulItem (do
            let constraint ← joinConstraint d l natural
            joins d l (.join left ⟨family, text, constraint⟩ right) rounds) := by
          intro right hright
          refine .after fun constraint => ih (allLawful_join.2 ⟨hleft, ?_, hright⟩)
          exact JoinOperator.lawful_of_ne (hkeywords _ rfl)
        refine .bind hl fun factor hfactor => .after fun nests => ?_
        dsimp only
        split
        · -- the joins behind the right side are its own, in brackets that are not written
          have hitem : LawfulItem (joins d l (.factor factor) rounds) :=
            ih (by rwa [TableItem.operators])
          refine .bind hitem fun item hitem => rest _ ?_
          rwa [TableFactor.operators]
        · exact rest factor hfactor

theorem tableItem_lawful (hl : LawfulFactor l.factor) : LawfulItem (tableItem d l) := by
  rw [tableItem]
  refine .bind hl fun factor hfactor => .loop fun rounds => joins_lawful hl rounds ?_
  rwa [TableItem.operators]

theorem bracketedItem_lawful (hl : LawfulFactor l.factor) : LawfulFactor (bracketedItem d l) := by
  have nested : ∀ item : TableItem, AllLawful item.operators → LawfulFactor (do
      sign ")"
      return .nested item (← tableAlias? d l)) := by
    intro item hitem
    refine .after fun _ => .after fun label => .pure ?_
    rwa [TableFactor.operators]
  rw [bracketedItem]
  refine .bind (tableItem_lawful hl) fun item hitem => ?_
  split
  next source =>
    split
    · exact nested _ hitem
    · rw [TableItem.operators] at hitem
      have relabelled : ∀ outer, LawfulFactor (liftM (realiased outer source)) := by
        refine fun outer => .lift fun source' h => ?_
        rwa [operators_realiased h]
      have kept : LawfulFactor (pure source) := .pure hitem
      -- brackets around a table alone stand or fall with the dialect
      dsimp only
      split
      · refine .after fun _ => .after fun label => ?_
        split
        · exact kept
        · exact relabelled _
      · refine .after fun _ => .after fun _ => .after fun label => ?_
        split
        · exact kept
        · exact relabelled _
  next => exact nested _ hitem

/-- **A single source** has lawful operators, if those one level further in have. -/
theorem factor_lawful (hl : LawfulFactor l.factor) : LawfulFactor (factor d l) := by
  have other : ∀ text, LawfulFactor (do return .other text (← tableAlias? d l)) := fun text =>
    .after fun label => .pure (by rw [TableFactor.operators]; exact allLawful_nil)
  rw [factor]
  refine .after fun second => .after fun next => .after fun lateral => ?_
  dsimp only
  split
  · refine .after fun bracket => ?_
    split
    · exact derivedTable_lawful true
    · exact .after fun n => .after fun _ => .after fun args => other _
  refine .after fun table => ?_
  split
  · exact .after fun e => other _
  refine .after fun bracket => ?_
  split
  · refine .bind (.attempt (derivedTable_lawful false)) fun derived hderived => ?_
    split
    · exact .pure (hderived _ rfl)
    · exact bracketedItem_lawful hl
  split
  · refine .after fun _ => .after fun rows => .after fun label => .pure ?_
    rw [TableFactor.operators]
    exact allLawful_nil
  split
  · exact .after fun _ => .after fun args => .after fun ordinality => other _
  · exact namedTable_lawful

/-! ## FROM clauses -/

/-- The items of a clause with their operators lawful. -/
def LawfulItems (p : Parser (List TableItem)) : Prop :=
  p.Ensures fun items => AllLawful (items.flatMap TableItem.operators)

theorem itemRounds_lawful (hl : LawfulFactor l.factor) (rounds : Nat) : LawfulItems (itemRounds d l rounds) := by
  induction rounds with
  | zero => exact .pure allLawful_nil
  | succ rounds ih =>
    rw [itemRounds]
    refine .bind (tableItem_lawful hl) fun item hitem => .after fun comma => ?_
    have single : LawfulItems (pure [item]) := .pure (by rwa [List.flatMap_singleton])
    have more : LawfulItems (do return item :: (← itemRounds d l rounds)) := by
      refine .bind ih fun items hitems => .pure ?_
      rw [List.flatMap_cons]
      exact List.forall_mem_append.2 ⟨hitem, hitems⟩
    dsimp only
    split
    · split
      · refine .after fun ends => ?_
        split
        · exact single
        · exact more
      · exact more
    · exact single

/-- **The items of a FROM clause** have lawful operators. -/
theorem tableItems_lawful (hl : LawfulFactor l.factor) : LawfulItems (tableItems d l) :=
  .loop fun rounds => itemRounds_lawful hl rounds

/-- **A plain SELECT** has lawful operators. -/
theorem select_lawful (hl : LawfulFactor l.factor) :
    (select d l).Ensures fun r => AllLawful (r.1.items.flatMap TableItem.operators) := by
  have ends : ∀ (items : List TableItem) (text : String → String),
      AllLawful (items.flatMap TableItem.operators) →
      Ensures (do
        let tail ← selectTail d l
        return ((⟨items⟩ : Select), text tail)) fun r => AllLawful (r.1.items.flatMap TableItem.operators) :=
    fun items text h => .after fun tail => .pure h
  have items? : (Parser.after? ["FROM"] (tableItems d l)).Ensures fun r =>
      ∀ items ∈ r, AllLawful (items.flatMap TableItem.operators) := .after? (tableItems_lawful hl)
  rw [select]
  refine .ite_bind items? (.pure nofun) fun first hfirst => .after fun word => ?_
  dsimp only
  split
  next items => exact .pure (hfirst _ rfl)
  next => exact .expected _
  next =>
    refine .after fun distinct => .after fun top => .after fun bare => ?_
    refine .ite_bind .trivial .trivial fun results _ => .after fun into => ?_
    split
    next items => exact .bind (.pure (hfirst _ rfl)) fun items hitems => ends items _ hitems
    next =>
      refine .bind items? fun read hread => .bind (.pure ?_) fun items hitems => ends items _ hitems
      cases read with
      | none => exact allLawful_nil
      | some items => exact hread items rfl

/-! ## Queries and statements -/

theorem queryPrimary_lawful (hl : LawfulFactor l.factor) :
    (queryPrimary d l).Ensures fun r => AllLawful r.1.operators := by
  have other : ∀ text : String, Ensures (pure (QueryBody.other, text)) fun r => AllLawful r.1.operators :=
    fun text => .pure allLawful_nil
  rw [queryPrimary]
  refine .after fun key => ?_
  split
  · exact .bind (select_lawful hl) fun r hr => .pure hr
  refine .after fun bracket => ?_
  split
  · exact .after fun query => .after fun _ => other _
  refine .after fun values => ?_
  split
  · exact .after fun rows => other _
  refine .after fun table => ?_
  split
  · exact .after fun n => other _
  · exact .expected _

/-- Operands that a set operation joins are no plain SELECT any more. -/
theorem setOperations_lawful (rounds bound : Nat) {left : QueryBody × String}
    (hleft : AllLawful left.1.operators) :
    (setOperations d l bound left rounds).Ensures fun r => AllLawful r.1.operators := by
  induction rounds generalizing bound left with
  | zero => exact .pure hleft
  | succ rounds ih =>
    rw [setOperations]
    refine .after fun key => ?_
    dsimp only
    split
    · exact .pure hleft
    · refine .after fun _ => .after fun quantifier => .after fun first => .after fun right => ?_
      exact ih bound allLawful_nil

theorem query_lawful (hl : LawfulFactor l.factor) :
    (query d l).Ensures fun q => AllLawful q.body.operators := by
  have body : (queryBody d l).Ensures fun r => AllLawful r.1.operators := by
    rw [queryBody]
    exact .bind (queryPrimary_lawful hl) fun first hfirst => .loop fun rounds => setOperations_lawful rounds 0 hfirst
  rw [query]
  refine .after fun defines => ?_
  dsimp only
  refine .ite_bind .trivial .trivial fun names _ => ?_
  refine .after fun key => ?_
  split
  · exact .after fun _ => .pure allLawful_nil
  · exact .bind body fun r hr => .after fun tail => .pure hr

/-- The parsers of a level yield lawful operators only. -/
structure LawfulLevel (l : Level) : Prop where
  /-- Those of statements do. -/
  statement : l.statement.Ensures fun s => AllLawful s.operators
  /-- Those of queries do. -/
  query : l.query.Ensures fun q => AllLawful q.body.operators
  /-- Those of sources do. -/
  factor : LawfulFactor l.factor

theorem statement_lawful (hl : LawfulLevel l) : (statement d l).Ensures fun s => AllLawful s.operators := by
  have command : ∀ kind, Ensures (pure (Statement.command kind)) fun s => AllLawful s.operators :=
    fun kind => .pure allLawful_nil
  rw [statement]
  refine .after fun key => .after fun bracket => ?_
  split
  · exact .bind hl.query fun q hq => .pure hq
  -- whatever else the statement is, it has no FROM clause
  split
  case h_1 | h_2 | h_3 => exact .after fun _ => .after fun _ => command _
  case h_4 | h_5 => exact .after fun _ => .after fun kind => command _
  case h_6 | h_7 =>
    refine .after fun _ => .after fun _ => ?_
    dsimp only
    split
    · refine .after fun target => ?_
      split
      · exact .after fun _ => .after fun _ => command _
      · exact command _
    · exact command _
  case h_8 =>
    split
    · exact .after fun _ => command _
    · exact .expected _

end Parser

/-! ## Whole texts -/

/-- **Every level yields lawful operators**: a parser is made of those one level further in. -/
theorem Level.lawful_ofDepth (d : Dialect) (depth : Nat) : Parser.LawfulLevel (.ofDepth d depth) := by
  induction depth with
  | zero => exact ⟨.throw _, .throw _, .throw _⟩
  | succ depth ih =>
    exact ⟨Parser.statement_lawful ih, Parser.query_lawful ih.factor, Parser.factor_lawful ih.factor⟩

theorem Parser.statements_lawful {l : Level} (hl : LawfulLevel l) (ended : Bool) (rounds : Nat) :
    (statements l ended rounds).Ensures fun ss => ∀ s ∈ ss, AllLawful s.operators := by
  induction rounds generalizing ended with
  | zero => exact .pure (List.forall_mem_nil _)
  | succ rounds ih =>
    rw [statements]
    refine .after fun separator => ?_
    split
    · exact ih false
    · refine .after fun token => ?_
      split
      · exact .pure nofun
      next token =>
        have goesOn : Ensures (do
            let first ← l.statement
            return first :: (← statements l true rounds)) fun ss => ∀ s ∈ ss, AllLawful s.operators :=
          .bind hl.statement fun first hfirst => .bind (ih true) fun rest hrest =>
            .pure (List.forall_mem_cons.2 ⟨hfirst, hrest⟩)
        dsimp only
        split
        · split
          · exact .pure nofun
          · exact .after fun _ => goesOn
        · exact goesOn

/-- The only statement of a text is among those that its tokens are parsed to. -/
theorem Dialect.exists_run_of_parseSingle {d : Dialect} {text : String} {s : Statement}
    (h : d.parseSingle text = .ok s) : ∃ tokens ss rest, lex d (Text.trim text) = .ok tokens ∧
      Parser.loop (Parser.statements d.level false) tokens = .ok (ss, rest) ∧ s ∈ ss := by
  obtain ⟨ss, hss, h⟩ := bind_eq_ok.1 h
  have hs : s ∈ ss := by
    split at h
    · cases h
    · cases h
      exact List.mem_singleton_self s
    · cases h
  rw [parse] at hss
  split at hss
  · cases hss
  next =>
    cases hrun : d.run (Parser.loop (Parser.statements d.level false)) (Text.trim text) with
    | error e =>
      rw [hrun] at hss
      cases hss
    | ok read =>
      rw [hrun] at hss
      cases hss
      obtain ⟨tokens, htokens, hrun⟩ := bind_eq_ok.1 hrun
      obtain ⟨r, hr, hrun⟩ := bind_eq_ok.1 hrun
      cases hrun
      exact ⟨tokens, r.1, r.2, htokens, hr, hs⟩

/-- **No text puts a constraint on a cross join.** -/
theorem Dialect.lawful_of_parseSingle {d : Dialect} {text : String} {s : Statement}
    (h : d.parseSingle text = .ok s) : AllLawful s.operators := by
  obtain ⟨tokens, ss, rest, -, hrun, hs⟩ := exists_run_of_parseSingle h
  have hall := Parser.Ensures.loop fun rounds =>
    Parser.statements_lawful (Level.lawful_ofDepth d maxDepth) false rounds
  exact hall tokens ss rest hrun s hs

end Sql

end FromClause
