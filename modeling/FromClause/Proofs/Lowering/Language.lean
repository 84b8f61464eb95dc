import FromClause.Proofs.Lowering.Reach
/-!
# The language of join conditions

Which ON expressions come to atoms. The conditions that do are generated by a small grammar: connectives over
comparisons and tests of terms, where a term is a column, a literal, or a number behind a minus sign
(`Expr.IsTerm`, `Expr.IsCondition`). The grammar says nothing of places and nothing of the source.

An expression comes to atoms exactly when it is a condition of the grammar, no name in it is empty, and its
column references resolve (`SqlCondition.exists_atoms_iff`). Both directions go through the place of a part:
brackets and chains are read in three ways, and all of them accept the same expressions. A test against an empty
list lies outside, since it is settled without a look at its operand.
-/

namespace FromClause

open Sql

/-! ## The grammar -/

namespace Sql

namespace Expr

/-- **The terms**: what may stand on a side of a comparison. -/
inductive IsTerm : Expr → Prop
  /-- A term in brackets. -/
  | nested {inner : Expr} : IsTerm inner → IsTerm (nested inner)
  /-- A column, perhaps behind a table, and the table behind a schema. -/
  | column {names : List Name} : names ≠ [] → names.length ≤ 3 → IsTerm (column names)
  /-- A number. -/
  | number {digits : String} {long : Bool} : IsTerm (literal (.number digits long))
  /-- A string, between quotes of either kind. -/
  | string {value : String} : IsTerm (literal (.string value))
  /-- A string between double quotes. -/
  | doubleQuoted {value : String} : IsTerm (literal (.doubleQuoted value))
  /-- A truth value. -/
  | boolean {value : Bool} : IsTerm (literal (.boolean value))
  /-- The missing value. -/
  | null : IsTerm (literal .null)
  /-- A minus sign directly before a number. -/
  | negative {digits : String} {long : Bool} : IsTerm (unary .minus (literal (.number digits long)))

/-- **The conditions**: what is true or false of a row. -/
inductive IsCondition : Expr → Prop
  /-- A condition in brackets. -/
  | nested {inner : Expr} : IsCondition inner → IsCondition (nested inner)
  /-- A conjunction. -/
  | and {left right : Expr} : IsCondition left → IsCondition right → IsCondition (binary .and left right)
  /-- A disjunction. -/
  | or {left right : Expr} : IsCondition left → IsCondition right → IsCondition (binary .or left right)
  /-- A negation. -/
  | not {inner : Expr} : IsCondition inner → IsCondition (unary .not inner)
  /-- A comparison of two terms. -/
  | compare {op : Comparison} {left right : Expr} :
    IsTerm left → IsTerm right → IsCondition (binary (.compare op) left right)
  /-- A test for the missing value. -/
  | isNull {negated : Bool} {operand : Expr} : IsTerm operand → IsCondition (isNull negated operand)
  /-- A test for a range. -/
  | between {negated : Bool} {operand low high : Expr} :
    IsTerm operand → IsTerm low → IsTerm high → IsCondition (between negated operand low high)
  /-- A test against a list with at least one item. -/
  | inList {negated : Bool} {operand item : Expr} {items : List Expr} :
    IsTerm operand → (∀ e ∈ item :: items, IsTerm e) → IsCondition (inList negated operand (item :: items))
  /-- A truth value. -/
  | truth {value : Bool} : IsCondition (literal (.boolean value))

mutual

/-- No test in the expression is against an empty list. -/
def ListsFilled : Expr → Prop
  | .column _ | .literal _ | .applied _ | .other _ => True
  | .binary _ left right => left.ListsFilled ∧ right.ListsFilled
  | .unary _ inner | .nested inner | .isNull _ inner => inner.ListsFilled
  | .between _ operand low high => operand.ListsFilled ∧ low.ListsFilled ∧ high.ListsFilled
  | .inList _ operand items => items ≠ [] ∧ operand.ListsFilled ∧ AllListsFilled items

/-- No test in any of the expressions is against an empty list. -/
def AllListsFilled : List Expr → Prop
  | [] => True
  | e :: es => e.ListsFilled ∧ AllListsFilled es

end

end Expr

end Sql

/-! ## Names and references -/

/-- The text of a name once it is normalised: as it stands between quotes, folded without them. -/
def Folding.normalised (folding : Folding) (n : Name) : String :=
  if n.quote.isSome then n.value else folding.fold n.value

/-- One to three names spell a reference: a column, a column of a table, or a column of a table of a schema. -/
inductive Folding.Spells (folding : Folding) : List Name → Reference → Prop
  /-- A column by its name alone. -/
  | column {n : Name} {c : Identifier} :
    folding.normalised n = c.text → Spells folding [n] (.bare c)
  /-- A column of a table. -/
  | table {m n : Name} {t c : Identifier} :
    folding.normalised m = t.text → folding.normalised n = c.text →
      Spells folding [m, n] (.qualified (.bare t) c)
  /-- A column of a table of a schema. -/
  | schema {l m n : Name} {s t c : Identifier} :
    folding.normalised l = s.text → folding.normalised m = t.text → folding.normalised n = c.text →
      Spells folding [l, m, n] (.qualified ⟨some s, t⟩ c)

/-- The identifier that a name is normalised to, if the name is not empty. -/
def Folding.named? (folding : Folding) (n : Name) : Option Identifier := Identifier.ofText? (folding.normalised n)

/-- The reference that names spell, if they spell one. -/
def Folding.spelled? (folding : Folding) : List Name → Option Reference
  | [n] => do return .bare (← folding.named? n)
  | [m, n] => do return .qualified (.bare (← folding.named? m)) (← folding.named? n)
  | [l, m, n] => do return .qualified ⟨some (← folding.named? l), ← folding.named? m⟩ (← folding.named? n)
  | _ => none

section Names

variable {folding : Folding} {source : Expression} {names : List Name} {n : Name} {r : Reference}

theorem Identifier.ofText?_eq_some {text : String} {c : Identifier} : ofText? text = some c ↔ text = c.text := by
  rw [ofText?]
  constructor
  · intro h
    split at h
    · cases h
      rfl
    · cases h
  · rintro rfl
    exact dif_pos c.text_ne

theorem Folding.named?_eq_some {c : Identifier} : folding.named? n = some c ↔ folding.normalised n = c.text :=
  Identifier.ofText?_eq_some

/-- **The reference that names spell** is computed by normalising each of them. -/
theorem Folding.spelled?_eq_some : folding.spelled? names = some r ↔ folding.Spells names r := by
  constructor
  · intro h
    match names with
    | [] => cases h
    | [n] =>
      obtain ⟨c, hc, h⟩ := Option.bind_eq_some_iff.1 h
      cases h
      exact .column (named?_eq_some.1 hc)
    | [m, n] =>
      obtain ⟨t, ht, h⟩ := Option.bind_eq_some_iff.1 h
      obtain ⟨c, hc, h⟩ := Option.bind_eq_some_iff.1 h
      cases h
      exact .table (named?_eq_some.1 ht) (named?_eq_some.1 hc)
    | [l, m, n] =>
      obtain ⟨s, hs, h⟩ := Option.bind_eq_some_iff.1 h
      obtain ⟨t, ht, h⟩ := Option.bind_eq_some_iff.1 h
      obtain ⟨c, hc, h⟩ := Option.bind_eq_some_iff.1 h
      cases h
      exact .schema (named?_eq_some.1 hs) (named?_eq_some.1 ht) (named?_eq_some.1 hc)
    | _ :: _ :: _ :: _ :: _ => cases h
  · intro h
    cases h with
    | column hc => rw [spelled?, named?_eq_some.2 hc]; rfl
    | table ht hc => rw [spelled?, named?_eq_some.2 ht, named?_eq_some.2 hc]; rfl
    | schema hs ht hc => rw [spelled?, named?_eq_some.2 hs, named?_eq_some.2 ht, named?_eq_some.2 hc]; rfl

/-- A name is made the identifier whose text is the name, folded or as it stands. -/
theorem Folding.identifier_eq_ok {name : String} {delimited : Bool} {c : Identifier} :
    folding.identifier name delimited = .ok c ↔ (if delimited then name else folding.fold name) = c.text := by
  rw [← Identifier.ofText?_eq_some, identifier]
  cases Identifier.ofText? (if delimited then name else folding.fold name) <;> simp

/-- A name is read as the identifier that it is normalised to, however an error is reported. -/
theorem mapError_identifier_eq_ok {ε : Type} {f : NameError → ε} {c : Identifier} :
    (folding.identifier n.value n.quote.isSome).mapError f = .ok c ↔ folding.normalised n = c.text := by
  rw [Folding.normalised, ← Folding.identifier_eq_ok]
  cases folding.identifier n.value n.quote.isSome <;> simp [Except.mapError]

/-- So is a name in a condition. -/
theorem conditionName_eq_ok {c : Identifier} :
    conditionName folding n = .ok c ↔ folding.normalised n = c.text :=
  mapError_identifier_eq_ok

/-- **A column reference is read as it is spelled.** -/
theorem columnReference_eq_ok : columnReference folding names = .ok r ↔ folding.Spells names r := by
  constructor
  · intro h
    match names with
    | [] => cases h
    | [n] =>
      obtain ⟨c, hc, h⟩ := bind_eq_ok.1 h
      cases h
      exact .column (conditionName_eq_ok.1 hc)
    | [m, n] =>
      obtain ⟨t, ht, h⟩ := bind_eq_ok.1 h
      obtain ⟨c, hc, h⟩ := bind_eq_ok.1 h
      cases h
      exact .table (conditionName_eq_ok.1 ht) (conditionName_eq_ok.1 hc)
    | [l, m, n] =>
      obtain ⟨s, hs, h⟩ := bind_eq_ok.1 h
      obtain ⟨t, ht, h⟩ := bind_eq_ok.1 h
      obtain ⟨c, hc, h⟩ := bind_eq_ok.1 h
      cases h
      exact .schema (conditionName_eq_ok.1 hs) (conditionName_eq_ok.1 ht) (conditionName_eq_ok.1 hc)
    | _ :: _ :: _ :: _ :: _ => cases h
  · intro h
    cases h with
    | column hc => exact bind_eq_ok.2 ⟨_, conditionName_eq_ok.2 hc, rfl⟩
    | table ht hc =>
      exact bind_eq_ok.2 ⟨_, conditionName_eq_ok.2 ht, bind_eq_ok.2 ⟨_, conditionName_eq_ok.2 hc, rfl⟩⟩
    | schema hs ht hc =>
      exact bind_eq_ok.2 ⟨_, conditionName_eq_ok.2 hs,
        bind_eq_ok.2 ⟨_, conditionName_eq_ok.2 ht, bind_eq_ok.2 ⟨_, conditionName_eq_ok.2 hc, rfl⟩⟩⟩

namespace Folding.Spells

/-- What spells a reference is one to three names. -/
theorem length_le (h : folding.Spells names r) : names ≠ [] ∧ names.length ≤ 3 := by
  cases h <;> simp

/-- None of the names is empty. -/
theorem normalised_ne (h : folding.Spells names r) (hn : n ∈ names) : folding.normalised n ≠ "" := by
  have hne : ∀ {n : Name} {c : Identifier}, folding.normalised n = c.text → folding.normalised n ≠ "" :=
    fun heq => heq ▸ Identifier.text_ne _
  cases h with
  | column hc =>
    obtain rfl := List.mem_singleton.1 hn
    exact hne hc
  | table ht hc =>
    rcases List.mem_pair.1 hn with rfl | rfl
    · exact hne ht
    · exact hne hc
  | schema hs ht hc =>
    simp only [List.mem_cons, List.not_mem_nil, or_false] at hn
    rcases hn with rfl | rfl | rfl
    · exact hne hs
    · exact hne ht
    · exact hne hc

end Folding.Spells

/-- One to three names that are not empty spell a reference. -/
theorem exists_spells (hne : names ≠ []) (hlength : names.length ≤ 3)
    (h : ∀ n ∈ names, folding.normalised n ≠ "") : ∃ r, folding.Spells names r := by
  match names with
  | [n] => exact ⟨_, .column (c := ⟨_, h n (by simp)⟩) rfl⟩
  | [m, n] => exact ⟨_, .table (t := ⟨_, h m (by simp)⟩) (c := ⟨_, h n (by simp)⟩) rfl rfl⟩
  | [l, m, n] =>
    exact ⟨_, .schema (s := ⟨_, h l (by simp)⟩) (t := ⟨_, h m (by simp)⟩) (c := ⟨_, h n (by simp)⟩) rfl rfl rfl⟩
  | [] => exact absurd rfl hne
  | _ :: _ :: _ :: _ :: _ =>
    simp only [List.length_cons] at hlength
    omega

/-- **When a column reference can be read**: it is one to three names, none of them is empty, and the reference
that they spell resolves. -/
theorem reads_iff : source.Reads folding names ↔
    (names ≠ [] ∧ names.length ≤ 3) ∧ (∀ n ∈ names, folding.normalised n ≠ "") ∧
      ∀ r, folding.Spells names r → ∃ v, source.resolve r = .ok v := by
  simp only [Expression.Reads, columnReference_eq_ok]
  constructor
  · rintro ⟨r, v, hr, hv⟩
    refine ⟨hr.length_le, fun n hn => hr.normalised_ne hn, fun r' hr' => ?_⟩
    -- names spell one reference only
    have heq := (columnReference_eq_ok.2 hr).symm.trans (columnReference_eq_ok.2 hr')
    obtain rfl := Except.ok.inj heq
    exact ⟨v, hv⟩
  · rintro ⟨⟨hne, hlength⟩, hnames, hresolve⟩
    obtain ⟨r, hr⟩ := exists_spells hne hlength hnames
    obtain ⟨v, hv⟩ := hresolve r hr
    exact ⟨r, v, hr, hv⟩

end Names

/-! ## Terms -/

section Conditions

variable {folding : Folding} {source : Expression} {place : Place} {e : Expr}

/-- The literals that have a constant are terms. -/
theorem isTerm_of_literalConstant? {value : Literal} {c : Constant} (h : literalConstant? value = some c) :
    Expr.IsTerm (.literal value) := by
  cases value with
  | number digits long => exact .number
  | string value => exact .string
  | doubleQuoted value => exact .doubleQuoted
  | boolean value => exact .boolean
  | null => exact .null
  | other text => cases h

/-- What is read as a term is a term of the grammar. -/
theorem isTerm_of_conditionTerm {t : Term} (h : conditionTerm folding source e = .ok t) : e.IsTerm := by
  fun_induction conditionTerm folding source e with
  | case1 inner ih => exact .nested (ih h)
  | case2 names =>
    obtain ⟨r, hr, -⟩ := bind_eq_ok.1 h
    obtain ⟨hne, hlength⟩ := (columnReference_eq_ok.1 hr).length_le
    exact .column hne hlength
  | case3 value c hc => exact isTerm_of_literalConstant? hc
  | case4 value hc => cases h
  | case5 digits long => exact .negative
  | case6 => cases h

/-- A term of the grammar is read, if its column references are. Only those of one to three names matter, as the
grammar has no others. -/
theorem exists_conditionTerm_of_isTerm (h : e.IsTerm)
    (hreads : ∀ names ∈ e.references, names ≠ [] ∧ names.length ≤ 3 → source.Reads folding names) :
    ∃ t, conditionTerm folding source e = .ok t := by
  induction h with
  | nested _ ih =>
    rw [Expr.references] at hreads
    exact ih hreads
  | @column names hne hlength =>
    have hmem : names ∈ (Expr.column names).references := by simp [Expr.references]
    obtain ⟨r, v, hr, hv⟩ := hreads names hmem ⟨hne, hlength⟩
    exact ⟨.var v, bind_eq_ok.2 ⟨r, hr, bind_eq_ok.2 ⟨v, hv, rfl⟩⟩⟩
  | _ => exact ⟨_, rfl⟩

/-- The same for several terms. -/
theorem exists_mapM_conditionTerm_of_isTerm {es : List Expr} (h : ∀ e ∈ es, e.IsTerm)
    (hreads : ∀ names ∈ Expr.referencesOf es, names ≠ [] ∧ names.length ≤ 3 → source.Reads folding names) :
    ∃ ts, es.mapM (conditionTerm folding source) = .ok ts := by
  rw [Expr.referencesOf_eq_flatMap, List.forall_mem_flatMap] at hreads
  exact exists_mapM_eq_ok.2 fun e he => exists_conditionTerm_of_isTerm (h e he) (hreads e he)

/-! ## Conditions -/

/-- **What comes to atoms is a condition of the grammar**, wherever it stands. -/
theorem isCondition_of_conditionAtoms {atoms : List Atom} (hfilled : e.ListsFilled)
    (h : conditionAtoms folding source place e = .ok atoms) : e.IsCondition := by
  fun_induction conditionAtoms folding source place e generalizing atoms with
  | case1 place inner ih =>
    rw [Expr.ListsFilled] at hfilled
    exact .nested (ih hfilled h)
  | case2 place left right ihl ihr =>
    obtain ⟨l, hl, h⟩ := bind_eq_ok.1 h
    obtain ⟨r, hr, -⟩ := bind_eq_ok.1 h
    rw [Expr.ListsFilled] at hfilled
    exact .and (ihl hfilled.1 hl) (ihr hfilled.2 hr)
  | case3 place left right ihl ihr =>
    obtain ⟨l, hl, h⟩ := bind_eq_ok.1 h
    obtain ⟨r, hr, -⟩ := bind_eq_ok.1 h
    rw [Expr.ListsFilled] at hfilled
    exact .or (ihl hfilled.1 hl) (ihr hfilled.2 hr)
  | case4 place op left right =>
    obtain ⟨l, hl, h⟩ := bind_eq_ok.1 h
    obtain ⟨r, hr, -⟩ := bind_eq_ok.1 h
    exact .compare (isTerm_of_conditionTerm hl) (isTerm_of_conditionTerm hr)
  | case5 place inner ih =>
    obtain ⟨atoms, hi, -⟩ := bind_eq_ok.1 h
    rw [Expr.ListsFilled] at hfilled
    exact .not (ih hfilled hi)
  | case6 place negated operand =>
    obtain ⟨t, ht, -⟩ := bind_eq_ok.1 h
    exact .isNull (isTerm_of_conditionTerm ht)
  | case7 place negated operand low high =>
    obtain ⟨t, ht, h⟩ := bind_eq_ok.1 h
    obtain ⟨l, hl, h⟩ := bind_eq_ok.1 h
    obtain ⟨u, hu, -⟩ := bind_eq_ok.1 h
    exact .between (isTerm_of_conditionTerm ht) (isTerm_of_conditionTerm hl) (isTerm_of_conditionTerm hu)
  | case8 place negated operand =>
    rw [Expr.ListsFilled] at hfilled
    exact absurd rfl hfilled.1
  | case9 place negated operand item items =>
    obtain ⟨t, ht, h⟩ := bind_eq_ok.1 h
    obtain ⟨values, hvalues, -⟩ := bind_eq_ok.1 h
    refine .inList (isTerm_of_conditionTerm ht) fun i hi => ?_
    obtain ⟨u, hu⟩ := exists_mapM_eq_ok.1 ⟨values, hvalues⟩ i hi
    exact isTerm_of_conditionTerm hu
  | case10 place value => exact .truth
  | case11 => cases h

/-- **A condition of the grammar comes to atoms** at every place, if its column references are read. -/
theorem exists_conditionAtoms_of_isCondition (h : e.IsCondition)
    (hreads : ∀ names ∈ e.references, names ≠ [] ∧ names.length ≤ 3 → source.Reads folding names) :
    ∃ atoms, conditionAtoms folding source place e = .ok atoms := by
  induction h generalizing place with
  | nested _ ih =>
    rw [Expr.references] at hreads
    rw [conditionAtoms]
    exact ih hreads
  | and _ _ ihl ihr =>
    rw [Expr.references, List.forall_mem_append] at hreads
    obtain ⟨l, hl⟩ := ihl hreads.1
    obtain ⟨r, hr⟩ := ihr hreads.2
    exact ⟨_, bind_eq_ok.2 ⟨l, hl, bind_eq_ok.2 ⟨r, hr, rfl⟩⟩⟩
  | or _ _ ihl ihr =>
    rw [Expr.references, List.forall_mem_append] at hreads
    obtain ⟨l, hl⟩ := ihl hreads.1
    obtain ⟨r, hr⟩ := ihr hreads.2
    exact ⟨_, bind_eq_ok.2 ⟨l, hl, bind_eq_ok.2 ⟨r, hr, rfl⟩⟩⟩
  | not _ ih =>
    rw [Expr.references] at hreads
    obtain ⟨atoms, hatoms⟩ := ih hreads
    exact ⟨_, bind_eq_ok.2 ⟨atoms, hatoms, rfl⟩⟩
  | compare hl hr =>
    rw [Expr.references, List.forall_mem_append] at hreads
    obtain ⟨l, hl⟩ := exists_conditionTerm_of_isTerm hl hreads.1
    obtain ⟨r, hr⟩ := exists_conditionTerm_of_isTerm hr hreads.2
    exact ⟨_, bind_eq_ok.2 ⟨l, hl, bind_eq_ok.2 ⟨r, hr, rfl⟩⟩⟩
  | isNull ht =>
    rw [Expr.references] at hreads
    obtain ⟨t, ht⟩ := exists_conditionTerm_of_isTerm ht hreads
    exact ⟨_, bind_eq_ok.2 ⟨t, ht, rfl⟩⟩
  | between ht hl hu =>
    rw [Expr.references, List.forall_mem_append, List.forall_mem_append] at hreads
    obtain ⟨⟨hreadt, hreadl⟩, hreadu⟩ := hreads
    obtain ⟨t, ht⟩ := exists_conditionTerm_of_isTerm ht hreadt
    obtain ⟨l, hl⟩ := exists_conditionTerm_of_isTerm hl hreadl
    obtain ⟨u, hu⟩ := exists_conditionTerm_of_isTerm hu hreadu
    exact ⟨_, bind_eq_ok.2 ⟨t, ht, bind_eq_ok.2 ⟨l, hl, bind_eq_ok.2 ⟨u, hu, rfl⟩⟩⟩⟩
  | inList ht hitems =>
    rw [Expr.references, List.forall_mem_append, ← Expr.referencesOf] at hreads
    obtain ⟨t, ht⟩ := exists_conditionTerm_of_isTerm ht hreads.1
    obtain ⟨values, hvalues⟩ := exists_mapM_conditionTerm_of_isTerm hitems hreads.2
    exact ⟨_, bind_eq_ok.2 ⟨t, ht, bind_eq_ok.2 ⟨values, hvalues, rfl⟩⟩⟩
  | truth => exact ⟨_, rfl⟩

end Conditions

/-- **Which ON expressions come to atoms.** Of the expressions without tests against empty lists these are, over any
source: the conditions of the grammar in which no name is empty once it is normalised and every column reference
resolves in the source. -/
theorem SqlCondition.exists_atoms_iff (condition : SqlCondition) (source : Expression)
    (hfilled : condition.expr.ListsFilled) :
    (∃ atoms, JoinCondition.atoms condition source = .ok atoms) ↔
      condition.expr.IsCondition ∧
      (∀ names ∈ condition.expr.references, ∀ n ∈ names, condition.folding.normalised n ≠ "") ∧
      ∀ names ∈ condition.expr.references, ∀ r, condition.folding.Spells names r →
        ∃ v, source.resolve r = .ok v := by
  constructor
  · rintro ⟨atoms, h⟩
    have hreads := reads_conditionAtoms h
    refine ⟨isCondition_of_conditionAtoms hfilled h, fun names hnames => ?_, fun names hnames => ?_⟩
    · exact (reads_iff.1 (hreads names hnames)).2.1
    · exact (reads_iff.1 (hreads names hnames)).2.2
  · rintro ⟨hcondition, hnames, hresolve⟩
    refine exists_conditionAtoms_of_isCondition hcondition fun names hmem hlength => ?_
    exact reads_iff.2 ⟨hlength, hnames names hmem, hresolve names hmem⟩

namespace Sample

/-- `HR.SALARY, STAFF AS S`. -/
def paidStaff : Expression := .product salary.expression staff.expression

/-- `hr.salary."AMOUNT" NOT IN (-1, NULL) AND NOT (s.name IS NULL)`. -/
def namedAndPaid : SqlCondition where
  expr := .binary .and
    (.inList true (.column [⟨"hr", none⟩, ⟨"salary", none⟩, ⟨"AMOUNT", some '"'⟩])
      [.unary .minus (.literal (.number "1" false)), .literal .null])
    (.unary .not (.nested (.isNull false (.column [⟨"s", none⟩, ⟨"name", none⟩]))))
  folding := .upper

/-- A test of an operand for the missing value. -/
def missing (operand : Expr) : SqlCondition := ⟨.isNull false operand, .upper⟩

/-- A list and a negation come to atoms. A minus sign before a column is no term, and a bare name that two tables
expose does not resolve, so neither can be tested. -/
theorem exists_atoms_paidStaff :
    (∃ atoms, JoinCondition.atoms namedAndPaid paidStaff = .ok atoms) ∧
    (¬∃ atoms, JoinCondition.atoms (missing (.unary .minus (.column [⟨"amount", none⟩]))) paidStaff = .ok atoms) ∧
    ¬∃ atoms, JoinCondition.atoms (missing (.column [⟨"id", none⟩])) paidStaff = .ok atoms := by
  refine ⟨?_, fun h => ?_, fun h => ?_⟩
  · have hfilled : namedAndPaid.expr.ListsFilled := by
      simp [namedAndPaid, Expr.ListsFilled, Expr.AllListsFilled]
    have hcondition : namedAndPaid.expr.IsCondition := by
      refine .and (.inList (.column (by simp) (by simp)) ?_) (.not (.nested (.isNull (.column (by simp) (by simp)))))
      simp only [List.forall_mem_cons]
      exact ⟨.negative, .null, List.forall_mem_nil _⟩
    have hreads : ∀ names ∈ namedAndPaid.expr.references, paidStaff.Reads .upper names := by
      simp only [namedAndPaid, Expr.references, Expr.referencesOf, List.append_nil, List.singleton_append,
        List.forall_mem_cons]
      refine ⟨⟨.qualified ⟨some ⟨"HR", by decide⟩, ⟨"SALARY", by decide⟩⟩ amount, ⟨"v2", by decide⟩, ?_, ?_⟩,
        ⟨.qualified staff.exposed name, ⟨"v4", by decide⟩, ?_, ?_⟩, List.forall_mem_nil _⟩
      all_goals decide +kernel
    refine (SqlCondition.exists_atoms_iff namedAndPaid paidStaff hfilled).2 ⟨hcondition, fun names h => ?_,
      fun names h => ?_⟩
    · exact (reads_iff.1 (hreads names h)).2.1
    · exact (reads_iff.1 (hreads names h)).2.2
  · have hfilled : (missing (.unary .minus (.column [⟨"amount", none⟩]))).expr.ListsFilled := by
      simp [missing, Expr.ListsFilled]
    obtain ⟨hcondition, -⟩ := (SqlCondition.exists_atoms_iff _ paidStaff hfilled).1 h
    cases hcondition with
    | isNull hterm => cases hterm
  · have hfilled : (missing (.column [⟨"id", none⟩])).expr.ListsFilled := by simp [missing, Expr.ListsFilled]
    obtain ⟨-, -, hresolve⟩ := (SqlCondition.exists_atoms_iff _ paidStaff hfilled).1 h
    have hmem : [⟨"id", none⟩] ∈ (missing (.column [⟨"id", none⟩])).expr.references := by
      simp [missing, Expr.references]
    have hspells : Folding.upper.Spells [⟨"id", none⟩] (.bare id) := .column (by decide +kernel)
    obtain ⟨v, hv⟩ := hresolve _ hmem _ hspells
    have hambiguous : (paidStaff.resolve (.bare id)).isOk = false := by decide +kernel
    rw [hv] at hambiguous
    cases hambiguous

end Sample

end FromClause
