import FromClause.Proofs.Lowering.Rendering
import FromClause.Proofs.Lowering.Shadowing
import FromClause.Proofs.Sql.Clauses
import FromClause.Report.Source
/-!
# Terms are told apart by their texts

The terms of a source are variables and constants, printed side by side. Variables differ in their names, because a
supply hands no name out twice, and the lexer reads constants back. A name ends in a digit, so it is no string, no truth
value and not the missing value. It may be a number, though: a delimited column can be called `1`, and then its
variable is called `11` if it is the first one (`Sample.eleven_twice`). That takes a column whose name starts like a number
does, and nothing else can happen (`Lowering.terms_told_apart`).
-/

namespace FromClause

open Sql

/-! ## Names in lower case -/

/-- What numbers start with comes before the letters. -/
theorem toNat_le_of_opensNumber {c : Char} (h : opensNumber c = true) : c.toNat ≤ 57 := by
  rw [opensNumber, Bool.or_eq_true, Bool.or_eq_true, decide_eq_true_eq, decide_eq_true_eq] at h
  rcases h with (hdigit | rfl) | rfl
  · exact (Char.isDigit_iff_toNat.1 hdigit).2
  · decide
  · decide

theorem opensNumber_ofNat {n : Nat} (h : 58 ≤ n) : opensNumber (Char.ofNat n) = false := by
  by_contra hopens
  rw [Bool.not_eq_false] at hopens
  by_cases hvalid : n.isValidChar
  · have hle := toNat_le_of_opensNumber hopens
    rw [Char.ofNat, dif_pos hvalid] at hle
    have hcode : (Char.ofNatAux n hvalid).toNat = n := rfl
    omega
  · rw [Char.ofNat, dif_neg hvalid] at hopens
    cases hopens

namespace Text

/-- The letters that have a lower case have letters for it. -/
theorem le_of_imageIn?_lowerRuns {code image : Nat} (h : imageIn? lowerRuns code = some image) : 58 ≤ image := by
  have htargets : ∀ run ∈ lowerRuns, 58 ≤ run.target := by decide +kernel
  obtain ⟨run, hrun, himage⟩ := List.exists_of_findSome?_eq_some h
  have htarget := htargets run hrun
  rw [CaseRun.image?] at himage
  split at himage
  · cases himage
    omega
  · cases himage

/-- **No other character becomes one that a number may start with**, in lower case. -/
theorem eq_of_mem_lowerChar {c c' : Char} (h : c' ∈ lowerChar c) (hopens : opensNumber c' = true) : c' = c := by
  rw [lowerChar] at h
  split at h
  next hascii =>
    have hall : ∀ n < 128, opensNumber (Char.ofNat n).toLower = true → (Char.ofNat n).toLower = Char.ofNat n := by
      decide
    obtain rfl := List.mem_singleton.1 h
    have hc := hall c.toNat hascii
    rw [Char.ofNat_toNat] at hc
    exact hc hopens
  split at h
  next =>
    have hall : ∀ c' ∈ ['i', '\u0307'], opensNumber c' = false := by simp [opensNumber]
    rw [hall c' h] at hopens
    cases hopens
  next =>
    obtain rfl := List.mem_singleton.1 h
    cases himage : imageIn? lowerRuns c.toNat with
    | none => rfl
    | some image =>
      rw [himage, Option.map_some, Option.getD_some, opensNumber_ofNat (le_of_imageIn?_lowerRuns himage)] at hopens
      cases hopens

/-- A text that is not empty has a first character in lower case, which starts a number only if the text does. -/
theorem exists_head_lower {s : String} (h : s ≠ "") : ∃ c c' rest, s.toList.head? = some c ∧
    (lower s).toList = c' :: rest ∧ (opensNumber c' = true → c' = c) := by
  obtain ⟨c, cs, hcs⟩ := List.exists_cons_of_ne_nil fun hnil => h (String.toList_eq_nil_iff.1 hnil)
  rw [lower, hcs, String.toList_ofList, lowerAfter]
  by_cases hsigma : c = 'Σ'
  · rw [if_pos hsigma]
    refine ⟨c, _, _, rfl, rfl, fun hopens => ?_⟩
    split at hopens <;> cases hopens
  · have hne : lowerChar c ≠ [] := by
      rw [lowerChar]
      split
      · exact List.cons_ne_nil _ _
      · split <;> exact List.cons_ne_nil _ _
    obtain ⟨c', rest, hlower⟩ := List.exists_cons_of_ne_nil hne
    rw [if_neg hsigma, hlower]
    exact ⟨c, c', _, rfl, rfl, eq_of_mem_lowerChar (hlower ▸ List.mem_cons_self)⟩

end Text

/-! ## Names and constants -/

/-- The column is called by a name that starts like a number: with a digit, a minus sign or a point. -/
def Identifier.StartsLikeNumber (column : Identifier) : Prop := column.text.toList.head?.any opensNumber = true

instance : DecidablePred Identifier.StartsLikeNumber := fun column =>
  inferInstanceAs (Decidable (column.text.toList.head?.any opensNumber = true))

/-- A constant is a number. -/
def Constant.IsNumber : Constant → Prop
  | integer _ | decimal _ => True
  | string _ | boolean _ | null => False

section Names

variable {column : Identifier} {v : Variable} {n : Nat} {c : Constant}

/-- A number behind a stem is told by its last character. -/
theorem Supply.last_spell (stem : String) (n : Nat) :
    (Supply.spell stem n).toList.getLast?.any Char.isDigit = true := by
  have hne : Nat.toDigits 10 n ≠ [] := Nat.toDigits_ne_nil
  rw [spell, String.toList_append, Nat.toString_eq_ofList_toDigits, String.toList_ofList,
    List.getLast?_append_of_ne_nil _ hne, List.getLast?_eq_some_getLast hne]
  exact Text.isDigit_of_mem_toDigits n _ (List.getLast_mem hne)

/-- A name with the number behind it starts like a number only if the column does. -/
theorem Identifier.startsLikeNumber_of_spell
    (h : (Supply.spell (Text.lower column.text) n).toList.head?.any opensNumber = true) : column.StartsLikeNumber := by
  obtain ⟨c, c', rest, hhead, hlower, hopens⟩ := Text.exists_head_lower column.text_ne
  rw [Supply.spell, String.toList_append, hlower] at h
  have hc' : opensNumber c' = true := h
  rw [StartsLikeNumber, hhead, ← hopens hc']
  exact hc'

/-- Legible terms are told apart by their texts. -/
theorem Term.Legible.text_inj {t u : Term} (ht : t.Legible) (hu : u.Legible) (h : t.text = u.text) : t = u := by
  have hstops : Formula.Stops [] := by simp [Formula.Stops]
  exact (ht.text_append_inj hu hstops hstops (congrArg (String.toList · ++ []) h)).1

/-- **A name is printed like a constant only if that is a number** and the column starts like one. -/
theorem Term.Legible.isNumber_of_spell (hc : (Term.const c).Legible)
    (h : Supply.spell (Text.lower column.text) n = c.text) : c.IsNumber ∧ column.StartsLikeNumber := by
  have hlast := Supply.last_spell (Text.lower column.text) n
  rw [h] at hlast
  rcases hc.word with ⟨value, hvalue⟩ | ⟨-, huse⟩
  · -- a string ends in a quote
    cases hvalue
    have htext : (Constant.string value).text.toList = _ := toList_text_string value
    rw [htext, ← List.cons_append, List.getLast?_concat] at hlast
    cases hlast
  · have huse : (Term.const c).use = some (wordUse c.text.toList) := huse
    rw [wordUse, hlast] at huse
    split at huse
    next hhead =>
      rw [← h] at hhead
      refine ⟨?_, Identifier.startsLikeNumber_of_spell hhead⟩
      cases c <;> first | exact trivial | cases huse
    next =>
      cases c <;> cases huse

end Names

/-! ## The terms of a source -/

/-- The terms of a source, as they stand in its atoms. -/
def Expression.terms (e : Expression) : List Term := e.atoms.flatMap Formula.arguments

/-- The condition of an ON join. -/
def JoinKind.condition? {κ : Type} : JoinKind κ → Option κ
  | on condition => some condition
  | cross | .using _ | natural => none

/-- The ON conditions of a tree, from left to right. -/
def JoinTree.conditions {α κ : Type} : JoinTree α κ → List κ
  | leaf _ => []
  | join kind left right => left.conditions ++ kind.condition?.toList ++ right.conditions

/-- An operand of a condition comes to a constant. -/
def SqlCondition.Holds (condition : SqlCondition) (c : Constant) : Prop :=
  ∃ operand ∈ condition.expr.operands, ∃ source, conditionTerm condition.folding source operand = .ok (.const c)

section Source

variable {x y e : Expression} {t : JoinTree Leaf SqlCondition} {c : Constant} {a : Atom}

/-- Columns are equated by their variables. -/
theorem Expression.Equates.not_const {joined : Identifier → Prop} {added : List Atom}
    (h : x.Equates y joined added) (ha : a ∈ added) : .const c ∉ a.arguments := by
  obtain ⟨columns, -, -, hatoms⟩ := h
  obtain ⟨column, -, v, w, -, -, rfl⟩ := exists_of_mem_forall₂ hatoms ha
  rw [Formula.equality, Formula.arguments]
  simp

/-- The constants of what a join adds are those of its condition. -/
theorem JoinKind.Adds.holds {kind : JoinKind SqlCondition} {added : List Atom} (h : kind.Adds x y added)
    (ha : a ∈ added) (hc : .const c ∈ a.arguments) : ∃ condition ∈ kind.condition?, condition.Holds c := by
  cases kind with
  | cross =>
    obtain rfl : added = [] := h
    cases ha
  | on condition =>
    obtain ⟨joined, -, hatoms⟩ := h
    -- whatever holds of the operands holds of the arguments that they come to
    have hbuilt := builtFrom_conditionAtoms (T := fun u => ∀ c, u = .const c → condition.Holds c)
      (fun operand hoperand u hu c hc => ⟨operand, hoperand, joined, hc ▸ hu⟩) hatoms
    exact ⟨condition, rfl, (hbuilt.2 a ha).compositional Formula.compositional_arguments _ hc c rfl⟩
  | «using» columns => exact absurd hc (Expression.Equates.not_const h ha)
  | natural => exact absurd hc (Expression.Equates.not_const h ha)

/-- The constants of a source are those of its conditions. -/
theorem JoinTree.exists_holds_of_mem_atom (h : t.source = .ok e) (ha : a ∈ e.atoms) (hc : .const c ∈ a.arguments) :
    ∃ condition ∈ t.conditions, condition.Holds c := by
  induction t generalizing e with
  | leaf l =>
    cases h
    rw [l.expression_atoms, List.mem_singleton] at ha
    subst ha
    rw [Formula.arguments] at hc
    obtain ⟨column, -, hcolumn⟩ := List.mem_map.1 hc
    cases hcolumn
  | join kind left right ihl ihr =>
    obtain ⟨x, y, hx, hy, he⟩ := source_join_eq_ok.1 h
    obtain ⟨hs, added, bound, hadded, rfl⟩ := Expression.join_adds_atoms he
    simp only [conditions, List.mem_append, Option.mem_toList]
    rcases List.mem_append.1 ha with ha | ha
    · rcases List.mem_append.1 ha with ha | ha
      · obtain ⟨condition, hcondition, hholds⟩ := ihl hx ha
        exact ⟨condition, .inl (.inl hcondition), hholds⟩
      · obtain ⟨condition, hcondition, hholds⟩ := ihr hy ha
        exact ⟨condition, .inr hcondition, hholds⟩
    · obtain ⟨condition, hcondition, hholds⟩ := hadded.holds ha hc
      exact ⟨condition, .inl (.inr hcondition), hholds⟩

/-- **The terms of a source** are variables of its leaves and constants of its conditions. -/
theorem JoinTree.mem_terms_source (h : t.source = .ok e) {u : Term} (hu : u ∈ e.terms) :
    (∃ v ∈ t.vars, u = .var v) ∨ ∃ c, u = .const c ∧ ∃ condition ∈ t.conditions, condition.Holds c := by
  obtain ⟨a, ha, hargument⟩ := List.mem_flatMap.1 hu
  cases u with
  | var v =>
    have hv : v ∈ Formula.vars a := List.mem_filterMap.2 ⟨.var v, hargument, rfl⟩
    exact .inl ⟨v, mem_vars_of_mem_atom h ha hv, rfl⟩
  | const c => exact .inr ⟨c, rfl, exists_holds_of_mem_atom h ha hargument⟩

end Source

/-! ## The constants of a statement -/

section Constants

variable {e : Expr}

/-- The operands of an expression have their numbers from it. -/
theorem Sql.Expr.HasNumerals.operands (h : e.HasNumerals) : ∀ x ∈ e.operands, x.HasNumerals := by
  induction h with
  | @binary op left right hl hr ihl ihr =>
    cases op with
    | and | or =>
      rw [Expr.operands, List.forall_mem_append]
      exact ⟨ihl, ihr⟩
    | compare =>
      rw [Expr.operands]
      simp [hl, hr]
    | other => exact List.forall_mem_nil _
  | @unary op _ _ ih =>
    cases op with
    | not =>
      rw [Expr.operands]
      exact ih
    | _ => exact List.forall_mem_nil _
  | nested _ ih =>
    rw [Expr.operands]
    exact ih
  | isNull h =>
    rw [Expr.operands]
    exact List.forall_mem_singleton.2 h
  | between ht hl hu =>
    rw [Expr.operands]
    simp [ht, hl, hu]
  | @inList _ _ items ht hitems =>
    cases items with
    | nil => exact List.forall_mem_nil _
    | cons item items =>
      rw [Expr.operands]
      exact List.forall_mem_cons.2 ⟨ht, hitems⟩
  | _ => exact List.forall_mem_nil _

/-- The number that an expression is is one of its numbers. -/
theorem Sql.Expr.HasNumerals.isNumeral {digits : String} (h : e.HasNumerals) (hdigits : e.number? = some digits) :
    IsNumeral digits := by
  induction h with
  | @literal value hvalue =>
    cases value with
    | number digits long =>
      cases hdigits
      exact hvalue _ _ rfl
    | _ => cases hdigits
  | nested _ ih => exact ih hdigits
  | @unary op operand hoperand =>
    cases hoperand with
    | @literal value hvalue =>
      cases op <;> cases value <;> cases hdigits
      exact hvalue _ _ rfl
    | _ => cases op <;> cases hdigits
  | _ => cases hdigits

/-- **The constants of a condition are legible**, if its numbers are numerals. -/
theorem SqlCondition.Holds.legible {condition : SqlCondition} {c : Constant} (h : condition.Holds c)
    (hnumerals : condition.expr.HasNumerals) : (Term.const c).Legible := by
  obtain ⟨operand, hoperand, source, hc⟩ := h
  have hnumber : ∀ digits, operand.number? = some digits → IsNumeral digits := fun _ hdigits =>
    (hnumerals.operands operand hoperand).isNumeral hdigits
  rcases exists_var_or_legible_of_conditionTerm hnumber hc with ⟨v, -, hv⟩ | ⟨c', hc', hlegible⟩
  · cases hv
  · cases hc'
    exact hlegible

end Constants

namespace Lowering

section Conditions

variable {c : Catalog} {condition : SqlCondition}

/-- A condition belongs to some of the operators. -/
def Restricts (operators : List JoinOperator) (condition : SqlCondition) : Prop :=
  ∃ op ∈ operators, op.constraint = .on condition.expr

theorem Stands.constraint_eq {folding : Folding} {op : JoinOperator} {kind : JoinKind SqlCondition}
    (h : Stands folding op kind) (hcondition : condition ∈ kind.condition?) :
    op.constraint = .on condition.expr := by
  cases h with
  | inner _ hcarries =>
    generalize op.constraint = constraint at hcarries ⊢
    cases hcarries with
    | on =>
      cases hcondition
      rfl
    | _ => cases hcondition
  | cross => cases hcondition

/-- The conditions of a tree belong to the operators of its item. -/
theorem Mirrors.restricts {item : TableItem} {t : Tree} (h : Mirrors c (Stands c.folding) item t) :
    ∀ condition ∈ t.conditions, Restricts item.operators condition := by
  induction h with
  | table _ => exact List.forall_mem_nil _
  | nested _ ih =>
    rw [TableItem.operators, TableFactor.operators]
    exact ih
  | @join left op right kind l r _ _ hkind ihl ihr =>
    rw [TableItem.operators] at ihr
    rw [TableItem.operators]
    intro condition hcondition
    rw [JoinTree.conditions, List.mem_append, List.mem_append, Option.mem_toList] at hcondition
    rcases hcondition with (hcondition | hcondition) | hcondition
    · obtain ⟨op', hop, hconstraint⟩ := ihl condition hcondition
      exact ⟨op', List.mem_append_left _ hop, hconstraint⟩
    · exact ⟨op, List.mem_append_right _ List.mem_cons_self, hkind.constraint_eq hcondition⟩
    · obtain ⟨op', hop, hconstraint⟩ := ihr condition hcondition
      exact ⟨op', List.mem_append_right _ (List.mem_cons_of_mem _ hop), hconstraint⟩

/-- Cross joins add no conditions. -/
theorem conditions_foldl (first : Tree) (rest : List Tree) :
    (rest.foldl (JoinTree.join .cross) first).conditions = (first :: rest).flatMap JoinTree.conditions := by
  induction rest generalizing first with
  | nil => rw [List.foldl_nil, List.flatMap_singleton]
  | cons t rest ih =>
    rw [List.foldl_cons, ih, List.flatMap_cons, List.flatMap_cons, List.flatMap_cons, JoinTree.conditions,
      JoinKind.condition?, Option.toList_none, List.append_nil, List.append_assoc]

/-- The conditions of the tree of a clause belong to the operators of the clause. -/
theorem MirrorsItems.restricts {items : List TableItem} {tree : Tree}
    (h : MirrorsItems c (Stands c.folding) items tree) :
    ∀ condition ∈ tree.conditions, Restricts (items.flatMap TableItem.operators) condition := by
  obtain ⟨first, rest, hitems, rfl⟩ := h
  intro condition hcondition
  rw [conditions_foldl] at hcondition
  obtain ⟨t, ht, hcondition⟩ := List.mem_flatMap.1 hcondition
  obtain ⟨item, hitem, hmirrors⟩ := exists_of_mem_forall₂ hitems ht
  obtain ⟨op, hop, hconstraint⟩ := hmirrors.restricts condition hcondition
  exact ⟨op, List.mem_flatMap.2 ⟨item, hitem, hop⟩, hconstraint⟩

/-- **The conditions of the tree of a statement** have numerals for their numbers, if the statement has. -/
theorem hasNumerals_of_mem_conditions {s : Statement} {plan : Plan} (h : statementPlan c s = .ok plan)
    (hnumerals : AllHaveNumerals s.operators) (supply : Supply)
    (hcondition : condition ∈ (plan.tree supply).conditions) : condition.expr.HasNumerals := by
  obtain ⟨query, hquery, h⟩ := bind_eq_ok.1 h
  obtain ⟨op, hop, hconstraint⟩ := (itemsPlan_mirrors h supply).restricts condition hcondition
  rw [← operators_eq_of_plainSelect hquery] at hop
  have hon := hnumerals op hop
  rw [hconstraint] at hon
  exact hon

end Conditions

/-! ## The variables of a statement -/

/-- A variable is called by the column that it is drawn for. -/
theorem exists_name_eq_of_mem_bind {s : Supply} {columns : List Identifier} {column : Identifier} {v : Variable}
    (h : (column, v) ∈ (s.bind columns).1) : ∃ n, v.name = Supply.spell (Text.lower column.text) n := by
  induction columns generalizing s with
  | nil => cases h
  | cons first rest ih =>
    rcases List.mem_cons.1 h with heq | h
    · cases heq
      exact ⟨_, rfl⟩
    · exact ih h

/-- **A variable of the tree of a plan** stands for a column of a leaf, and is called by it. -/
theorem Plan.exists_column_of_mem_vars {plan : Plan} {s : Supply} {v : Variable} (h : v ∈ (plan.tree s).vars) :
    ∃ l ∈ (plan.tree s).leaves, ∃ column n, (column, v) ∈ l.columns ∧
      v.name = Supply.spell (Text.lower column.text) n := by
  obtain ⟨l, hl, hv⟩ := List.mem_flatMap.1 h
  obtain ⟨⟨column, w⟩, hcolumn, hw⟩ := List.mem_map.1 hv
  obtain rfl : w = v := hw
  obtain ⟨place, -, supply, hbinds⟩ := exists_of_mem_forall₂ (plan.leaves_tree s) hl
  have hbound : (column, w) ∈ (supply.bind place.columns).1 := by
    rw [hbinds, Placement.leaf_columns] at hcolumn
    exact hcolumn
  obtain ⟨n, hn⟩ := exists_name_eq_of_mem_bind hbound
  exact ⟨l, hl, column, n, hcolumn, hn⟩

end Lowering

/-- **A variable that reads like a number.** It stands for a column whose name starts like one, and this name in lower
case spells the number together with the digits behind it. -/
inductive Expression.Confuses (e : Expression) : Term → Term → Prop
  /-- The variable and the number. -/
  | intro {exposed : RelationId} {column : Identifier} {v : Variable} {n : Nat} {c : Constant} :
    e.dictionary.get? (.qualified exposed column) = some v → column.StartsLikeNumber →
    v.name = Text.lower column.text ++ toString n → c.IsNumber → v.name = c.text →
    Confuses e (.var v) (.const c)

namespace Lowering

variable {c : Catalog} {s : Statement} {p : Progress} {e : Expression}

/-- **The terms of a statement are told apart by their texts**, except for numbers and variables that read like them, if
its own numbers are numerals. -/
theorem eq_or_confuses_of_text_eq (hnumerals : AllHaveNumerals s.operators)
    (h : (outcome (statement c s) p).1 = .ok e) {t u : Term} (ht : t ∈ e.terms) (hu : u ∈ e.terms)
    (htext : t.text = u.text) : t = u ∨ e.Confuses t u ∨ e.Confuses u t := by
  obtain ⟨plan, hplan, hsource, -⟩ := exists_source_of_outcome h
  have hlegible : ∀ condition ∈ (plan.tree p.supply).conditions, ∀ c, condition.Holds c → (Term.const c).Legible :=
    fun _ hcondition _ hholds => hholds.legible (hasNumerals_of_mem_conditions hplan hnumerals p.supply hcondition)
  have hconfuses : ∀ {v : Variable} {c : Constant}, v ∈ (plan.tree p.supply).vars → (Term.const c).Legible →
      v.name = c.text → e.Confuses (.var v) (.const c) := by
    intro v c hv hc hname
    obtain ⟨l, hl, column, n, hcolumn, hspell⟩ := Plan.exists_column_of_mem_vars hv
    have hget := (JoinTree.get?_qualified_source (distinct_tree hplan p.supply) hsource).2
      ⟨l, hl, l.answersTo_exposed, hcolumn⟩
    obtain ⟨hnumber, hstarts⟩ := hc.isNumber_of_spell (hspell.symm.trans hname)
    exact .intro hget hstarts hspell hnumber hname
  rcases JoinTree.mem_terms_source hsource ht with ⟨v, hv, rfl⟩ | ⟨c, rfl, condition, hcondition, hc⟩ <;>
  rcases JoinTree.mem_terms_source hsource hu with ⟨w, hw, rfl⟩ | ⟨c', rfl, condition', hcondition', hc'⟩
  · -- no name is handed out twice
    exact .inl (congrArg Term.var (Variable.ext htext))
  · exact .inr (.inl (hconfuses hv (hlegible _ hcondition' _ hc') htext))
  · exact .inr (.inr (hconfuses hw (hlegible _ hcondition _ hc) htext.symm))
  · exact .inl ((hlegible _ hcondition _ hc).text_inj (hlegible _ hcondition' _ hc') htext)

/-- A text that comes to a source has a single statement. -/
theorem exists_parseSingle_of_outcome {d : Dialect} {query : String} (h : (outcome (text d c query) p).1 = .ok e) :
    ∃ s, d.parseSingle query = .ok s ∧ (outcome (statement c s) p).1 = .ok e := by
  cases hparse : d.parseSingle query with
  | ok s =>
    rw [text_eq_statement hparse] at h
    exact ⟨s, rfl, h⟩
  | error error =>
    rw [text, parse, hparse] at h
    cases h

/-- **Terms are told apart by their texts, but for numbers and variables that read like them.** Take any text that comes
to a source over any catalog, in any dialect and from any supply. Two terms of its atoms that are printed alike are the
same, or one is a number and the other is a variable that reads like it. So neither two variables nor two constants are
ever printed alike, nor a variable and a string, a truth value or the missing value. And if no column of the source has
a name that starts with a digit, a minus sign or a point, no two terms are. -/
theorem terms_told_apart (d : Dialect) (c : Catalog) (query : String) (p : Progress) (e : Expression)
    (h : (outcome (text d c query) p).1 = .ok e) :
    (∀ t ∈ e.terms, ∀ u ∈ e.terms, t.text = u.text → t = u ∨ e.Confuses t u ∨ e.Confuses u t) ∧
    ((∀ exposed column v, e.dictionary.get? (.qualified exposed column) = some v → ¬column.StartsLikeNumber) →
      ∀ t ∈ e.terms, ∀ u ∈ e.terms, t.text = u.text → t = u) := by
  obtain ⟨s, hparse, hs⟩ := exists_parseSingle_of_outcome h
  have hnumerals := Dialect.allHaveNumerals_of_parseSingle hparse
  have hall : ∀ t ∈ e.terms, ∀ u ∈ e.terms, t.text = u.text → t = u ∨ e.Confuses t u ∨ e.Confuses u t :=
    fun t ht u hu htext => eq_or_confuses_of_text_eq hnumerals hs ht hu htext
  refine ⟨hall, fun hnames t ht u hu htext => ?_⟩
  rcases hall t ht u hu htext with heq | hconfuses | hconfuses
  · exact heq
  · cases hconfuses with
    | intro hget hstarts => exact absurd hstarts (hnames _ _ _ hget)
  · cases hconfuses with
    | intro hget hstarts => exact absurd hstarts (hnames _ _ _ hget)

end Lowering

/-! ## Eleven twice -/

namespace Sample

open Lowering

/-- A catalog with the relations `PLACE("1")` and `SEAT(NR)`. -/
def placeCatalog : Catalog :=
  ((Catalog.empty .upper).declare [⟨none, "place", [⟨"\"1\"", none, false⟩]⟩,
    ⟨none, "seat", [⟨"nr", none, false⟩]⟩]).catalog

/-- A text that compares the column `"1"` to a number. -/
def placeText : String := "SELECT * FROM place JOIN seat ON place.\"1\" = 11"

/-- **A variable can read like a number.** The first variable is drawn for the column `"1"`, so it is called `11`, and
in this text it is compared to the number 11. -/
theorem eleven_twice : ∃ e, (outcome (text .duckdb placeCatalog placeText) .start).1 = .ok e ∧
    e.atomTexts = ["PLACE(11)", "SEAT(nr2)", "11 = 11"] ∧
    ∃ t ∈ e.terms, ∃ u ∈ e.terms, t.text = u.text ∧ t ≠ u := by
  have hterms : ((outcome (text .duckdb placeCatalog placeText) .start).1.map fun e => (e.atomTexts, e.terms)) =
      .ok (["PLACE(11)", "SEAT(nr2)", "11 = 11"],
        [.var ⟨"11", by decide⟩, .var ⟨"nr2", by decide⟩, .var ⟨"11", by decide⟩, .const (.integer 11)]) := by
    decide +kernel
  obtain ⟨e, he, hpair⟩ := map_eq_ok.1 hterms
  obtain ⟨htexts, hterms⟩ := Prod.mk.inj hpair
  refine ⟨e, he, htexts, .var ⟨"11", by decide⟩, ?_, .const (.integer 11), ?_, by decide, by decide⟩
  · rw [hterms]
    exact List.mem_cons_self
  · rw [hterms]
    simp

/-- A text with a string that looks like a number. -/
def leastText : String := "SELECT * FROM staff a JOIN staff b ON a.id = 1 AND b.name = '1'"

/-- The number 1 and the string `'1'` are told apart, and both from the variables. -/
theorem terms_told_apart_staff : ∃ e, (outcome (text .duckdb staffCatalog leastText) .start).1 = .ok e ∧
    e.atomTexts = ["STAFF(id1, name2)", "STAFF(id3, name4)", "id1 = 1", "name4 = '1'"] ∧
    ∀ t ∈ e.terms, ∀ u ∈ e.terms, t.text = u.text → t = u := by
  have hread : ((outcome (text .duckdb staffCatalog leastText) .start).1.map fun e => (e.atomTexts,
      e.dictionary.entries.all fun entry => !decide entry.1.column.StartsLikeNumber)) =
      .ok (["STAFF(id1, name2)", "STAFF(id3, name4)", "id1 = 1", "name4 = '1'"], true) := by
    decide +kernel
  obtain ⟨e, he, hpair⟩ := map_eq_ok.1 hread
  obtain ⟨htexts, hnames⟩ := Prod.mk.inj hpair
  obtain ⟨-, hclear⟩ := terms_told_apart .duckdb staffCatalog leastText .start e he
  refine ⟨e, he, htexts, hclear fun exposed column v hget hstarts => ?_⟩
  have hname := List.all_eq_true.1 hnames _ (SortedMap.mem_entries.2 hget)
  rw [Bool.not_eq_true', decide_eq_false_iff_not] at hname
  exact hname hstarts

end Sample

end FromClause
