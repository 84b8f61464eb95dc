import FromClause.Lowering.Clause
import FromClause.Proofs.Logic.Supply
import FromClause.Proofs.Relation.Tree
/-!
# Plans of FROM clauses

A FROM clause is understood before any variable is drawn for it. Its plan is the tree of its joins with the
tables at the leaves: which relation each refers to, the name it is exposed under, and the names of its columns
there. A plan is a function of the catalog and the clause alone, and so is the error that takes its place.

Lowering follows the plan (`itemsTree_follows`): where there is one, it comes to the tree that binds the columns
of the plan, from left to right, to variables of the supply; where there is none, it fails with the same error,
after it has drawn variables for some columns perhaps. So what a statement comes to depends on the supply that
it starts from through the variables of its leaves only (`outcome_statement`).
-/

namespace FromClause

open Sql

namespace Lowering

variable {α β : Type}

/-! ## Steps -/

/-- What a step comes to, and what goes on after it. -/
def outcome (x : Lowering α) (p : Progress) : Except LoweringError α × Progress := x.run p

theorem outcome_lift (x : Except LoweringError α) (p : Progress) : outcome (liftM x) p = (x, p) := by
  cases x <;> rfl

theorem outcome_tell (events : List Event) (p : Progress) :
    outcome (tell events) p = (.ok (), ⟨p.supply, p.events ++ events⟩) := rfl

/-- A step that succeeds hands on its value and its progress. -/
theorem outcome_bind_of_ok {x : Lowering α} {f : α → Lowering β} {p q : Progress} {a : α}
    (h : outcome x p = (.ok a, q)) : outcome (x >>= f) p = outcome (f a) q := by
  have h : x p = (.ok a, q) := h
  change StateT.bind x (ExceptT.bindCont f) p = _
  rw [StateT.bind, h]
  rfl

/-- A step that fails ends the lowering. -/
theorem outcome_bind_of_error {x : Lowering α} {f : α → Lowering β} {p q : Progress} {e : LoweringError}
    (h : outcome x p = (.error e, q)) : outcome (x >>= f) p = (.error e, q) := by
  have h : x p = (.error e, q) := h
  change StateT.bind x (ExceptT.bindCont f) p = _
  rw [StateT.bind, h]
  rfl

/-! ## Placements -/

/-- A table reference as it is understood before variables are drawn for its columns. -/
structure Placement where
  /-- The relation of the catalog. -/
  relation : RelationId
  /-- The alias that it is exposed under. -/
  label : Option RelationId
  /-- The names of its columns in the clause. -/
  columns : List Identifier

/-- The leaf that binds the columns to variables. -/
def Placement.leaf (place : Placement) (bound : List (Identifier × Variable)) : Leaf :=
  match place.label with
  | some label => .aliased place.relation label bound
  | none => .catalog place.relation bound

/-- How a table reference is understood over a catalog. -/
def placement (c : Catalog) (name : ObjectName) (label : Option TableAlias) :
    Except LoweringError Placement := do
  let reference ← relationId c.folding name
  match c.get? reference with
  | none => throw (.unknownRelation reference)
  | some d =>
    let (qualifier, columns) ← exposure c.folding d label
    match firstDuplicate? columns with
    | some column => throw (.catalog (.duplicateColumn (qualifier.getD d.id) column))
    | none => return ⟨d.id, qualifier, columns⟩

/-- **A leaf is its placement with fresh variables.** A table reference that cannot be placed draws none. -/
theorem outcome_leaf (c : Catalog) (name : ObjectName) (label : Option TableAlias) (p : Progress) :
    ∃ events, outcome (leaf c name label) p =
      match placement c name label with
      | .ok place =>
        (.ok (place.leaf (p.supply.bind place.columns).1), ⟨p.supply.after place.columns, events⟩)
      | .error e => (.error e, ⟨p.supply, events⟩) := by
  rw [leaf, placement]
  cases relationId c.folding name with
  | error e => exact ⟨_, rfl⟩
  | ok reference =>
    rw [outcome_bind_of_ok (outcome_lift _ p), ok_bind, Catalog.get?]
    dsimp only
    rw [outcome_bind_of_ok (outcome_tell _ p)]
    cases (c.lookup reference).definition? with
    | none => exact ⟨_, rfl⟩
    | some d =>
      dsimp only
      cases exposure c.folding d label with
      | error e => exact ⟨_, rfl⟩
      | ok exposed =>
        rw [outcome_bind_of_ok (outcome_lift _ _), ok_bind]
        cases firstDuplicate? exposed.2 with
        | some column => exact ⟨_, rfl⟩
        | none => exact ⟨_, rfl⟩

/-! ## Plans -/

/-- A tree of joins over placements. -/
abbrev Plan := JoinTree Placement SqlCondition

mutual

/-- The plan for a single source. -/
def factorPlan (c : Catalog) : TableFactor → Except LoweringError Plan
  | .table name none label => do return .leaf (← placement c name label)
  | .table name (some _) _ => throw (.construct ("table function '" ++ name.text ++ "'"))
  | .nested item none => itemPlan c item
  | .nested _ (some label) =>
    throw (.construct ("alias '" ++ label.name.text ++ "' on a parenthesized join"))
  | .derived .. => throw (.construct "derived table")
  | .other text label => throw (.construct ("table factor '" ++ withAlias text label ++ "'"))

/-- The plan for an item of a FROM clause. -/
def itemPlan (c : Catalog) : TableItem → Except LoweringError Plan
  | .factor source => factorPlan c source
  | .join left operator right => do
    let l ← itemPlan c left
    let r ← factorPlan c right
    let kind ← joinKind c.folding operator
    return .join kind l r

end

/-- The plan for the items of a FROM clause. -/
def itemsPlan (c : Catalog) : List TableItem → Except LoweringError Plan
  | [] => throw (.construct "query without FROM clause")
  | first :: rest => do
    let plan ← itemPlan c first
    rest.foldlM (fun plan item => do return .join .cross plan (← itemPlan c item)) plan

/-- The plan for a statement. -/
def statementPlan (c : Catalog) (s : Statement) : Except LoweringError Plan := do
  itemsPlan c (← plainSelect s).items

namespace Plan

/-- The columns of a plan, from left to right. -/
def columns (plan : Plan) : List Identifier := plan.leaves.flatMap Placement.columns

/-- The tree that binds the columns of a plan to variables of a supply. -/
def tree : Plan → Supply → Tree
  | .leaf place, s => .leaf (place.leaf (s.bind place.columns).1)
  | .join kind left right, s => .join kind (tree left s) (tree right (s.after (columns left)))

theorem columns_leaf (place : Placement) : columns (.leaf place) = place.columns :=
  List.flatMap_singleton ..

theorem columns_join (kind : JoinKind SqlCondition) (left right : Plan) :
    columns (.join kind left right) = columns left ++ columns right :=
  List.flatMap_append

end Plan

/-! ## Lowering follows the plan -/

/-- **A step follows a plan**, wherever it starts. It comes to the tree of the plan and draws variables for its
columns; without a plan it fails with the error in its place, and may have drawn variables on the way. -/
structure Follows (x : Lowering Tree) (plan : Except LoweringError Plan) : Prop where
  /-- Where there is a plan, the step comes to its tree. -/
  ok {t : Plan} (h : plan = .ok t) (p : Progress) : ∃ events,
    outcome x p = (.ok (t.tree p.supply), ⟨p.supply.after t.columns, events⟩)
  /-- Where there is none, the step fails alike. -/
  error {e : LoweringError} (h : plan = .error e) (p : Progress) : ∃ columns events,
    outcome x p = (.error e, ⟨p.supply.after columns, events⟩)

namespace Follows

variable {x y : Lowering Tree} {plan plan' : Except LoweringError Plan}

/-- A step that is refused follows the refusal. -/
theorem throw (e : LoweringError) : Follows (MonadExcept.throw e) (.error e) where
  ok h := nomatch h
  error h p := by
    cases h
    exact ⟨[], p.events, rfl⟩

/-- A table reference follows its placement. -/
theorem leaf (c : Catalog) (name : ObjectName) (label : Option TableAlias) :
    Follows (do return .leaf (← Lowering.leaf c name label)) (do return .leaf (← placement c name label)) where
  ok {t} h p := by
    obtain ⟨place, hplace, ht⟩ := bind_eq_ok.1 h
    cases ht
    obtain ⟨events, hleaf⟩ := outcome_leaf c name label p
    rw [hplace] at hleaf
    rw [Plan.columns_leaf]
    exact ⟨events, outcome_bind_of_ok hleaf⟩
  error {e} h p := by
    obtain ⟨events, hleaf⟩ := outcome_leaf c name label p
    cases hplace : placement c name label with
    | error e' =>
      rw [hplace] at h hleaf
      cases h
      exact ⟨[], events, outcome_bind_of_error hleaf⟩
    | ok place =>
      rw [hplace] at h
      cases h

/-- **Two steps and a kind of join** follow the join of their plans. -/
theorem join (hx : Follows x plan) (hy : Follows y plan')
    (kind : Except LoweringError (JoinKind SqlCondition)) :
    Follows (do
      let l ← x
      let r ← y
      let k ← kind
      return .join k l r) (do
      let l ← plan
      let r ← plan'
      let k ← kind
      return .join k l r) where
  ok {t} h p := by
    obtain ⟨l, hl, h⟩ := bind_eq_ok.1 h
    obtain ⟨r, hr, h⟩ := bind_eq_ok.1 h
    obtain ⟨k, hk, h⟩ := bind_eq_ok.1 h
    cases h
    obtain ⟨told, hl⟩ := hx.ok hl p
    obtain ⟨events, hr⟩ := hy.ok hr ⟨p.supply.after l.columns, told⟩
    refine ⟨events, ?_⟩
    rw [outcome_bind_of_ok hl, outcome_bind_of_ok hr, hk, outcome_bind_of_ok (outcome_lift _ _),
      Plan.columns_join, Supply.after_append]
    rfl
  error {e} h p := by
    cases hl : plan with
    | error e' =>
      rw [hl] at h
      cases h
      obtain ⟨columns, events, hl⟩ := hx.error hl p
      exact ⟨columns, events, outcome_bind_of_error hl⟩
    | ok l =>
      -- from here on the left side has drawn its variables, whatever becomes of the rest
      obtain ⟨told, hx⟩ := hx.ok hl p
      rw [outcome_bind_of_ok hx]
      cases hr : plan' with
      | error e' =>
        rw [hl, hr] at h
        cases h
        obtain ⟨columns, events, hy⟩ := hy.error hr ⟨p.supply.after l.columns, told⟩
        refine ⟨l.columns ++ columns, events, ?_⟩
        rw [outcome_bind_of_error hy, Supply.after_append]
      | ok r =>
        rw [hl, hr] at h
        obtain ⟨events, hy⟩ := hy.ok hr ⟨p.supply.after l.columns, told⟩
        rw [outcome_bind_of_ok hy]
        cases kind with
        | ok k => cases h
        | error e' =>
          cases h
          exact ⟨l.columns ++ r.columns, events, by rw [Supply.after_append]; rfl⟩

end Follows

mutual

theorem factorTree_follows (c : Catalog) : ∀ source, Follows (factorTree c source) (factorPlan c source)
  | .table name none label => by
    rw [factorTree, factorPlan]
    exact .leaf c name label
  | .table name (some _) _ => by
    rw [factorTree, factorPlan]
    exact .throw _
  | .nested item none => by
    rw [factorTree, factorPlan]
    exact itemTree_follows c item
  | .nested _ (some label) => by
    rw [factorTree, factorPlan]
    exact .throw _
  | .derived .. => by
    rw [factorTree, factorPlan]
    exact .throw _
  | .other text label => by
    rw [factorTree, factorPlan]
    exact .throw _

theorem itemTree_follows (c : Catalog) : ∀ item, Follows (itemTree c item) (itemPlan c item)
  | .factor source => by
    rw [itemTree, itemPlan]
    exact factorTree_follows c source
  | .join left operator right => by
    rw [itemTree, itemPlan]
    exact (itemTree_follows c left).join (factorTree_follows c right) (joinKind c.folding operator)

end

/-- Items that are cross joined to a tree follow their plans. -/
theorem foldlM_follows (c : Catalog) (rest : List TableItem) {x : Lowering Tree}
    {plan : Except LoweringError Plan} (h : Follows x plan) :
    Follows (do
      let tree ← x
      rest.foldlM (fun tree item => do return .join .cross tree (← itemTree c item)) tree) (do
      let t ← plan
      rest.foldlM (fun t item => do return .join .cross t (← itemPlan c item)) t) := by
  induction rest generalizing x plan with
  | nil => simpa only [List.foldlM_nil, bind_pure] using h
  | cons item rest ih =>
    -- the join with one item is a step that follows its plan, and the rest goes on from there
    have hjoin : Follows (do return .join .cross (← x) (← itemTree c item))
        (do return .join .cross (← plan) (← itemPlan c item)) :=
      h.join (itemTree_follows c item) (.ok .cross)
    simpa only [List.foldlM_cons, bind_assoc, pure_bind] using ih hjoin

/-- **The items of a FROM clause follow their plan.** -/
theorem itemsTree_follows (c : Catalog) (items : List TableItem) :
    Follows (itemsTree c items) (itemsPlan c items) := by
  cases items with
  | nil => exact .throw _
  | cons first rest => exact foldlM_follows c rest (itemTree_follows c first)

/-! ## Statements -/

/-- The source that the tree of a plan denotes, with fresh variables of a supply. -/
def Plan.source (plan : Plan) (s : Supply) : Except LoweringError Expression :=
  (plan.tree s).source.mapError .join

theorem outcome_evaluate (tree : Tree) (p : Progress) :
    ∃ events, outcome (evaluate tree) p = (tree.source.mapError .join, ⟨p.supply, events⟩) := by
  have hsource : tree.source = (tree.map Leaf.expression).fold := rfl
  rw [evaluate, hsource]
  rw [outcome_bind_of_ok (outcome_tell _ p)]
  cases (tree.map Leaf.expression).fold with
  | ok e => exact ⟨_, rfl⟩
  | error e => exact ⟨_, rfl⟩

/-- **What a SELECT comes to** is the source of the plan of its items, and it draws variables for the columns of
the plan. A SELECT without a plan fails with the error in its place. -/
theorem outcome_select (c : Catalog) (s : Select) (p : Progress) :
    ∃ columns events, outcome (select c s) p =
        (itemsPlan c s.items >>= fun plan => plan.source p.supply, ⟨p.supply.after columns, events⟩) ∧
      ∀ plan, itemsPlan c s.items = .ok plan → columns = plan.columns := by
  rw [select]
  have hfollows := itemsTree_follows c s.items
  cases hplan : itemsPlan c s.items with
  | error e =>
    obtain ⟨columns, events, h⟩ := hfollows.error hplan p
    exact ⟨columns, events, outcome_bind_of_error h, nofun⟩
  | ok plan =>
    obtain ⟨told, h⟩ := hfollows.ok hplan p
    rw [outcome_bind_of_ok h, outcome_bind_of_ok (outcome_tell _ _)]
    obtain ⟨events, he⟩ := outcome_evaluate (plan.tree p.supply)
      ⟨p.supply.after plan.columns, told ++ [.treeBuilt (plan.tree p.supply).leafCount]⟩
    exact ⟨plan.columns, events, he, fun t ht => congrArg Plan.columns (Except.ok.inj ht)⟩

/-- **What a statement comes to** is the source of its plan, in the same way. -/
theorem outcome_statement (c : Catalog) (s : Statement) (p : Progress) :
    ∃ columns events, outcome (statement c s) p =
        (statementPlan c s >>= fun plan => plan.source p.supply, ⟨p.supply.after columns, events⟩) ∧
      ∀ plan, statementPlan c s = .ok plan → columns = plan.columns := by
  rw [statement, statementPlan]
  cases plainSelect s with
  | error e => exact ⟨[], p.events, rfl, nofun⟩
  | ok query =>
    rw [outcome_bind_of_ok (outcome_lift _ p), ok_bind]
    exact outcome_select c query p

end Lowering

end FromClause
