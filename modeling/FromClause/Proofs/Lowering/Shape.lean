import FromClause.Proofs.Lowering.References
import FromClause.Proofs.Sql.Operators
/-!
# The tree mirrors the clause

`Mirrors` says which tree belongs to an item of a FROM clause, and `MirrorsItems` which one to a whole clause.
Both are read off the clause and do not mention the lowering: a table is a leaf, a join in brackets is the tree
at its place, joins associate to the left with the kind that the operator stands for, and items are cross joined
from left to right. Lowering comes to such a tree, and does so whenever there is one (`itemsTree_mirrors`).

An inner join is what its constraint asks for. A CROSS JOIN keeps every pair of rows whatever constraint it is given,
so a constraint on it is not found in the tree (`Sample.staffCrossed_not_carried`). No text puts one there
(`Dialect.lawful_of_parseSingle`).
-/

namespace FromClause

open Sql

/-! ## The parts of a clause -/

namespace Sql

mutual

/-- The sources within a single one, itself included, at any depth of brackets. -/
def TableFactor.parts : TableFactor → List TableFactor
  | .nested item label => .nested item label :: item.parts
  | .table name arguments label => [.table name arguments label]
  | .derived text label => [.derived text label]
  | .other text label => [.other text label]

/-- The sources within an item of a FROM clause, at any depth of brackets. -/
def TableItem.parts : TableItem → List TableFactor
  | .factor source => source.parts
  | .join left _ right => left.parts ++ right.parts

end

/-- The sources that denote no leaf and no tree: functions that yield a table, joins in brackets under an alias,
queries in the place of a table, and whatever is not a table by its name. -/
def TableFactor.Refused : TableFactor → Prop
  | .table _ arguments _ => arguments.isSome = true
  | .nested _ label => label.isSome = true
  | .derived .. | .other .. => True

end Sql

namespace Lowering

variable {c : Catalog} {K K' : JoinOperator → JoinKind SqlCondition → Prop}

/-! ## Kinds of join -/

/-- A name of one part spells a column. -/
def SpellsColumn (folding : Folding) (name : ObjectName) (column : Identifier) : Prop :=
  ∃ n, name = [.name n] ∧ folding.normalised n = column.text

/-- The kind of join that a constraint asks for. -/
inductive Carries (folding : Folding) : JoinConstraint → JoinKind SqlCondition → Prop
  /-- A condition is the condition of the join. -/
  | on {e : Expr} : Carries folding (.on e) (.on ⟨e, folding⟩)
  /-- Listed columns are the columns to be equal, in their order. -/
  | using {names : List ObjectName} {columns : List Identifier} :
    List.Forall₂ (SpellsColumn folding) names columns →
    Carries folding (.using names) (.using columns)
  /-- NATURAL makes the join natural. -/
  | natural : Carries folding .natural .natural
  /-- Without a constraint every pair of rows is kept. -/
  | none : Carries folding .none .cross

/-- The kind of join that an operator stands for. -/
inductive Stands (folding : Folding) (op : JoinOperator) : JoinKind SqlCondition → Prop
  /-- An inner join is what its constraint asks for. -/
  | inner {kind : JoinKind SqlCondition} :
    op.family = .inner → Carries folding op.constraint kind → Stands folding op kind
  /-- A CROSS JOIN keeps every pair of rows, and a constraint on it counts for nothing. -/
  | cross : op.family = .cross → Stands folding op .cross

theorem Carries.eq_none {folding : Folding} {constraint : JoinConstraint}
    (h : Carries folding constraint .cross) : constraint = .none := by
  cases h
  rfl

/-- A lawful operator stands for what its constraint asks for. -/
theorem Stands.carries {folding : Folding} {op : JoinOperator} {kind : JoinKind SqlCondition}
    (h : Stands folding op kind) (hlawful : op.Lawful) : Carries folding op.constraint kind := by
  cases h with
  | inner _ hcarries => exact hcarries
  | cross hcross =>
    rw [hlawful hcross]
    exact .none

/-- A join keeps every pair of rows only without a constraint, or as a CROSS JOIN. -/
theorem Stands.eq_none_or_cross {folding : Folding} {op : JoinOperator} (h : Stands folding op .cross) :
    op.constraint = .none ∨ op.family = .cross := by
  cases h with
  | inner _ hcarries => exact .inl hcarries.eq_none
  | cross hcross => exact .inr hcross

/-- The name of a column in a USING list is read as it is spelled. -/
theorem usingColumn_eq_ok {folding : Folding} {name : ObjectName} {column : Identifier} :
    usingColumn folding name = .ok column ↔ SpellsColumn folding name column := by
  constructor
  · intro h
    obtain ⟨names, hnames, h⟩ := bind_eq_ok.1 h
    match names with
    | [] => cases h
    | [n] => exact ⟨n, plainNames_eq_ok.1 hnames, identifier_eq_ok.1 h⟩
    | _ :: _ :: _ => cases h
  · rintro ⟨n, rfl, hcolumn⟩
    exact bind_eq_ok.2 ⟨[n], plainNames_eq_ok.2 rfl, identifier_eq_ok.2 hcolumn⟩

/-- **The kind of a join** is the one that its operator stands for; there is none for other operators. -/
theorem joinKind_eq_ok {folding : Folding} {op : JoinOperator} {kind : JoinKind SqlCondition} :
    joinKind folding op = .ok kind ↔ Stands folding op kind := by
  obtain ⟨family, keywords, constraint⟩ := op
  constructor
  · intro h
    cases family with
    | cross =>
      cases h
      exact .cross rfl
    | outer => cases h
    | other => cases h
    | inner =>
      refine .inner rfl ?_
      cases constraint with
      | on condition =>
        cases h
        exact .on
      | «using» names =>
        obtain ⟨columns, hcolumns, h⟩ := bind_eq_ok.1 h
        cases h
        exact .using ((mapM_eq_ok.1 hcolumns).imp fun _ _ => usingColumn_eq_ok.1)
      | natural =>
        cases h
        exact .natural
      | none =>
        cases h
        exact .none
  · intro h
    cases h with
    | cross hfamily =>
      obtain rfl : family = .cross := hfamily
      rfl
    | inner hfamily hcarries =>
      obtain rfl : family = .inner := hfamily
      dsimp only at hcarries
      cases hcarries with
      | on => rfl
      | «using» hcolumns =>
        have hread := hcolumns.imp fun _ _ => usingColumn_eq_ok.2
        exact bind_eq_ok.2 ⟨_, mapM_eq_ok.2 hread, rfl⟩
      | natural => rfl
      | none => rfl

/-! ## Leaves -/

/-- **The leaf for a table** of the catalog: its relation is the one that the name of the table refers to, and
its columns are the declared ones in their order, with the first of them renamed if the alias says so. -/
inductive LeafFor (c : Catalog) : TableFactor → Leaf → Prop
  /-- A table without an alias is exposed under its own id. -/
  | catalog {name : ObjectName} {d : Definition} {bound : List (Identifier × Variable)} :
    Refers c name none d → bound.map (·.1) = d.columns.map Column.name → (bound.map (·.1)).Nodup →
    LeafFor c (.table name none none) (.catalog d.id bound)
  /-- A table with an alias is exposed under the alias. -/
  | aliased {name : ObjectName} {d : Definition} {a : TableAlias} {exposed : Identifier}
      {bound : List (Identifier × Variable)} :
    Refers c name (some a) d → c.folding.normalised a.name = exposed.text →
    (c.folding.newNames (some a)).length ≤ d.arity →
    (bound.map (·.1)).map Identifier.text = c.folding.effectiveNames d (some a) → (bound.map (·.1)).Nodup →
    LeafFor c (.table name none (some a)) (.aliased d.id (.bare exposed) bound)

namespace LeafFor

variable {source : TableFactor} {l : Leaf}

theorem not_refused (h : LeafFor c source l) : ¬source.Refused := by
  cases h <;> exact nofun

theorem parts_eq (h : LeafFor c source l) : source.parts = [source] := by
  cases h <;> rw [TableFactor.parts]

theorem sources_eq (h : LeafFor c source l) : source.sources = [source] := by
  cases h <;> rw [TableFactor.sources]

theorem operators_eq (h : LeafFor c source l) : source.operators = [] := by
  cases h <;> rw [TableFactor.operators]

theorem distinct (h : LeafFor c source l) : l.Distinct := by
  cases h with
  | catalog _ _ hnodup => exact hnodup
  | aliased _ _ _ _ hnodup => exact hnodup

/-- A table that can be placed has its place, with any variables, for a leaf. -/
theorem of_placed {place : Placement} (h : Placed c source place) (hl : Plan.Binds place l) :
    LeafFor c source l := by
  obtain ⟨name, label, rfl, hplace⟩ := h
  obtain ⟨s, rfl⟩ := hl
  obtain ⟨d, hrefers, hrelation, hexposure, hnodup⟩ := exists_refers_of_placement hplace
  obtain ⟨-, -, hfew, hexposed, htexts⟩ := spec_of_exposure hexposure
  obtain ⟨relation, qualifier, columns⟩ := place
  obtain rfl : relation = d.id := hrelation
  have hnames : (s.bind columns).1.map (·.1) = columns := s.map_fst_bind columns
  cases label with
  | none =>
    cases hexposure
    exact .catalog hrefers hnames (hnames.symm ▸ hnodup)
  | some a =>
    obtain ⟨exposed, -, -, -, -, hqualifier, -⟩ := exposure_some_eq_ok.1 hexposure
    obtain rfl : qualifier = some (.bare exposed) := hqualifier
    cases hexposed with
    | label hlabel => exact .aliased hrefers hlabel hfew (hnames.symm ▸ htexts) (hnames.symm ▸ hnodup)

/-- Conversely a table with a leaf can be placed. -/
theorem exists_placement (h : LeafFor c source l) :
    ∃ name label place, source = .table name none label ∧ placement c name label = .ok place := by
  cases h with
  | @catalog name d bound hrefers hnames hnodup =>
    have htexts : (c.folding.effectiveNames d none) = (bound.map (·.1)).map Identifier.text := by
      rw [hnames, List.map_map]
      rfl
    obtain ⟨place, hplace⟩ := exists_placement_iff.2
      ⟨d, hrefers, Nat.zero_le _, htexts ▸ hnodup.map Identifier.text_injective⟩
    exact ⟨name, none, place, rfl, hplace⟩
  | @aliased name d a exposed bound hrefers hlabel hfew htexts hnodup =>
    obtain ⟨place, hplace⟩ := exists_placement_iff.2
      ⟨d, hrefers, hfew, htexts ▸ hnodup.map Identifier.text_injective⟩
    exact ⟨name, some a, place, rfl, hplace⟩

end LeafFor

/-! ## Items -/

/-- **The tree that belongs to an item** of a FROM clause, when an operator may become the kinds of join that are
related to it. -/
inductive Mirrors (c : Catalog) (K : JoinOperator → JoinKind SqlCondition → Prop) : TableItem → Tree → Prop
  /-- A table is a leaf. -/
  | table {source : TableFactor} {l : Leaf} :
    LeafFor c source l → Mirrors c K (.factor source) (.leaf l)
  /-- A join in brackets is its tree, in the place of the brackets. -/
  | nested {item : TableItem} {t : Tree} :
    Mirrors c K item t → Mirrors c K (.factor (.nested item none)) t
  /-- A join has what stands before it on its left, and the one source behind it on its right. -/
  | join {left : TableItem} {op : JoinOperator} {right : TableFactor} {kind : JoinKind SqlCondition}
      {l r : Tree} :
    Mirrors c K left l → Mirrors c K (.factor right) r → K op kind →
    Mirrors c K (.join left op right) (.join kind l r)

namespace Mirrors

variable {item : TableItem} {t : Tree}

/-- The kinds of join may be related in another way to the operators that the item has. -/
theorem imp (h : Mirrors c K item t) (himp : ∀ op ∈ item.operators, ∀ kind, K op kind → K' op kind) :
    Mirrors c K' item t := by
  induction h with
  | table hleaf => exact .table hleaf
  | nested _ ih =>
    rw [TableItem.operators, TableFactor.operators] at himp
    exact .nested (ih himp)
  | join _ _ hkind ihl ihr =>
    rw [TableItem.operators, List.forall_mem_append, List.forall_mem_cons] at himp
    obtain ⟨hleft, hop, hright⟩ := himp
    rw [TableItem.operators] at ihr
    exact .join (ihl hleft) (ihr hright) (hop _ hkind)

/-- **The leaves** belong to the tables of the item, in the order of the text. -/
theorem leaves (h : Mirrors c K item t) : List.Forall₂ (LeafFor c) item.sources t.leaves := by
  induction h with
  | table hleaf =>
    rw [TableItem.sources, hleaf.sources_eq]
    exact .cons hleaf .nil
  | nested _ ih =>
    rw [TableItem.sources, TableFactor.sources]
    exact ih
  | join _ _ _ ihl ihr =>
    rw [TableItem.sources] at ihr
    rw [TableItem.sources]
    exact List.rel_append ihl ihr

/-- Nothing in the item is refused. -/
theorem not_refused (h : Mirrors c K item t) : ∀ source ∈ item.parts, ¬source.Refused := by
  induction h with
  | table hleaf =>
    rw [TableItem.parts, hleaf.parts_eq]
    exact List.forall_mem_singleton.2 hleaf.not_refused
  | nested _ ih =>
    rw [TableItem.parts, TableFactor.parts]
    exact List.forall_mem_cons.2 ⟨nofun, ih⟩
  | join _ _ _ ihl ihr =>
    rw [TableItem.parts] at ihr
    rw [TableItem.parts]
    exact List.forall_mem_append.2 ⟨ihl, ihr⟩

/-- Every operator of the item has a kind. -/
theorem exists_kind (h : Mirrors c K item t) : ∀ op ∈ item.operators, ∃ kind, K op kind := by
  induction h with
  | table hleaf =>
    rw [TableItem.operators, hleaf.operators_eq]
    exact List.forall_mem_nil _
  | nested _ ih =>
    rw [TableItem.operators, TableFactor.operators]
    exact ih
  | join _ _ hkind ihl ihr =>
    rw [TableItem.operators] at ihr
    rw [TableItem.operators]
    exact List.forall_mem_append.2 ⟨ihl, List.forall_mem_cons.2 ⟨⟨_, hkind⟩, ihr⟩⟩

end Mirrors

mutual

theorem factorPlan_mirrors : ∀ (source : TableFactor) {plan : Plan}, factorPlan c source = .ok plan →
    ∀ s, Mirrors c (Stands c.folding) (.factor source) (plan.tree s)
  | .table name none label, _, h, s => by
    rw [factorPlan] at h
    obtain ⟨place, hplace, h⟩ := bind_eq_ok.1 h
    cases h
    exact .table (.of_placed ⟨name, label, rfl, hplace⟩ ⟨s, rfl⟩)
  | .table name (some _) _, _, h, _ => by
    rw [factorPlan] at h
    cases h
  | .nested item none, _, h, s => by
    rw [factorPlan] at h
    exact .nested (itemPlan_mirrors item h s)
  | .nested _ (some label), _, h, _ => by
    rw [factorPlan] at h
    cases h
  | .derived .., _, h, _ => by
    rw [factorPlan] at h
    cases h
  | .other text label, _, h, _ => by
    rw [factorPlan] at h
    cases h

theorem itemPlan_mirrors : ∀ (item : TableItem) {plan : Plan}, itemPlan c item = .ok plan →
    ∀ s, Mirrors c (Stands c.folding) item (plan.tree s)
  | .factor source, _, h, s => by
    rw [itemPlan] at h
    exact factorPlan_mirrors source h s
  | .join left operator right, _, h, s => by
    rw [itemPlan] at h
    obtain ⟨l, hl, h⟩ := bind_eq_ok.1 h
    obtain ⟨r, hr, h⟩ := bind_eq_ok.1 h
    obtain ⟨kind, hkind, h⟩ := bind_eq_ok.1 h
    cases h
    -- the right side draws its variables from where the left side has left the supply
    exact .join (itemPlan_mirrors left hl s) (factorPlan_mirrors right hr _) (joinKind_eq_ok.1 hkind)

end

/-- Conversely an item with a tree has a plan. -/
theorem Mirrors.exists_plan {item : TableItem} {t : Tree} (h : Mirrors c (Stands c.folding) item t) :
    ∃ plan, itemPlan c item = .ok plan := by
  induction h with
  | table hleaf =>
    obtain ⟨name, label, place, rfl, hplace⟩ := hleaf.exists_placement
    rw [itemPlan, factorPlan]
    exact ⟨.leaf place, bind_eq_ok.2 ⟨place, hplace, rfl⟩⟩
  | nested _ ih =>
    rw [itemPlan, factorPlan]
    exact ih
  | join _ _ hkind ihl ihr =>
    obtain ⟨l, hl⟩ := ihl
    obtain ⟨r, hr⟩ := ihr
    rw [itemPlan] at hr
    rw [itemPlan]
    exact ⟨_, bind_eq_ok.2 ⟨l, hl, bind_eq_ok.2 ⟨r, hr, bind_eq_ok.2 ⟨_, joinKind_eq_ok.2 hkind, rfl⟩⟩⟩⟩

/-! ## Clauses -/

/-- **The tree that belongs to the items of a FROM clause**: the trees of the items, cross joined from left to
right. -/
def MirrorsItems (c : Catalog) (K : JoinOperator → JoinKind SqlCondition → Prop) (items : List TableItem)
    (tree : Tree) : Prop :=
  ∃ first rest, List.Forall₂ (Mirrors c K) items (first :: rest) ∧
    tree = rest.foldl (JoinTree.join .cross) first

namespace MirrorsItems

variable {items : List TableItem} {tree : Tree}

/-- One more item is cross joined to what there is. -/
theorem concat (h : MirrorsItems c K items tree) {item : TableItem} {t : Tree} (ht : Mirrors c K item t) :
    MirrorsItems c K (items ++ [item]) (.join .cross tree t) := by
  obtain ⟨first, rest, hitems, rfl⟩ := h
  refine ⟨first, rest ++ [t], List.rel_append hitems (.cons ht .nil), ?_⟩
  rw [List.foldl_concat]

/-- The leaves of trees that are cross joined are theirs, one after the other. -/
theorem leaves_foldl (first : Tree) (rest : List Tree) :
    (rest.foldl (JoinTree.join .cross) first).leaves = (first :: rest).flatMap JoinTree.leaves := by
  induction rest generalizing first with
  | nil => rw [List.foldl_nil, List.flatMap_singleton]
  | cons t rest ih =>
    rw [List.foldl_cons, ih, List.flatMap_cons, List.flatMap_cons, List.flatMap_cons, JoinTree.leaves,
      List.append_assoc]

/-- **The leaves** belong to the tables of the clause, in the order of the text. -/
theorem leaves (h : MirrorsItems c K items tree) :
    List.Forall₂ (LeafFor c) (items.flatMap TableItem.sources) tree.leaves := by
  obtain ⟨first, rest, hitems, rfl⟩ := h
  rw [leaves_foldl]
  exact List.rel_flatMap hitems fun _ _ hitem => hitem.leaves

/-- No leaf repeats a column name. -/
theorem distinct (h : MirrorsItems c K items tree) : tree.Distinct := by
  intro l hl
  obtain ⟨source, -, hl⟩ := exists_of_mem_forall₂ h.leaves hl
  exact hl.distinct

theorem imp (h : MirrorsItems c K items tree)
    (himp : ∀ op ∈ items.flatMap TableItem.operators, ∀ kind, K op kind → K' op kind) :
    MirrorsItems c K' items tree := by
  obtain ⟨first, rest, hitems, htree⟩ := h
  rw [List.forall_mem_flatMap] at himp
  -- the operators of an item are beside its tree
  have hboth := (List.forall₂_and_left _ _).2 ⟨himp, hitems⟩
  exact ⟨first, rest, hboth.imp fun _ _ hitem => hitem.2.imp hitem.1, htree⟩

/-- Every item of the clause has a tree. -/
theorem exists_mirrors (h : MirrorsItems c K items tree) : ∀ item ∈ items, ∃ t, Mirrors c K item t := by
  obtain ⟨first, rest, hitems, -⟩ := h
  intro item hitem
  obtain ⟨t, -, ht⟩ := exists_of_mem_forall₂ hitems.flip hitem
  exact ⟨t, ht⟩

end MirrorsItems

/-- A plan whose items are cross joined to a first one mirrors them all. -/
theorem foldlM_mirrors {rest done : List TableItem} {first plan : Plan}
    (hfirst : ∀ s, MirrorsItems c (Stands c.folding) done (first.tree s))
    (h : rest.foldlM (fun t item => do return .join .cross t (← itemPlan c item)) first = .ok plan) :
    ∀ s, MirrorsItems c (Stands c.folding) (done ++ rest) (plan.tree s) := by
  -- what has been joined so far mirrors the items that are done
  induction rest generalizing first done with
  | nil =>
    cases h
    rwa [List.append_nil]
  | cons item rest ih =>
    rw [List.foldlM_cons] at h
    obtain ⟨joined, hjoined, h⟩ := bind_eq_ok.1 h
    obtain ⟨t, ht, hjoined⟩ := bind_eq_ok.1 hjoined
    cases hjoined
    have hdone : ∀ s, MirrorsItems c (Stands c.folding) (done ++ [item])
        (Plan.tree (.join .cross first t) s) := fun s => (hfirst s).concat (itemPlan_mirrors item ht _)
    have hrest := ih hdone h
    rwa [List.append_assoc] at hrest

theorem itemsPlan_mirrors {items : List TableItem} {plan : Plan} (h : itemsPlan c items = .ok plan) :
    ∀ s, MirrorsItems c (Stands c.folding) items (plan.tree s) := by
  cases items with
  | nil => cases h
  | cons first rest =>
    obtain ⟨t, ht, h⟩ := bind_eq_ok.1 h
    have hfirst : ∀ s, MirrorsItems c (Stands c.folding) [first] (t.tree s) := fun s =>
      ⟨t.tree s, [], .cons (itemPlan_mirrors first ht s) .nil, rfl⟩
    exact foldlM_mirrors hfirst h

theorem exists_foldlM_eq_ok {rest : List TableItem} (h : ∀ item ∈ rest, ∃ t, itemPlan c item = .ok t)
    (first : Plan) : ∃ plan,
      rest.foldlM (fun t item => do return .join .cross t (← itemPlan c item)) first = .ok plan := by
  induction rest generalizing first with
  | nil => exact ⟨first, rfl⟩
  | cons item rest ih =>
    obtain ⟨⟨t, ht⟩, hrest⟩ := List.forall_mem_cons.1 h
    obtain ⟨plan, hplan⟩ := ih hrest (.join .cross first t)
    rw [List.foldlM_cons]
    exact ⟨plan, bind_eq_ok.2 ⟨_, bind_eq_ok.2 ⟨t, ht, rfl⟩, hplan⟩⟩

/-- Conversely a clause with a tree has a plan. -/
theorem MirrorsItems.exists_plan {items : List TableItem} {tree : Tree}
    (h : MirrorsItems c (Stands c.folding) items tree) : ∃ plan, itemsPlan c items = .ok plan := by
  have hplans : ∀ item ∈ items, ∃ t, itemPlan c item = .ok t := by
    intro item hitem
    obtain ⟨t, ht⟩ := h.exists_mirrors item hitem
    exact ht.exists_plan
  cases items with
  | nil =>
    obtain ⟨first, rest, hitems, -⟩ := h
    cases hitems
  | cons item items =>
    obtain ⟨⟨t, ht⟩, hrest⟩ := List.forall_mem_cons.1 hplans
    obtain ⟨plan, hplan⟩ := exists_foldlM_eq_ok hrest t
    exact ⟨plan, bind_eq_ok.2 ⟨t, ht, hplan⟩⟩

/-! ## Lowering comes to the tree -/

variable {items : List TableItem} {p : Progress}

/-- A clause that lowering accepts has a plan, and what it comes to is the tree of the plan. -/
theorem exists_itemsPlan_of_outcome {tree : Tree} (h : (outcome (itemsTree c items) p).1 = .ok tree) :
    ∃ plan, itemsPlan c items = .ok plan ∧ tree = plan.tree p.supply := by
  have hfollows := itemsTree_follows c items
  cases hplan : itemsPlan c items with
  | error e =>
    obtain ⟨columns, events, houtcome⟩ := hfollows.error hplan p
    rw [houtcome] at h
    cases h
  | ok plan =>
    obtain ⟨events, houtcome⟩ := hfollows.ok hplan p
    rw [houtcome] at h
    cases h
    exact ⟨plan, rfl, rfl⟩

/-- **A clause is accepted when a tree belongs to it**, and only then. -/
theorem exists_itemsTree_eq_ok_iff : (∃ tree, (outcome (itemsTree c items) p).1 = .ok tree) ↔
    ∃ tree, MirrorsItems c (Stands c.folding) items tree := by
  constructor
  · rintro ⟨tree, h⟩
    obtain ⟨plan, hplan, rfl⟩ := exists_itemsPlan_of_outcome h
    exact ⟨_, itemsPlan_mirrors hplan p.supply⟩
  · rintro ⟨tree, h⟩
    obtain ⟨plan, hplan⟩ := h.exists_plan
    obtain ⟨events, houtcome⟩ := (itemsTree_follows c items).ok hplan p
    exact ⟨plan.tree p.supply, congrArg Prod.fst houtcome⟩

/-- What is not accepted is refused with an error. -/
theorem exists_error_of_not_mirrors (h : ¬∃ tree, MirrorsItems c (Stands c.folding) items tree) :
    ∃ error, (outcome (itemsTree c items) p).1 = .error error := by
  cases houtcome : (outcome (itemsTree c items) p).1 with
  | error error => exact ⟨error, rfl⟩
  | ok tree => exact absurd (exists_itemsTree_eq_ok_iff.1 ⟨tree, houtcome⟩) h

/-- The operators of a statement are those of the SELECT that it is. -/
theorem operators_eq_of_plainSelect {s : Statement} {query : Select} (h : plainSelect s = .ok query) :
    s.operators = query.items.flatMap TableItem.operators := by
  match s with
  | .query ⟨_, .select _, _⟩ =>
    cases h
    rfl
  | .query ⟨_, .other, _⟩ => cases h
  | .command _ => cases h

/-- **What a text comes to has every constraint of it**, since no text puts one on a CROSS JOIN. -/
theorem itemsTree_carries {d : Dialect} {text : String} {s : Statement} {query : Select} {tree : Tree}
    (hparse : d.parseSingle text = .ok s) (hquery : plainSelect s = .ok query)
    (h : (outcome (itemsTree c query.items) p).1 = .ok tree) :
    MirrorsItems c (fun op => Carries c.folding op.constraint) query.items tree := by
  obtain ⟨plan, hplan, rfl⟩ := exists_itemsPlan_of_outcome h
  have hlawful : AllLawful (query.items.flatMap TableItem.operators) :=
    operators_eq_of_plainSelect hquery ▸ d.lawful_of_parseSingle hparse
  exact (itemsPlan_mirrors hplan p.supply).imp fun op hop _ hkind => hkind.carries (hlawful op hop)

/-- **Lowering a clause loses nothing of it but constraints on CROSS JOINs.** A clause is accepted exactly when some
tree belongs to it. What it comes to then is such a tree: its leaves are those of the tables of the clause, one each and
in the order of the text, and its joins stand where the clause has them. An inner join is of the kind that its
constraint asks for, a CROSS JOIN is a cross join whatever its constraint, and so a join is a cross join only where
there is no constraint or the operator is CROSS JOIN. No text puts a constraint on one. A clause with an outer join, or
with a source that denotes neither a leaf nor a tree, at any depth of brackets, is refused. -/
theorem itemsTree_mirrors (c : Catalog) (items : List TableItem) (p : Progress) :
    ((∃ tree, (outcome (itemsTree c items) p).1 = .ok tree) ↔
      ∃ tree, MirrorsItems c (Stands c.folding) items tree) ∧
    (∀ tree, (outcome (itemsTree c items) p).1 = .ok tree →
      MirrorsItems c (fun op kind => Stands c.folding op kind ∧
        (kind = .cross → op.constraint = .none ∨ op.family = .cross)) items tree ∧
      List.Forall₂ (LeafFor c) (items.flatMap TableItem.sources) tree.leaves) ∧
    (∀ (d : Dialect) (text : String) (s : Statement), d.parseSingle text = .ok s → AllLawful s.operators) ∧
    ((∃ op ∈ items.flatMap TableItem.operators, op.family = .outer) ∨
        (∃ source ∈ items.flatMap TableItem.parts, source.Refused) →
      ∃ error, (outcome (itemsTree c items) p).1 = .error error) := by
  refine ⟨exists_itemsTree_eq_ok_iff, fun tree h => ?_, fun d text s h => d.lawful_of_parseSingle h,
    fun h => exists_error_of_not_mirrors ?_⟩
  · obtain ⟨plan, hplan, rfl⟩ := exists_itemsPlan_of_outcome h
    have hmirrors := itemsPlan_mirrors hplan p.supply
    refine ⟨hmirrors.imp fun op _ kind hkind => ⟨hkind, ?_⟩, hmirrors.leaves⟩
    rintro rfl
    exact hkind.eq_none_or_cross
  · -- a tree would have a kind for every operator and a leaf or a tree for every source
    rintro ⟨tree, hmirrors⟩
    rcases h with ⟨op, hop, houter⟩ | ⟨source, hsource, hrefused⟩
    · obtain ⟨item, hitem, hop⟩ := List.mem_flatMap.1 hop
      obtain ⟨t, ht⟩ := hmirrors.exists_mirrors item hitem
      obtain ⟨kind, hkind⟩ := ht.exists_kind op hop
      cases hkind with
      | inner hinner => rw [houter] at hinner; cases hinner
      | cross hcross => rw [houter] at hcross; cases hcross
    · obtain ⟨item, hitem, hsource⟩ := List.mem_flatMap.1 hsource
      obtain ⟨t, ht⟩ := hmirrors.exists_mirrors item hitem
      exact ht.not_refused source hsource hrefused

end Lowering

namespace Sample

open Lowering

/-- The staff under an alias. -/
def staffAs (label : String) : TableFactor :=
  .table [.name ⟨"staff", none⟩] none (some ⟨true, ⟨label, none⟩, []⟩)

/-- `staff AS a NATURAL JOIN (staff AS b … staff AS c), staff AS d` for some join in the brackets. -/
def joinedStaff (op : JoinOperator) : List TableItem :=
  [.join (.factor (staffAs "a")) ⟨.inner, "JOIN", .natural⟩
    (.nested (.join (.factor (staffAs "b")) op (staffAs "c")) none), .factor (staffAs "d")]

/-- With a cross join in the brackets the clause has its tree; with an outer join there it is refused. -/
theorem itemsTree_mirrors_joinedStaff :
    (∃ tree, (outcome (itemsTree staffCatalog (joinedStaff ⟨.cross, "CROSS JOIN", .none⟩)) .start).1 = .ok tree ∧
      MirrorsItems staffCatalog (fun op kind => Stands .upper op kind ∧
        (kind = .cross → op.constraint = .none ∨ op.family = .cross))
        (joinedStaff ⟨.cross, "CROSS JOIN", .none⟩) tree) ∧
    ∃ error, (outcome (itemsTree staffCatalog (joinedStaff ⟨.outer, "FULL JOIN", .natural⟩)) .start).1 =
      .error error := by
  constructor
  · obtain ⟨-, haccepted, -⟩ :=
      itemsTree_mirrors staffCatalog (joinedStaff ⟨.cross, "CROSS JOIN", .none⟩) .start
    obtain ⟨tree, htree⟩ := isOk_iff.1 (by decide +kernel :
      (outcome (itemsTree staffCatalog (joinedStaff ⟨.cross, "CROSS JOIN", .none⟩)) .start).1.isOk = true)
    exact ⟨tree, htree, (haccepted tree htree).1⟩
  · obtain ⟨-, -, -, hrefused⟩ :=
      itemsTree_mirrors staffCatalog (joinedStaff ⟨.outer, "FULL JOIN", .natural⟩) .start
    refine hrefused (.inl ⟨⟨.outer, "FULL JOIN", .natural⟩, ?_, rfl⟩)
    simp [joinedStaff, staffAs, TableItem.operators, TableFactor.operators]

/-- `staff AS a CROSS JOIN staff AS b ON FALSE`, which no text gives. -/
def staffCrossed : List TableItem :=
  [.join (.factor (staffAs "a")) ⟨.cross, "CROSS JOIN", .on (.literal (.boolean false))⟩ (staffAs "b")]

/-- A condition on a CROSS JOIN is lost: the clause is accepted, and its join is not what the condition asks for. -/
theorem staffCrossed_not_carried : ∃ tree, (outcome (itemsTree staffCatalog staffCrossed) .start).1 = .ok tree ∧
    ¬MirrorsItems staffCatalog (fun op kind => Carries .upper op.constraint kind ∧
      (kind = .cross → op.constraint = .none)) staffCrossed tree := by
  obtain ⟨tree, htree⟩ := isOk_iff.1
    (by decide +kernel : (outcome (itemsTree staffCatalog staffCrossed) .start).1.isOk = true)
  refine ⟨tree, htree, fun hcarried => ?_⟩
  obtain ⟨plan, hplan, rfl⟩ := exists_itemsPlan_of_outcome htree
  obtain ⟨first, rest, hitems, heq⟩ := itemsPlan_mirrors hplan Progress.start.supply
  obtain ⟨first', rest', hitems', heq'⟩ := hcarried
  -- the only item has a tree in both ways, and it is one tree
  obtain ⟨hitem, hnil⟩ := List.forall₂_cons.1 hitems
  obtain ⟨hitem', hnil'⟩ := List.forall₂_cons.1 hitems'
  cases hnil
  cases hnil'
  obtain rfl : first = first' := heq.symm.trans heq'
  cases hitem with
  | join _ _ hkind =>
    cases hitem' with
    | join _ _ hkind' =>
      cases hkind with
      | inner hinner _ => cases hinner
      | cross _ => cases hkind'.1

end Sample

end FromClause
