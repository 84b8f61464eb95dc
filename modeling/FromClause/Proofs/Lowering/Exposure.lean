import FromClause.Proofs.Lowering.Shape
import FromClause.Proofs.Relation.Acceptance
/-!
# Tables told apart by their names

The tables of a FROM clause are to be told apart by the names that they are exposed under: the alias of each, or
else the table name of its relation. Joins look for relations that qualify columns on both sides, and seen from
the tables this is the same thing, as far as they have columns (`relationsDisjoint_iff`). So a clause with two
tables of one name is refused, and a clause whose tables have different names is never refused for a relation
that is shared (`select_exposed_names`).

A table without columns qualifies nothing and escapes the check: such tables may have one name
(`columnless_twice`).
-/

namespace FromClause

open Sql

/-! ## Errors about shared relations -/

/-- An error does not complain about a relation on both sides of a join. -/
def JoinError.NotShared : JoinError → Prop
  | .sharedRelation _ => False
  | _ => True

section Conditions

variable {folding : Folding} {source : Expression}

theorem columnReference_notShared (names : List Name) :
    FailsOnly JoinError.NotShared (columnReference folding names) := by
  have name : ∀ n, FailsOnly JoinError.NotShared (conditionName folding n) := fun n =>
    .mapError (fun _ => trivial) _
  rw [columnReference.eq_def]
  split
  · exact (name _).bind fun column _ => .ok _
  · exact (name _).bind fun table _ => (name _).bind fun column _ => .ok _
  · exact (name _).bind fun schema _ => (name _).bind fun table _ => (name _).bind fun column _ => .ok _
  · exact .error trivial

theorem resolve_notShared (r : Reference) : FailsOnly JoinError.NotShared (source.resolve r) := by
  rw [Expression.resolve]
  split
  · exact .ok _
  · split
    · exact .error trivial
    · exact .error trivial

theorem conditionTerm_notShared (e : Expr) :
    FailsOnly JoinError.NotShared (conditionTerm folding source e) := by
  fun_induction conditionTerm folding source e with
  | case1 inner ih => exact ih
  | case2 names =>
    exact (columnReference_notShared names).bind fun r _ => (resolve_notShared r).bind fun v _ => .ok _
  | case3 value c hc => exact .ok _
  | case4 value hc => exact .error trivial
  | case5 digits long => exact .ok _
  | case6 => exact .error trivial

/-- **A condition never fails for a shared relation.** -/
theorem conditionAtoms_notShared (place : Place) (e : Expr) :
    FailsOnly JoinError.NotShared (conditionAtoms folding source place e) := by
  have term : ∀ e, FailsOnly JoinError.NotShared (conditionTerm folding source e) := conditionTerm_notShared
  fun_induction conditionAtoms folding source place e with
  | case1 place inner ih => exact ih
  | case2 place left right ihl ihr | case3 place left right ihl ihr =>
    exact ihl.bind fun l _ => ihr.bind fun r _ => .ok _
  | case4 place op left right => exact (term left).bind fun l _ => (term right).bind fun r _ => .ok _
  | case5 place inner ih => exact ih.bind fun atoms _ => .ok _
  | case6 place negated operand => exact (term operand).bind fun t _ => .ok _
  | case7 place negated operand low high =>
    exact (term operand).bind fun t _ => (term low).bind fun l _ => (term high).bind fun u _ => .ok _
  | case8 place negated operand => exact .ok _
  | case9 place negated operand item items =>
    exact (term operand).bind fun t _ => (FailsOnly.mapM term _).bind fun values _ => .ok _
  | case10 place value => exact .ok _
  | case11 => exact .error trivial

end Conditions

/-- **Sources that share no relation** are not joined in vain for a shared one. -/
theorem Expression.join_notShared {x y : Expression} (hs : shared? x y = none)
    (kind : JoinKind SqlCondition) : FailsOnly JoinError.NotShared (x.join y kind) := by
  have cross : FailsOnly JoinError.NotShared (crossJoin x y) := by
    rw [crossJoin, hs]
    exact .ok _
  have merging : ∀ columns, FailsOnly JoinError.NotShared (joinUsing x y columns) := by
    intro columns
    rw [joinUsing, hs]
    dsimp only
    split
    · exact .error trivial
    · split
      · exact .error trivial
      · refine .bind (.mapM (fun c => ?_) _) fun pairs _ => .ok _
        rw [bareVariables?]
        split
        · exact .ok _
        · exact .error trivial
  cases kind with
  | cross => exact cross
  | on condition => exact cross.bind fun joined _ => (conditionAtoms_notShared _ _).bind fun atoms _ => .ok _
  | «using» columns => exact merging columns
  | natural => exact merging _

namespace JoinTree

variable {t : JoinTree Leaf SqlCondition}

/-- **A tree whose leaves share no relation** does not fail for a shared one. -/
theorem source_notShared (h : t.RelationsDisjoint) : FailsOnly JoinError.NotShared t.source := by
  induction t with
  | leaf l => exact .ok _
  | join kind left right ihl ihr =>
    obtain ⟨hl, hr, hcross⟩ := relationsDisjoint_join.1 h
    refine (ihl hl).bind fun x hx => (ihr hr).bind fun y hy => Expression.join_notShared ?_ kind
    exact (shared?_source_eq_none hx hy).2 hcross

end JoinTree

/-! ## Names of tables -/

theorem Leaf.AnswersTo.table_eq {l : Leaf} {R : RelationId} (h : l.AnswersTo R) : l.exposed.table = R.table := by
  rcases h.eq_exposed_or with h | ⟨-, -, h⟩
  · rw [h]
  · exact h

namespace Lowering

variable {c : Catalog}

/-- The relation of the catalog that a source of a FROM clause stands for. -/
def definition? (c : Catalog) : TableFactor → Option Definition
  | .table name _ _ => (relationId c.folding name).toOption.bind c.get?
  | .nested .. | .derived .. | .other .. => none

/-- The name that a source is exposed under: its alias, or the table name of its relation. -/
def exposedName? (c : Catalog) : TableFactor → Option Identifier
  | .table _ _ (some a) => (identifier c.folding a.name).toOption
  | .table name arguments none => (definition? c (.table name arguments none)).map (·.id.table)
  | .nested .. | .derived .. | .other .. => none

/-- Whether the relation of a source has columns. -/
def hasColumns (c : Catalog) (source : TableFactor) : Bool :=
  (definition? c source).any fun d => !d.columns.isEmpty

namespace LeafFor

variable {source : TableFactor} {l : Leaf}

theorem definition?_eq {name : ObjectName} {arguments : Option String} {label : Option TableAlias}
    {reference : RelationId} {d : Definition} (hreference : relationId c.folding name = .ok reference)
    (hd : c.get? reference = some d) : definition? c (.table name arguments label) = some d := by
  rw [definition?, hreference]
  exact hd

/-- The relation that a table refers to is the one that it stands for. -/
theorem definition?_of_refers {name : ObjectName} {arguments : Option String} {label label' : Option TableAlias}
    {d : Definition} (h : Refers c name label d) : definition? c (.table name arguments label') = some d := by
  obtain ⟨reference, hspells, hd⟩ := h.found
  exact definition?_eq (relationId_eq_ok.2 hspells) hd

/-- The leaf of a table is exposed under the name of the table. -/
theorem exposedName?_eq (h : LeafFor c source l) : exposedName? c source = some l.exposed.table := by
  cases h with
  | catalog hrefers _ _ =>
    rw [exposedName?, definition?_of_refers hrefers]
    rfl
  | aliased _ hlabel _ _ _ =>
    rw [exposedName?, identifier_eq_ok.2 hlabel]
    rfl

/-- It answers to this name, whether its relation has a schema or not. -/
theorem answersTo (h : LeafFor c source l) : l.AnswersTo (.bare l.exposed.table) := by
  cases h with
  | @catalog name d bound _ _ _ =>
    obtain ⟨_ | schema, table⟩ := d.id
    · exact .inl rfl
    · exact .inr ⟨rfl, rfl⟩
  | aliased _ _ _ _ _ => exact rfl

/-- It has as many columns as the relation of the table. -/
theorem exists_length_eq (h : LeafFor c source l) :
    ∃ d, definition? c source = some d ∧ l.columns.length = d.columns.length := by
  cases h with
  | @catalog name d bound hrefers hnames _ =>
    have hlength := congrArg List.length hnames
    rw [List.length_map, List.length_map] at hlength
    exact ⟨d, definition?_of_refers hrefers, hlength⟩
  | @aliased name d a exposed bound hrefers _ hfew htexts _ =>
    have hlength := congrArg List.length htexts
    rw [Folding.length_effectiveNames hfew, List.length_map, List.length_map] at hlength
    exact ⟨d, definition?_of_refers hrefers, hlength⟩

theorem hasColumns_iff (h : LeafFor c source l) : hasColumns c source = true ↔ l.columns ≠ [] := by
  obtain ⟨d, hd, hlength⟩ := h.exists_length_eq
  rw [hasColumns, hd, Option.any_some, Bool.not_eq_true', List.isEmpty_eq_false_iff,
    ← List.length_pos_iff, ← List.length_pos_iff, hlength]

end LeafFor

/-- **Two tables share a relation** when both have columns and they are exposed under one name, and only
then. -/
theorem shares_iff {source source' : TableFactor} {l l' : Leaf} (h : LeafFor c source l)
    (h' : LeafFor c source' l') :
    (hasColumns c source = true → hasColumns c source' = true →
      exposedName? c source ≠ exposedName? c source') ↔
    ∀ R ∈ l.expression.relations.toList, R ∉ l'.expression.relations.toList := by
  rw [h.hasColumns_iff, h'.hasColumns_iff, h.exposedName?_eq, h'.exposedName?_eq]
  simp only [Leaf.mem_relations h.distinct, Leaf.mem_relations h'.distinct, ne_eq, Option.some_inj]
  constructor
  · rintro hne R ⟨hR, hcolumns⟩ ⟨hR', hcolumns'⟩
    exact hne hcolumns hcolumns' (hR.table_eq.trans hR'.table_eq.symm)
  · intro hapart hcolumns hcolumns' heq
    -- both answer to the name that they have in common
    have hR' := h'.answersTo
    rw [← heq] at hR'
    exact hapart _ ⟨h.answersTo, hcolumns⟩ ⟨hR', hcolumns'⟩

/-- The names of the sources that have columns. -/
def columnedNames (c : Catalog) (sources : List TableFactor) : List (Option Identifier) :=
  (sources.filter (hasColumns c)).map (exposedName? c)

/-- **The leaves of a clause share no relation** when its tables with columns have different names, and only
then. -/
theorem relationsDisjoint_iff {sources : List TableFactor} {tree : Tree}
    (h : List.Forall₂ (LeafFor c) sources tree.leaves) :
    (columnedNames c sources).Nodup ↔ tree.RelationsDisjoint := by
  rw [columnedNames, List.Nodup, List.pairwise_map, List.pairwise_filter]
  exact pairwise_iff_of_forall₂ h fun _ _ _ _ hl hl' => shares_iff hl hl'

/-! ## Clauses -/

variable {s : Select} {p : Progress} {tree : Tree}

/-- What a SELECT comes to is the source of the tree of its items. -/
theorem outcome_select_of_itemsTree (h : (outcome (itemsTree c s.items) p).1 = .ok tree) :
    (outcome (select c s) p).1 = tree.source.mapError .join := by
  obtain ⟨plan, hplan, rfl⟩ := exists_itemsPlan_of_outcome h
  obtain ⟨columns, events, houtcome, -⟩ := outcome_select c s p
  rw [houtcome, hplan]
  rfl

/-- **Tables of one name are refused, and only they are refused for a shared relation.** Take a FROM clause that
has a tree; all of its sources have names then. If two sources with columns have one name, the clause comes to
no source. If all those have different names, as they do when all names are different, it never fails for a
relation that is shared. -/
theorem select_exposed_names (h : (outcome (itemsTree c s.items) p).1 = .ok tree) :
    (∀ source ∈ s.items.flatMap TableItem.sources, ∃ name, exposedName? c source = some name) ∧
    (¬(columnedNames c (s.items.flatMap TableItem.sources)).Nodup →
      ∃ error, (outcome (select c s) p).1 = .error error) ∧
    ((columnedNames c (s.items.flatMap TableItem.sources)).Nodup →
      ∀ R, (outcome (select c s) p).1 ≠ .error (.join (.sharedRelation R))) ∧
    (((s.items.flatMap TableItem.sources).map (exposedName? c)).Nodup →
      ∀ R, (outcome (select c s) p).1 ≠ .error (.join (.sharedRelation R))) := by
  obtain ⟨plan, hplan, htree⟩ := exists_itemsPlan_of_outcome h
  have hmirrors : MirrorsItems c (Stands c.folding) s.items tree := htree ▸ itemsPlan_mirrors hplan p.supply
  have hleaves := hmirrors.leaves
  have hdistinct := hmirrors.distinct
  have hdifferent : (columnedNames c (s.items.flatMap TableItem.sources)).Nodup →
      ∀ R, (outcome (select c s) p).1 ≠ .error (.join (.sharedRelation R)) := by
    intro hnodup R heq
    rw [outcome_select_of_itemsTree h] at heq
    cases hsource : tree.source with
    | ok e =>
      rw [hsource] at heq
      cases heq
    | error error =>
      rw [hsource] at heq
      cases heq
      exact JoinTree.source_notShared ((relationsDisjoint_iff hleaves).1 hnodup) _ hsource
  refine ⟨fun source hsource => ?_, fun hsame => ?_, hdifferent, fun hnodup => hdifferent ?_⟩
  · obtain ⟨l, -, hl⟩ := exists_of_mem_forall₂ hleaves.flip hsource
    exact ⟨_, hl.exposedName?_eq⟩
  · rw [outcome_select_of_itemsTree h]
    cases hsource : tree.source with
    | error error => exact ⟨_, rfl⟩
    | ok e =>
      -- a tree with a source has leaves that share no relation
      obtain ⟨hdisjoint, -⟩ := (JoinTree.exists_source_iff hdistinct).1 ⟨e, hsource⟩
      exact absurd ((relationsDisjoint_iff hleaves).2 hdisjoint) hsame
  · exact hnodup.sublist (List.filter_sublist.map _)

end Lowering

/-! ## Tables without columns -/

namespace Sample

open Lowering

/-- A catalog with one relation, `STAFF(ID, NAME)`, and another one without columns. -/
def sparseCatalog : Catalog :=
  ((Catalog.empty .upper).declare
    [⟨none, "staff", [⟨"id", none, false⟩, ⟨"name", none, true⟩]⟩, ⟨none, "nocols", []⟩]).catalog

/-- The items of a clause over some tables, separated by commas. -/
def tables (names : List String) : List TableItem :=
  names.map fun n => .factor (.table [.name ⟨n, none⟩] none none)

/-- The staff twice is refused; once, beside the table without columns, it is not refused for a shared
relation. -/
theorem select_exposed_names_staff :
    (∃ error, (outcome (select sparseCatalog ⟨tables ["staff", "nocols", "STAFF"]⟩) .start).1 = .error error) ∧
    ∀ R, (outcome (select sparseCatalog ⟨tables ["staff", "nocols"]⟩) .start).1 ≠
      .error (.join (.sharedRelation R)) := by
  constructor
  · obtain ⟨tree, htree⟩ := isOk_iff.1 (by decide +kernel :
      (outcome (itemsTree sparseCatalog (tables ["staff", "nocols", "STAFF"])) .start).1.isOk = true)
    obtain ⟨-, hsame, -⟩ := select_exposed_names (s := ⟨tables ["staff", "nocols", "STAFF"]⟩) htree
    exact hsame (by decide +kernel)
  · obtain ⟨tree, htree⟩ := isOk_iff.1 (by decide +kernel :
      (outcome (itemsTree sparseCatalog (tables ["staff", "nocols"])) .start).1.isOk = true)
    obtain ⟨-, -, -, hdifferent⟩ := select_exposed_names (s := ⟨tables ["staff", "nocols"]⟩) htree
    exact hdifferent (by decide +kernel)

/-- **Two tables without columns may have one name.** A clause over the same one twice has a tree and comes to a
source. -/
theorem columnless_twice :
    (outcome (itemsTree sparseCatalog (tables ["nocols", "nocols"])) .start).1.isOk = true ∧
    ¬(((tables ["nocols", "nocols"]).flatMap TableItem.sources).map (exposedName? sparseCatalog)).Nodup ∧
    (outcome (select sparseCatalog ⟨tables ["nocols", "nocols"]⟩) .start).1.isOk = true := by
  decide +kernel

end Sample

end FromClause
