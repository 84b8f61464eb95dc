import FromClause.Proofs.Catalog.Lookup
import FromClause.Proofs.Lowering.Session
/-!
# Catalogs that grow

Lowering asks a catalog for its folding and for what the tables of a FROM clause stand for, and for nothing
else. So two catalogs that agree on these (`Agree`) lower a statement alike, whatever else they hold: the two
computations are one (`statement_congr`), with the same result, the same variables and the same events.

A relation that is added to a catalog is an answer to references to its own table name only. A statement that
does not mention this name comes to what it came to before (`outcome_statement_add`).
-/

namespace FromClause

open Sql

namespace Lowering

variable {c c' : Catalog}

/-! ## Catalogs that agree -/

/-- **Two catalogs agree on some sources**: they normalise names alike, and every table among the sources stands
for the same thing in both. -/
structure Agree (c c' : Catalog) (sources : List TableFactor) : Prop where
  /-- Names are normalised alike. -/
  folding : c'.folding = c.folding
  /-- Tables are looked up alike. -/
  lookup {name : ObjectName} {arguments : Option String} {label : Option TableAlias} {reference : RelationId} :
    .table name arguments label ∈ sources → relationId c.folding name = .ok reference →
      c'.lookup reference = c.lookup reference

namespace Agree

variable {sources more : List TableFactor}

theorem mono (h : Agree c c' sources) (hsub : more ⊆ sources) : Agree c c' more where
  folding := h.folding
  lookup hmem hreference := h.lookup (hsub hmem) hreference

/-- Who agrees on two lists agrees on either. -/
theorem of_append (h : Agree c c' (sources ++ more)) : Agree c c' sources ∧ Agree c c' more :=
  ⟨h.mono (List.subset_append_left _ _), h.mono (List.subset_append_right _ _)⟩

end Agree

/-! ## Lowering alike -/

section Steps

variable {α β : Type}

/-- A value that is there is handed on. -/
theorem lift_ok_bind (a : α) (f : α → Lowering β) :
    ((liftM (Except.ok a : Except LoweringError α) : Lowering α) >>= f) = f a := rfl

/-- An error that is there is the error of the whole. -/
theorem lift_error_bind (e : LoweringError) (f : α → Lowering β) :
    ((liftM (Except.error e : Except LoweringError α) : Lowering α) >>= f) = throw e := rfl

end Steps

/-- A table is lowered alike when it is looked up alike. -/
theorem leaf_congr {name : ObjectName} {label : Option TableAlias}
    (h : Agree c c' [.table name none label]) : leaf c' name label = leaf c name label := by
  rw [leaf, leaf, h.folding]
  cases hreference : relationId c.folding name with
  | error e => rw [lift_error_bind, lift_error_bind]
  | ok reference =>
    rw [lift_ok_bind, lift_ok_bind, h.lookup (List.mem_singleton_self _) hreference]

mutual

theorem factorTree_congr : ∀ source : TableFactor, Agree c c' source.sources →
    factorTree c' source = factorTree c source
  | .table name none label, h => by
    rw [TableFactor.sources] at h
    rw [factorTree, factorTree, leaf_congr h]
  | .table name (some _) _, _ => by rw [factorTree, factorTree]
  | .nested item none, h => by
    rw [TableFactor.sources] at h
    rw [factorTree, factorTree]
    exact itemTree_congr item h
  | .nested _ (some label), _ => by rw [factorTree, factorTree]
  | .derived .., _ => by rw [factorTree, factorTree]
  | .other .., _ => by rw [factorTree, factorTree]

theorem itemTree_congr : ∀ item : TableItem, Agree c c' item.sources → itemTree c' item = itemTree c item
  | .factor source, h => by
    rw [TableItem.sources] at h
    rw [itemTree, itemTree]
    exact factorTree_congr source h
  | .join left operator right, h => by
    rw [TableItem.sources] at h
    obtain ⟨hleft, hright⟩ := h.of_append
    -- the kind of the join reads names, and these are normalised alike
    rw [itemTree, itemTree, itemTree_congr left hleft, factorTree_congr right hright, h.folding]

end

/-- Items that are cross joined to a tree are lowered alike. -/
theorem foldlM_congr {rest : List TableItem} (h : Agree c c' (rest.flatMap TableItem.sources)) (tree : Tree) :
    rest.foldlM (fun tree item => do return .join .cross tree (← itemTree c' item)) tree =
      rest.foldlM (fun tree item => do return .join .cross tree (← itemTree c item)) tree := by
  induction rest generalizing tree with
  | nil => rw [List.foldlM_nil, List.foldlM_nil]
  | cons item rest ih =>
    obtain ⟨hitem, hrest⟩ := h.of_append
    rw [List.foldlM_cons, List.foldlM_cons, itemTree_congr item hitem]
    exact bind_congr fun joined => ih hrest joined

/-- **The items of a FROM clause are lowered alike** by catalogs that agree on their sources. -/
theorem itemsTree_congr {items : List TableItem} (h : Agree c c' (items.flatMap TableItem.sources)) :
    itemsTree c' items = itemsTree c items := by
  cases items with
  | nil => rw [itemsTree, itemsTree]
  | cons first rest =>
    obtain ⟨hfirst, hrest⟩ := h.of_append
    rw [itemsTree, itemsTree, itemTree_congr first hfirst]
    exact bind_congr fun tree => foldlM_congr hrest tree

/-- **So is a whole statement.** -/
theorem statement_congr {s : Statement} (h : Agree c c' s.sources) : statement c' s = statement c s := by
  rw [statement, statement]
  cases hquery : plainSelect s with
  | error e => rw [lift_error_bind, lift_error_bind]
  | ok query =>
    rw [sources_eq_of_plainSelect hquery] at h
    rw [lift_ok_bind, lift_ok_bind, select, select, itemsTree_congr h]

/-! ## One relation more -/

/-- The table name that a source refers to, without its schema. -/
def tableName? (folding : Folding) (source : TableFactor) : Option Identifier :=
  (reference? folding source).map RelationId.table

/-- **A statement mentions a table name**: some source of its FROM clause, at any depth of brackets, refers to it
once names are normalised, in whatever schema. -/
def Mentions (folding : Folding) (s : Statement) (table : Identifier) : Prop :=
  ∃ source ∈ s.sources, tableName? folding source = some table

instance (folding : Folding) (s : Statement) (table : Identifier) : Decidable (Mentions folding s table) :=
  inferInstanceAs (Decidable (∃ source ∈ s.sources, tableName? folding source = some table))

/-- A catalog and the one with a relation more agree on the sources of a statement that does not mention it. -/
theorem agree_add {d : Definition} {s : Statement} (h : c.add d = .ok c')
    (hs : ¬Mentions c.folding s d.id.table) : Agree c c' s.sources where
  folding := (Catalog.relations_of_add h).2.2
  lookup hmem hreference := by
    refine Catalog.lookup_add h fun htable => hs ⟨_, hmem, ?_⟩
    rw [tableName?, reference?, hreference]
    exact congrArg some htable

/-- **A new relation does not disturb statements that do not mention it.** Whatever the supply of variables is, such
a statement comes to the same over the catalog and over the one with the relation more: the same source with
the same variables, or the same error. It leaves the same supply behind and tells the same events. -/
theorem outcome_statement_add {d : Definition} {s : Statement} (h : c.add d = .ok c')
    (hs : ¬Mentions c.folding s d.id.table) (p : Progress) :
    outcome (statement c' s) p = outcome (statement c s) p := by
  rw [statement_congr (agree_add h hs)]

end Lowering

/-! ## A table found without its schema -/

namespace Sample

open Lowering

/-- A relation of the schema `LAW` without columns. -/
def lawRelation (table : Identifier) : Definition := ⟨⟨some ⟨"LAW", by decide⟩, table⟩, [], .nil⟩

/-- With `LAW.GRADE` in the catalog the bare name `staff` still finds `HR.STAFF`. -/
theorem outcome_statement_add_grade : ∃ c', officeCatalog.add (lawRelation grade.exposed.table) = .ok c' ∧
    ¬Mentions .upper (fromTables ["staff"]) grade.exposed.table ∧
    outcome (statement c' (fromTables ["staff"])) .start =
      outcome (statement officeCatalog (fromTables ["staff"])) .start := by
  obtain ⟨c', hc'⟩ := isOk_iff.1
    (by decide +kernel : (officeCatalog.add (lawRelation grade.exposed.table)).isOk = true)
  have hs : ¬Mentions .upper (fromTables ["staff"]) grade.exposed.table := by decide +kernel
  exact ⟨c', hc', hs, outcome_statement_add hc' hs .start⟩

/-- With `LAW.STAFF` it does not, because two relations have the name. -/
example :
    let bare (c : Catalog) := (outcome (statement c (fromTables ["staff"])) .start).1.isOk
    bare officeCatalog = true ∧
      (officeCatalog.add (lawRelation staff.relation.table)).toOption.map bare = some false := by
  decide +kernel

end Sample

end FromClause
