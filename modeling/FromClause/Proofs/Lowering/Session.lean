import FromClause.Proofs.Lowering.Placement
/-!
# Sessions

Statements that are lowered one after another share a supply of variables. What each of them comes to is a safe
query (`Safe`): every source of the FROM clause is one data atom over its relation, and every variable of the
query stands at exactly one place of one data atom.

The names that the supply has given away are what carries this from one statement to the next. A statement has
only variables whose names were not given away before it and are so after it, and it takes back none, whether
it succeeds or fails half-way. So two statements of a session have no variable in common.
-/

namespace FromClause

open Sql

namespace Lowering

variable {c : Catalog} {s : Statement} {plan : Plan} {e : Expression} {p : Progress} {v : Variable}

/-! ## Safe queries -/

/-- An atom applies the relation that a source refers to, to one argument for each declared column. -/
def Applies (c : Catalog) (source : TableFactor) (a : Predicate × List Term) : Prop :=
  ∃ name label reference d, source = .table name none label ∧
    relationId c.folding name = .ok reference ∧ c.get? reference = some d ∧
    a.1.name = d.id.text ∧ a.1.arity = a.2.length ∧ a.2.length = d.arity

/-- **A safe query** over some sources. -/
structure Safe (c : Catalog) (sources : List TableFactor) (e : Expression) : Prop where
  /-- There is one data atom for each source, in their order. -/
  applies : List.Forall₂ (Applies c) sources e.dataAtoms
  /-- No relation is applied below a connective. -/
  plain : ∀ a ∈ e.atoms, a.applications = a.data?.toList
  /-- Every variable is the argument at one position of one data atom. -/
  once : ∀ v ∈ e.vars, (e.dataAtoms.flatMap (·.2)).count (.var v) = 1

/-- A leaf stands for a source: it has the relation that the source refers to, and its columns. -/
structure StandsFor (c : Catalog) (source : TableFactor) (l : Leaf) : Prop where
  /-- Its data atom applies the relation. -/
  applies : Applies c source (.ofRelation l.relation l.columns.length, l.vars.map .var)
  /-- No column name repeats. -/
  distinct : l.Distinct

/-- A leaf that binds the columns of a place stands for the source that is placed there. -/
theorem standsFor_of_placed {source : TableFactor} {place : Placement} {l : Leaf}
    (h : Placed c source place) (hl : Plan.Binds place l) : StandsFor c source l := by
  obtain ⟨name, label, rfl, hplace⟩ := h
  obtain ⟨reference, d, hreference, hd, hrelation, hexposure, hnodup⟩ := placement_eq_ok.1 hplace
  have harity : place.columns.length = d.arity := length_of_exposure hexposure
  have hnames : l.names = place.columns := hl.names
  have hlength : l.columns.length = d.arity := by rw [← harity, ← hnames, Leaf.names, List.length_map]
  have hvars : (l.vars.map Term.var).length = l.columns.length := by
    rw [List.length_map, Leaf.vars, List.length_map]
  have hid : l.relation = d.id := by
    obtain ⟨s, rfl⟩ := hl
    rw [Placement.leaf_relation, hrelation]
  exact {
    applies := ⟨name, label, reference, d, rfl, hreference, hd, congrArg RelationId.text hid, hvars.symm,
      hvars.trans hlength⟩
    distinct := by rwa [Leaf.Distinct, hnames] }

/-- The leaves of the tree of a statement stand for its sources. -/
theorem standFor_leaves (h : statementPlan c s = .ok plan) (supply : Supply) :
    List.Forall₂ (StandsFor c) s.sources (plan.tree supply).leaves :=
  forall₂_trans (statementPlan_placed h) (plan.leaves_tree supply) fun _ _ _ => standsFor_of_placed

/-- **No leaf of the tree of a statement repeats a column name**, as the facts about look-ups over trees ask. -/
theorem distinct_tree (h : statementPlan c s = .ok plan) (supply : Supply) :
    (plan.tree supply).Distinct := by
  intro l hl
  obtain ⟨source, -, hl⟩ := exists_of_mem_forall₂ (standFor_leaves h supply) hl
  exact hl.distinct

/-! ## One statement -/

/-- What a statement comes to is the source of a tree that binds the columns of its plan. -/
theorem exists_source_of_outcome (h : (outcome (statement c s) p).1 = .ok e) :
    ∃ plan, statementPlan c s = .ok plan ∧ (plan.tree p.supply).source = .ok e ∧
      (outcome (statement c s) p).2.supply = p.supply.after plan.columns := by
  obtain ⟨columns, events, houtcome, hcolumns⟩ := outcome_statement c s p
  rw [houtcome] at h ⊢
  obtain ⟨plan, hplan, he⟩ := bind_eq_ok.1 h
  refine ⟨plan, hplan, ?_, by rw [hcolumns plan hplan]⟩
  rw [Plan.source] at he
  cases hsource : (plan.tree p.supply).source with
  | error failure =>
    rw [hsource] at he
    cases he
  | ok e' =>
    rw [hsource] at he
    cases he
    rfl

/-- **A statement comes to a safe query** over its sources, wherever the supply stands. -/
theorem safe_of_outcome (h : (outcome (statement c s) p).1 = .ok e) : Safe c s.sources e := by
  obtain ⟨plan, hplan, hsource, -⟩ := exists_source_of_outcome h
  have hnodup : (plan.tree p.supply).vars.Nodup := by
    rw [plan.vars_tree]
    exact Supply.nodup_drawn _ _
  exact {
    applies := by
      rw [JoinTree.dataAtoms_source hsource, List.forall₂_map_right_iff]
      exact (standFor_leaves hplan p.supply).imp fun _ _ hl => hl.applies
    plain := JoinTree.applications_source hsource
    once := fun _ hv => JoinTree.count_dataAtoms_source hnodup hsource hv }

/-- **The names of its variables are new**, and given away afterwards. -/
theorem fresh_of_outcome (h : (outcome (statement c s) p).1 = .ok e) (hv : v ∈ e.vars) :
    v.name ∉ p.supply.issued ∧ v.name ∈ (outcome (statement c s) p).2.supply.issued := by
  obtain ⟨plan, hplan, hsource, hsupply⟩ := exists_source_of_outcome h
  have hmem := JoinTree.mem_vars_of_source hsource hv
  rw [plan.vars_tree] at hmem
  refine ⟨Supply.not_mem_issued_of_mem_drawn hmem, ?_⟩
  rw [hsupply, Supply.issued_after, List.mem_append, List.mem_reverse]
  exact .inl (List.mem_map_of_mem hmem)

/-- **No name is taken back**, whatever the statement comes to. -/
theorem issued_subset_of_outcome (c : Catalog) (s : Statement) (p : Progress) :
    p.supply.issued ⊆ (outcome (statement c s) p).2.supply.issued := by
  obtain ⟨columns, events, houtcome, -⟩ := outcome_statement c s p
  rw [houtcome]
  dsimp only
  rw [Supply.issued_after]
  exact List.subset_append_right _ _

/-! ## Statement after statement -/

/-- What the statements of a session come to, each lowered with the supply that those before it have left. -/
def session (c : Catalog) : List Statement → Progress → List (Except LoweringError Expression)
  | [], _ => []
  | s :: rest, p =>
    let (result, p) := outcome (statement c s) p
    result :: session c rest p

/-- Every statement of a session comes to a safe query, if to any. -/
theorem safe_session (c : Catalog) (ss : List Statement) (p : Progress) :
    List.Forall₂ (fun s r => ∀ e, r = .ok e → Safe c s.sources e) ss (session c ss p) := by
  induction ss generalizing p with
  | nil => exact .nil
  | cons s rest ih => exact .cons (fun e h => safe_of_outcome h) (ih _)

/-- No statement of a session has a variable whose name was given away before the session. -/
theorem not_mem_issued_of_session {ss : List Statement} (h : .ok e ∈ session c ss p) (hv : v ∈ e.vars) :
    v.name ∉ p.supply.issued := by
  induction ss generalizing p with
  | nil => cases h
  | cons s rest ih =>
    rcases List.mem_cons.1 h with h | h
    · exact (fresh_of_outcome h.symm hv).1
    · exact fun hmem => ih h (issued_subset_of_outcome c s p hmem)

/-- No two statements of a session have a variable in common. -/
theorem pairwise_session (c : Catalog) (ss : List Statement) (p : Progress) :
    (session c ss p).Pairwise fun r r' =>
      ∀ e e', r = .ok e → r' = .ok e' → ∀ v ∈ e.vars, v ∉ e'.vars := by
  induction ss generalizing p with
  | nil => exact .nil
  | cons s rest ih =>
    refine .cons ?_ (ih _)
    -- a variable of the first statement is given away by the time the others start
    rintro r' hr' e e' he rfl v hv hv'
    exact not_mem_issued_of_session hr' hv' (fresh_of_outcome he hv).2

/-- **A session comes to safe queries with globally fresh variables**, over any catalog, for any statements
whether they succeed or fail, and from any supply. -/
theorem session_safe_and_fresh (c : Catalog) (ss : List Statement) (p : Progress) :
    List.Forall₂ (fun s r => ∀ e, r = .ok e → Safe c s.sources e) ss (session c ss p) ∧
      (session c ss p).Pairwise fun r r' =>
        ∀ e e', r = .ok e → r' = .ok e' → ∀ v ∈ e.vars, v ∉ e'.vars :=
  ⟨safe_session c ss p, pairwise_session c ss p⟩

end Lowering

/-! ## Three statements over one table -/

namespace Sample

/-- A catalog with one relation, `STAFF(ID, NAME)`. -/
def staffCatalog : Catalog :=
  ((Catalog.empty .upper).declare [⟨none, "staff", [⟨"id", none, false⟩, ⟨"name", none, true⟩]⟩]).catalog

/-- A catalog with one relation, `HR.STAFF(ID, NAME)`. -/
def officeCatalog : Catalog :=
  ((Catalog.empty .upper).declare [⟨some "hr", "staff", [⟨"id", none, false⟩, ⟨"name", none, true⟩]⟩]).catalog

/-- A query over some tables, separated by commas. -/
def fromTables (tables : List String) : Statement :=
  .query ⟨[], .select ⟨tables.map fun t => .factor (.table [.name ⟨t, none⟩] none none)⟩, ""⟩

/-- The second statement fails at its second table, and has used up two variables for the first by then. -/
example :
    let statements := [fromTables ["staff"], fromTables ["staff", "nobody"], fromTables ["staff"]]
    (Lowering.session staffCatalog statements .start).map
        (fun r => r.toOption.map fun e => e.dataAtoms.map fun a => a.2.map Term.text) =
      [some [["id1", "name2"]], none, some [["id5", "name6"]]] := by
  decide +kernel

end Sample

end FromClause
