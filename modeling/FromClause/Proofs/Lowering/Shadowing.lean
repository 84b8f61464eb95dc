import FromClause.Proofs.Lowering.Extension
import FromClause.Proofs.Lowering.Symbols
/-!
# Names that a query defines

A WITH clause gives names to queries, and inside the query that it belongs to these names hide the relations of
the catalog. Lowering reads the FROM clause alone and looks every table up in the catalog, so a WITH clause changes
nothing (`statement_congr_body`).

For a table that is hidden this settles what becomes of it (`outcome_text_shadowed`). If the catalog has no relation
for its name the query is refused, as any query over a table without a relation is. If it has one, the table stands
for this relation and not for the query of the WITH clause (`shadowed_staff`).
-/

namespace FromClause

open Sql

/-- The query that a statement is, if it is one. -/
def Sql.Statement.query? : Statement → Option Query
  | .query q => some q
  | .command _ => none

namespace Lowering

variable {c : Catalog} {d : Dialect} {text : String} {q : Query} {p : Progress} {e : Expression}

/-! ## Hidden tables -/

/-- What a source stands for is what its id is looked up as. -/
theorem definition?_eq_bind (source : TableFactor) :
    definition? c source = (reference? c.folding source).bind c.get? := by
  cases source with
  | table | nested | derived | other => rfl

/-- **A table is hidden by a WITH clause**: at this place of its FROM clause, at any depth of brackets, the query has
a table without a schema whose name the WITH clause defines, once names are normalised. -/
def ShadowedAt (folding : Folding) (q : Query) (k : Nat) (id : Identifier) : Prop :=
  (∃ n ∈ q.defined, (identifier folding n).toOption = some id) ∧
    (Statement.query q).sources[k]?.bind (reference? folding) = some (.bare id)

instance (folding : Folding) (q : Query) (k : Nat) (id : Identifier) : Decidable (ShadowedAt folding q k id) :=
  inferInstanceAs (Decidable ((∃ n ∈ q.defined, (identifier folding n).toOption = some id) ∧ _))

/-! ## Queries and texts -/

/-- **Queries with the same body are lowered alike**, whatever their WITH clauses define. -/
theorem statement_congr_body {q' : Query} (h : q'.body = q.body) :
    statement c (.query q') = statement c (.query q) := by
  have hselect : plainSelect (.query q') = plainSelect (.query q) := by
    rw [plainSelect, plainSelect, h]
  rw [statement, statement, hselect]

/-- A text comes to what the statement in it comes to. -/
theorem text_eq_statement {s : Statement} (h : d.parseSingle text = .ok s) :
    Lowering.text d c text = statement c s := by
  rw [Lowering.text, parse, h]
  exact pure_bind s (statement c)

/-- **A data atom applies what the catalog has for its source**, at every place of a source. -/
theorem exists_get?_of_outcome {s : Statement} {k : Nat} {reference : RelationId}
    (h : (outcome (statement c s) p).1 = .ok e)
    (hreference : s.sources[k]?.bind (reference? c.folding) = some reference) :
    ∃ relation a, c.get? reference = some relation ∧ e.dataAtoms[k]? = some a ∧
      a.1 = .ofRelation relation.id relation.arity := by
  obtain ⟨source, hsource, hreference⟩ := Option.bind_eq_some_iff.1 hreference
  obtain ⟨a, ha, happlies⟩ := exists_getElem?_of_forall₂ (safe_of_outcome h).applies hsource
  obtain ⟨relation, hrelation, hsymbol⟩ := happlies.exists_definition
  rw [definition?_eq_bind, hreference] at hrelation
  exact ⟨relation, a, hrelation, ha, hsymbol⟩

/-- **A table alone comes to a source** if the catalog has a relation for it. -/
theorem exists_outcome_table {name : ObjectName} {reference : RelationId} {relation : Definition}
    (hreference : relationId c.folding name = .ok reference) (hrelation : c.get? reference = some relation) :
    ∃ e, (outcome (select c ⟨[.factor (.table name none none)]⟩) p).1 = .ok e := by
  let place : Placement := ⟨relation.id, none, relation.columns.map Column.name⟩
  have hplace : placement c name none = .ok place :=
    placement_eq_ok.2 ⟨reference, relation, hreference, hrelation, rfl, rfl, relation.distinct⟩
  have hplan : itemsPlan c [.factor (.table name none none)] = .ok (.leaf place) := by
    rw [itemsPlan, itemPlan, factorPlan, hplace]
    rfl
  obtain ⟨columns, events, houtcome, -⟩ := outcome_select c ⟨[.factor (.table name none none)]⟩ p
  rw [houtcome, hplan]
  exact ⟨_, rfl⟩

/-- The relation id of the only table of a query. -/
theorem relationId_of_shadowedAt {folding : Folding} {k : Nat} {id : Identifier} {name : ObjectName}
    (h : ShadowedAt folding q k id) (hbody : q.body = .select ⟨[.factor (.table name none none)]⟩) :
    relationId folding name = .ok (.bare id) := by
  have hsources : (Statement.query q).sources = [.table name none none] := by
    rw [sources_eq_of_plainSelect (by rw [plainSelect, hbody])]
    simp only [List.flatMap_singleton, TableItem.sources, TableFactor.sources]
  obtain ⟨source, hsource, hreference⟩ := Option.bind_eq_some_iff.1 h.2
  rw [hsources] at hsource
  obtain rfl := List.mem_singleton.1 (List.mem_of_getElem? hsource)
  exact toOption_eq_some.1 hreference

/-- **What becomes of a text with a WITH clause.** It comes to what it comes to with any other WITH clause in place of
its own, or with none. So take a table of its FROM clause that its own WITH clause hides. If the catalog has no
relation for the name of the table, the text is refused. Whenever the text comes to a source, the catalog has
one, and the data atom at the place of the table applies this relation. And that is not for want of sources: if
the catalog has a relation for the name, the text comes to a source where the table stands alone. -/
theorem outcome_text_shadowed (h : d.parseSingle text = .ok (.query q)) :
    (∀ names, outcome (Lowering.text d c text) p = outcome (statement c (.query { q with defined := names })) p) ∧
    ∀ k id, ShadowedAt c.folding q k id →
      (c.get? (.bare id) = none → ∃ error, (outcome (Lowering.text d c text) p).1 = .error error) ∧
      (∀ e, (outcome (Lowering.text d c text) p).1 = .ok e →
        ∃ relation a, c.get? (.bare id) = some relation ∧ e.dataAtoms[k]? = some a ∧
          a.1 = .ofRelation relation.id relation.arity) ∧
      ∀ name relation, q.body = .select ⟨[.factor (.table name none none)]⟩ → c.get? (.bare id) = some relation →
        ∃ e, (outcome (Lowering.text d c text) p).1 = .ok e := by
  rw [text_eq_statement h]
  refine ⟨fun names => ?_, fun k id hshadowed => ?_⟩
  · exact congrArg (outcome · p) (statement_congr_body rfl).symm
  · refine ⟨fun hnone => ?_, fun e he => exists_get?_of_outcome he hshadowed.2,
      fun name relation hbody hrelation => ?_⟩
    · cases hresult : (outcome (statement c (.query q)) p).1 with
      | error error => exact ⟨error, rfl⟩
      | ok e =>
        obtain ⟨relation, -, hrelation, -⟩ := exists_get?_of_outcome hresult hshadowed.2
        rw [hnone] at hrelation
        cases hrelation
    · have hselect : plainSelect (.query q) = .ok ⟨[.factor (.table name none none)]⟩ := by rw [plainSelect, hbody]
      rw [statement, hselect, lift_ok_bind]
      exact exists_outcome_table (relationId_of_shadowedAt hshadowed hbody) hrelation

end Lowering

/-! ## A table that the query defines -/

namespace Sample

open Lowering

/-- A text is a query whose WITH clause hides the first table of its FROM clause. -/
def hidesFirst (text : String) (id : Identifier) : Bool :=
  ((Dialect.duckdb.parseSingle text).toOption.bind Statement.query?).any fun q =>
    decide (ShadowedAt staffCatalog.folding q 0 id)

theorem exists_query_of_hidesFirst {text : String} {id : Identifier} (h : hidesFirst text id = true) :
    ∃ q, Dialect.duckdb.parseSingle text = .ok (.query q) ∧ ShadowedAt staffCatalog.folding q 0 id := by
  obtain ⟨q, hq, hhidden⟩ := (Option.any_eq_true _ _).1 h
  obtain ⟨s, hs, hquery⟩ := Option.bind_eq_some_iff.1 hq
  cases s with
  | command kind => cases hquery
  | query q' =>
    cases hquery
    exact ⟨q, toOption_eq_some.1 hs, of_decide_eq_true hhidden⟩

/-- A text whose WITH clause defines the table that it selects from. -/
def gradeText : String := "WITH grade AS (SELECT 1) SELECT * FROM grade"

/-- The catalog has no relation `GRADE`, so the text is refused. -/
theorem outcome_text_shadowed_grade :
    ∃ error, (outcome (Lowering.text .duckdb staffCatalog gradeText) .start).1 = .error error := by
  have hhidden : hidesFirst gradeText grade.exposed.table = true := by decide +kernel
  have hnone : (staffCatalog.get? (.bare grade.exposed.table)).map Definition.id = none := by decide +kernel
  obtain ⟨q, hparse, hshadowed⟩ := exists_query_of_hidesFirst hhidden
  obtain ⟨-, hbecomes⟩ := outcome_text_shadowed hparse
  obtain ⟨hrefused, -⟩ := hbecomes 0 _ hshadowed
  exact hrefused (Option.map_eq_none_iff.1 hnone)

/-- The same for a table with the name of a relation. -/
def staffText : String := "WITH staff AS (SELECT 1) SELECT * FROM staff"

/-- **A query that the WITH clause defines is mistaken for a relation.** The catalog has a relation `STAFF`, and the
source of this text applies it. -/
theorem shadowed_staff :
    (∃ q, Dialect.duckdb.parseSingle staffText = .ok (.query q) ∧
      ShadowedAt staffCatalog.folding q 0 staff.relation.table) ∧
    ((outcome (Lowering.text .duckdb staffCatalog staffText) .start).1.toOption.map fun e =>
      e.dataAtoms.map (·.1)) = some [.ofRelation staff.relation 2] :=
  ⟨exists_query_of_hidesFirst (by decide +kernel), by decide +kernel⟩

end Sample

end FromClause
