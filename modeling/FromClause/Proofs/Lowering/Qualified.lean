import FromClause.Proofs.Lowering.Exposure
/-!
# Qualified references

A column behind a relation and a point denotes a column of one table of the clause. Which relations may stand
before the point is told by the clause and the catalog (`GoesBy`): a table without an alias goes by the id of
its relation, and by its table name too if the relation has a schema; a table with an alias goes by the alias
and by nothing else. The names of the columns are the declared ones, or those that the alias gives them.

Every such spelling finds its column, and nothing else is found (`resolve_qualified_of_outcome`). No two tables
of a clause with a source go by one relation, if both have columns, so the table and the position of a reference
that resolves are settled.
-/

namespace FromClause

open Sql

/-! ## Places of leaves -/

/-- What stands at a position of the names of a leaf. -/
theorem Leaf.getElem?_names {l : Leaf} {i : Nat} {c : Identifier} :
    l.names[i]? = some c ↔ ∃ v, l.columns[i]? = some (c, v) := by
  rw [names, List.getElem?_map, Option.map_eq_some_iff]
  constructor
  · rintro ⟨⟨c, v⟩, hi, rfl⟩
    exact ⟨v, hi⟩
  · rintro ⟨v, hi⟩
    exact ⟨(c, v), hi, rfl⟩

namespace JoinTree

variable {κ : Type} {t : JoinTree Leaf κ} {e : Expression} {R : RelationId} {c : Identifier} {v : Variable}
  {l l' : Leaf} {k k' : Nat}

/-- **Leaves with columns that answer to one relation stand at one place**, where no two leaves share a
relation. -/
theorem RelationsDisjoint.place_unique (h : t.RelationsDisjoint) (distinct : t.Distinct)
    (hl : t.leaves[k]? = some l) (hl' : t.leaves[k']? = some l') (hR : l.AnswersTo R) (hR' : l'.AnswersTo R)
    (hc : l.columns ≠ []) (hc' : l'.columns ≠ []) : k = k' := by
  have hmem := (Leaf.mem_relations (distinct l (List.mem_of_getElem? hl))).2 ⟨hR, hc⟩
  have hmem' := (Leaf.mem_relations (distinct l' (List.mem_of_getElem? hl'))).2 ⟨hR', hc'⟩
  exact eq_of_pairwise_apart h hl hl' (fun hapart => hapart R hmem hmem') fun hapart => hapart R hmem' hmem

/-- A qualified reference resolves to a column of a leaf that answers to its relation. -/
theorem resolve_qualified_source [JoinCondition κ] (distinct : t.Distinct) (h : t.source = .ok e) :
    e.resolve (.qualified R c) = .ok v ↔
      ∃ (k i : Nat) (l : Leaf), t.leaves[k]? = some l ∧ l.AnswersTo R ∧ l.columns[i]? = some (c, v) := by
  rw [Expression.resolve_eq_ok, get?_qualified_source distinct h]
  constructor
  · rintro ⟨l, hl, hR, hv⟩
    obtain ⟨k, hk⟩ := List.getElem?_of_mem hl
    obtain ⟨i, hi⟩ := List.getElem?_of_mem hv
    exact ⟨k, i, l, hk, hR, hi⟩
  · rintro ⟨k, i, l, hk, hR, hi⟩
    exact ⟨l, List.mem_of_getElem? hk, hR, List.mem_of_getElem? hi⟩

end JoinTree

/-- The argument at a place of a source: a position of one of its data atoms. -/
def Expression.argument? (e : Expression) (k i : Nat) : Option Term :=
  e.dataAtoms[k]?.bind fun a => a.2[i]?

/-- The arguments of a tree are the variables of its leaves. -/
theorem JoinTree.argument?_source {t : JoinTree Leaf SqlCondition} {e : Expression} (h : t.source = .ok e)
    {l : Leaf} {k i : Nat} {column : Identifier × Variable} (hl : t.leaves[k]? = some l)
    (hi : l.columns[i]? = some column) : e.argument? k i = some (.var column.2) := by
  rw [Expression.argument?, dataAtoms_source h, List.getElem?_map, hl, Option.map_some, Option.bind_some,
    List.getElem?_map, Leaf.vars, List.getElem?_map, hi]
  rfl

namespace Lowering

variable {c : Catalog} {source : TableFactor} {sources : List TableFactor} {R : RelationId} {column : Identifier}
  {columns : List Identifier} {k i k' i' : Nat}

/-! ## What tables go by -/

/-- **A table goes by a relation**, with these names for its columns in declared order. -/
inductive GoesBy (c : Catalog) : TableFactor → RelationId → List Identifier → Prop
  /-- A table without an alias goes by the id of its relation. -/
  | relation {name : ObjectName} {d : Definition} :
    Refers c name none d → GoesBy c (.table name none none) d.id (d.columns.map Column.name)
  /-- If the relation has a schema, it goes by the table name alone as well. -/
  | table {name : ObjectName} {d : Definition} :
    Refers c name none d → d.id.hasSchema = true →
    GoesBy c (.table name none none) (.bare d.id.table) (d.columns.map Column.name)
  /-- A table with an alias goes by the alias, and its columns by their effective names. -/
  | label {name : ObjectName} {d : Definition} {a : TableAlias} {exposed : Identifier} {columns : List Identifier} :
    Refers c name (some a) d → c.folding.normalised a.name = exposed.text →
    columns.map Identifier.text = c.folding.effectiveNames d (some a) →
    GoesBy c (.table name none (some a)) (.bare exposed) columns

/-- **The leaf for a table answers to what the table goes by**, under the same names. -/
theorem LeafFor.goesBy_iff {l : Leaf} (h : LeafFor c source l) :
    GoesBy c source R columns ↔ l.AnswersTo R ∧ columns = l.names := by
  cases h with
  | catalog hrefers hnames _ =>
    constructor
    · intro hgoes
      cases hgoes with
      | relation hrefers' =>
        obtain rfl := hrefers.unique hrefers'
        exact ⟨.inl rfl, hnames.symm⟩
      | table hrefers' hschema =>
        obtain rfl := hrefers.unique hrefers'
        exact ⟨.inr ⟨hschema, rfl⟩, hnames.symm⟩
    · rintro ⟨rfl | ⟨hschema, rfl⟩, rfl⟩
      · rw [Leaf.names, Leaf.columns, hnames]
        exact .relation hrefers
      · rw [Leaf.names, Leaf.columns, hnames]
        exact .table hrefers hschema
  | aliased hrefers hlabel _ htexts _ =>
    constructor
    · intro hgoes
      cases hgoes with
      | label hrefers' hlabel' htexts' =>
        obtain rfl := hrefers.unique hrefers'
        obtain rfl := Identifier.text_injective (hlabel.symm.trans hlabel')
        exact ⟨rfl, List.map_injective_iff.2 Identifier.text_injective (htexts'.trans htexts.symm)⟩
    · rintro ⟨rfl, rfl⟩
      exact .label hrefers hlabel htexts

/-! ## What references name -/

/-- **A qualified reference names a position of a source**: the source goes by the relation before the point, and
the column behind it is the one of that position. -/
def NamedAt (c : Catalog) (sources : List TableFactor) (R : RelationId) (column : Identifier) (k i : Nat) : Prop :=
  ∃ source columns, sources[k]? = some source ∧ GoesBy c source R columns ∧ columns[i]? = some column

/-- The sources of a clause and its leaves name the same positions. -/
theorem namedAt_iff {leaves : List Leaf} (h : List.Forall₂ (LeafFor c) sources leaves) :
    NamedAt c sources R column k i ↔
      ∃ l v, leaves[k]? = some l ∧ l.AnswersTo R ∧ l.columns[i]? = some (column, v) := by
  constructor
  · rintro ⟨source, columns, hsource, hgoes, hcolumn⟩
    obtain ⟨l, hl, hleaf⟩ := exists_getElem?_of_forall₂ h hsource
    obtain ⟨hR, rfl⟩ := hleaf.goesBy_iff.1 hgoes
    obtain ⟨v, hv⟩ := Leaf.getElem?_names.1 hcolumn
    exact ⟨l, v, hl, hR, hv⟩
  · rintro ⟨l, v, hl, hR, hv⟩
    obtain ⟨source, hsource, hleaf⟩ := exists_getElem?_of_forall₂ h.flip hl
    exact ⟨source, l.names, hsource, hleaf.goesBy_iff.2 ⟨hR, rfl⟩, Leaf.getElem?_names.2 ⟨v, hv⟩⟩

/-- **A reference names one position of one source** at most, where no two leaves share a relation. -/
theorem NamedAt.unique {t : Tree} (hleaves : List.Forall₂ (LeafFor c) sources t.leaves) (hdistinct : t.Distinct)
    (hdisjoint : t.RelationsDisjoint) (h : NamedAt c sources R column k i)
    (h' : NamedAt c sources R column k' i') : k' = k ∧ i' = i := by
  obtain ⟨l, v, hl, hR, hi⟩ := (namedAt_iff hleaves).1 h
  obtain ⟨l', v', hl', hR', hi'⟩ := (namedAt_iff hleaves).1 h'
  obtain rfl : k' = k := hdisjoint.place_unique hdistinct hl' hl hR' hR
    (List.ne_nil_of_mem (List.mem_of_getElem? hi')) (List.ne_nil_of_mem (List.mem_of_getElem? hi))
  obtain rfl := Option.some.inj (hl.symm.trans hl')
  -- the two leaves are one, and its names are different from one another
  have hnames : l.names.Pairwise (· ≠ ·) := hdistinct l (List.mem_of_getElem? hl)
  exact ⟨rfl, eq_of_pairwise_apart hnames (Leaf.getElem?_names.2 ⟨v', hi'⟩)
    (Leaf.getElem?_names.2 ⟨v, hi⟩) (fun hne => hne rfl) fun hne => hne rfl⟩

/-- The leaves of the tree of a statement are those of its sources. -/
theorem leavesFor_tree {s : Statement} {plan : Plan} (h : statementPlan c s = .ok plan) (supply : Supply) :
    List.Forall₂ (LeafFor c) s.sources (plan.tree supply).leaves :=
  forall₂_trans (statementPlan_placed h) (plan.leaves_tree supply) fun _ _ _ => LeafFor.of_placed

variable {s : Statement} {p : Progress} {e : Expression}

/-- **Qualified references find the declared columns under every spelling, and nothing else.** Take a statement that
comes to a source. Its data atoms apply the relations of its sources, one each and in their order. Whatever
relation a source goes by, each of its columns behind this relation resolves to the argument of its own
position in the data atom of the source. Conversely every qualified reference that resolves names one position
of one source, and no other position and no other source, and resolves to the argument there. -/
theorem resolve_qualified_of_outcome (h : (outcome (statement c s) p).1 = .ok e) :
    List.Forall₂ (Applies c) s.sources e.dataAtoms ∧ ∀ R column,
      (∀ k i, NamedAt c s.sources R column k i →
        ∃ v, e.argument? k i = some (.var v) ∧ e.resolve (.qualified R column) = .ok v) ∧
      (∀ v, e.resolve (.qualified R column) = .ok v →
        ∃ k i, NamedAt c s.sources R column k i ∧ e.argument? k i = some (.var v) ∧
          ∀ k' i', NamedAt c s.sources R column k' i' → k' = k ∧ i' = i) := by
  obtain ⟨plan, hplan, hsource, -⟩ := exists_source_of_outcome h
  have hleaves := leavesFor_tree hplan p.supply
  have hdistinct := distinct_tree hplan p.supply
  obtain ⟨hdisjoint, -⟩ := (JoinTree.exists_source_iff hdistinct).1 ⟨e, hsource⟩
  refine ⟨(safe_of_outcome h).applies, fun R column => ⟨fun k i hnamed => ?_, fun v hv => ?_⟩⟩
  · obtain ⟨l, v, hl, hR, hi⟩ := (namedAt_iff hleaves).1 hnamed
    exact ⟨v, JoinTree.argument?_source hsource hl hi,
      (JoinTree.resolve_qualified_source hdistinct hsource).2 ⟨k, i, l, hl, hR, hi⟩⟩
  · obtain ⟨k, i, l, hl, hR, hi⟩ := (JoinTree.resolve_qualified_source hdistinct hsource).1 hv
    have hnamed := (namedAt_iff hleaves).2 ⟨l, v, hl, hR, hi⟩
    exact ⟨k, i, hnamed, JoinTree.argument?_source hsource hl hi,
      fun k' i' => NamedAt.unique hleaves hdistinct hdisjoint hnamed⟩

end Lowering

/-! ## A table under two names -/

namespace Sample

open Lowering

/-- `FROM staff, hr.staff AS s (nr)`. -/
def staffTwice : Statement :=
  .query ⟨[], .select ⟨[.factor (.table [.name ⟨"staff", none⟩] none none),
    .factor (.table [.name ⟨"hr", none⟩, .name ⟨"staff", none⟩] none
      (some ⟨true, ⟨"s", none⟩, [⟨⟨"nr", none⟩, none⟩]⟩))]⟩, ""⟩

/-- The id of the relation that both tables refer to. -/
def hrStaff : RelationId := ⟨salary.exposed.schema, staff.relation.table⟩

/-- In this clause `HR.STAFF.ID` is the first argument of the first atom. `S.NAME` is the second one of the second
atom, and it names no other position. -/
theorem resolve_qualified_staffTwice :
    ∃ e, (outcome (statement officeCatalog staffTwice) .start).1 = .ok e ∧
      (∃ v, e.argument? 0 0 = some (.var v) ∧ e.resolve (.qualified hrStaff id) = .ok v) ∧
      (∃ v, e.argument? 1 1 = some (.var v) ∧ e.resolve (.qualified staff.exposed name) = .ok v) ∧
      ∀ k i, NamedAt officeCatalog staffTwice.sources staff.exposed name k i → k = 1 ∧ i = 1 := by
  obtain ⟨e, he⟩ := isOk_iff.1
    (by decide +kernel : (outcome (statement officeCatalog staffTwice) .start).1.isOk = true)
  have found : ∀ reference ∈ [staff.relation, hrStaff], ∃ d, officeCatalog.get? reference = some d ∧
      d.id = hrStaff ∧ d.columns.map Column.name = [id, name] := by
    have hmap : ∀ reference ∈ [staff.relation, hrStaff], (officeCatalog.get? reference).map
        (fun d => (d.id, d.columns.map Column.name)) = some (hrStaff, [id, name]) := by decide +kernel
    intro reference hreference
    obtain ⟨d, hd, heq⟩ := Option.map_eq_some_iff.1 (hmap reference hreference)
    exact ⟨d, hd, Prod.mk.inj heq⟩
  obtain ⟨d, hd, hid, hcolumns⟩ := found staff.relation (by decide)
  have hfirst : NamedAt officeCatalog staffTwice.sources hrStaff id 0 0 := by
    refine ⟨_, [id, name], rfl, ?_, rfl⟩
    rw [← hid, ← hcolumns]
    exact .relation ⟨⟨_, relationId_eq_ok.1 (by decide +kernel), hd⟩, nofun, List.forall_mem_nil _⟩
  obtain ⟨d', hd', -, hcolumns'⟩ := found hrStaff (by decide)
  have htexts : (d'.columns.map fun column => column.name.text) = [id, name].map Identifier.text := by
    rw [← hcolumns', List.map_map]
    rfl
  have hsecond : NamedAt officeCatalog staffTwice.sources staff.exposed name 1 1 := by
    refine ⟨_, [⟨"NR", by decide⟩, name], rfl, .label ⟨⟨_, relationId_eq_ok.1 (by decide +kernel), hd'⟩, ?_, ?_⟩
      (by decide +kernel) ?_, rfl⟩
    · rintro a ⟨⟩
      decide +kernel
    · decide +kernel
    · rw [Folding.effectiveNames, htexts]
      decide +kernel
  obtain ⟨-, hrefs⟩ := resolve_qualified_of_outcome he
  obtain ⟨v, hv, hresolve⟩ := (hrefs _ _).1 1 1 hsecond
  obtain ⟨k, i, -, -, hunique⟩ := (hrefs _ _).2 v hresolve
  obtain ⟨rfl, rfl⟩ := hunique 1 1 hsecond
  exact ⟨e, he, (hrefs _ _).1 0 0 hfirst, ⟨v, hv, hresolve⟩, hunique⟩

/-- An alias hides the name of the relation, and the columns that it renames. -/
example :
    let resolves (r : Reference) :=
      ((outcome (statement officeCatalog staffTwice) .start).1.toOption.map fun e =>
        (e.resolve r).toOption.map Variable.name)
    resolves (.qualified staff.exposed id) = some none := by
  decide +kernel

end Sample

end FromClause
