import FromClause.Proofs.Relation.Dictionary
import FromClause.Proofs.Relation.Scope
import FromClause.Relation.Expression
/-!
# Leaves, by their columns

A leaf is described by four things: the relation that its rows come from, the name under which it is exposed,
the relations that it answers to, and its columns with their variables. This file gives them names and says
what the source of a leaf looks up in terms of them.

A catalog relation with a schema is the one kind of leaf that answers to more than the name it is exposed
under. All look-ups ask that no column name repeats in the leaf: with a repeated name the last one would win.
-/

namespace FromClause

namespace Leaf

variable {l : Leaf} {R : RelationId} {c : Identifier} {v w : Variable}

/-- The columns of a leaf with their variables, in declared order. -/
def columns : Leaf → List (Identifier × Variable)
  | base _ columns | catalog _ columns | aliased _ _ columns => columns

/-- The column names of a leaf, in declared order. -/
def names (l : Leaf) : List Identifier := l.columns.map (·.1)

/-- The relation that the rows of a leaf come from. -/
def relation : Leaf → RelationId
  | base relation _ | catalog relation _ | aliased relation _ _ => relation

/-- The name under which a leaf is exposed. -/
def exposed : Leaf → RelationId
  | base relation _ | catalog relation _ => relation
  | aliased _ exposed _ => exposed

/-- The relations that may qualify the columns of a leaf. -/
def AnswersTo : Leaf → RelationId → Prop
  | base relation _, R => R = relation
  | catalog relation _, R => R = relation ∨ relation.hasSchema = true ∧ R = .bare relation.table
  | aliased _ exposed _, R => R = exposed

instance : DecidablePred l.AnswersTo := fun R => by
  cases l <;> unfold AnswersTo <;> infer_instance

/-- No column name of the leaf repeats. -/
def Distinct (l : Leaf) : Prop := l.names.Nodup

instance : Decidable l.Distinct := by
  unfold Distinct
  infer_instance

theorem answersTo_exposed (l : Leaf) : l.AnswersTo l.exposed := by
  cases l with
  | base relation columns => exact rfl
  | catalog relation columns => exact .inl rfl
  | aliased relation exposed columns => exact rfl

/-- A name that a leaf answers to, apart from the one it is exposed under, is the bare table of a relation
with a schema. -/
theorem AnswersTo.eq_exposed_or (h : l.AnswersTo R) :
    l.exposed = R ∨ R.schema = none ∧ l.exposed.hasSchema = true ∧ l.exposed.table = R.table := by
  cases l with
  | base relation columns => exact .inl h.symm
  | catalog relation columns =>
    obtain rfl | ⟨hs, rfl⟩ := h
    · exact .inl rfl
    · exact .inr ⟨rfl, hs, rfl⟩
  | aliased relation exposed columns => exact .inl h.symm

/-- In a leaf without repeated names a column has one variable. -/
theorem Distinct.single (h : l.Distinct) (hv : (c, v) ∈ l.columns) (hw : (c, w) ∈ l.columns) :
    v = w :=
  (Prod.mk.inj (List.inj_on_of_nodup_map h hv hw rfl)).2

theorem mem_names : c ∈ l.names ↔ ∃ v, (c, v) ∈ l.columns := by
  simp [names]

/-! ## The source of a leaf -/

/-- **A leaf has one atom**, its relation over the variables of its columns. -/
theorem expression_atoms (l : Leaf) :
    l.expression.atoms =
      [.data (.ofRelation l.relation l.columns.length) (l.columns.map fun c => .var c.2)] := by
  cases l with
  | base relation columns => rfl
  | catalog relation columns =>
    simp only [expression, Expression.ofCatalog]
    split <;> rfl
  | aliased relation exposed columns => rfl

theorem expression_scope (l : Leaf) :
    l.expression.scope =
      l.columns.foldl (fun s c => s.expose c.1 (.ofList [l.exposed])) ∅ := by
  cases l with
  | base relation columns => rfl
  | catalog relation columns =>
    simp only [expression, Expression.ofCatalog]
    split <;> rfl
  | aliased relation exposed columns => rfl

/-- The scope of a leaf has its column names. -/
theorem contains_scope : l.expression.scope.contains c = true ↔ c ∈ l.names := by
  rw [expression_scope, Scope.contains_foldl_expose, SortedMap.contains_iff, names, List.mem_map]
  simp [eq_comm]

/-- The leaf alone exposes them, under its exposed name. -/
theorem mem_occurrences : R ∈ l.expression.scope.occurrences c ↔ R = l.exposed ∧ c ∈ l.names := by
  rw [expression_scope, Scope.mem_occurrences_foldl_expose, names, List.mem_map]
  simp only [Scope.mem_occurrences, SortedMap.get?_empty, SortedSet.mem_ofList, List.mem_singleton]
  grind

/-! ## The dictionary of a leaf -/

/-- The entries of a leaf under one name: a qualified and a bare one for each column. -/
def entries (exposed : RelationId) (columns : List (Identifier × Variable)) :
    List (Reference × Variable) :=
  columns.flatMap fun c => [(.qualified exposed c.1, c.2), (.bare c.1, c.2)]

theorem mem_entries {columns : List (Identifier × Variable)} {r : Reference} :
    (r, v) ∈ entries R columns ↔
      (r = .qualified R r.column ∨ r = .bare r.column) ∧ (r.column, v) ∈ columns := by
  simp only [entries, List.mem_flatMap, List.mem_cons, List.not_mem_nil, or_false, Prod.mk.injEq]
  constructor
  · rintro ⟨⟨c, w⟩, hc, ⟨rfl, rfl⟩ | ⟨rfl, rfl⟩⟩
    · exact ⟨.inl rfl, hc⟩
    · exact ⟨.inr rfl, hc⟩
  · rintro ⟨hr | hr, hc⟩
    · exact ⟨_, hc, .inl ⟨hr, rfl⟩⟩
    · exact ⟨_, hc, .inr ⟨hr, rfl⟩⟩

theorem ofAliased_dictionary (relation exposed : RelationId) (columns : List (Identifier × Variable)) :
    (Expression.ofAliased relation exposed columns).dictionary = .ofList (entries exposed columns) := by
  rw [entries, SortedMap.ofList, List.foldl_flatMap]
  rfl

theorem get?_ofAliased {relation exposed : RelationId} {columns : List (Identifier × Variable)}
    {r : Reference} (h : (columns.map (·.1)).Nodup) :
    (Expression.ofAliased relation exposed columns).dictionary.get? r = some v ↔
      (r = .qualified exposed r.column ∨ r = .bare r.column) ∧ (r.column, v) ∈ columns := by
  rw [ofAliased_dictionary, SortedMap.ofList, SortedMap.get?_foldl_insert, mem_entries]
  · simp
  · intro r v w hv hw
    exact (Prod.mk.inj (List.inj_on_of_nodup_map h (mem_entries.1 hv).2 (mem_entries.1 hw).2 rfl)).2

/-- The entries of a leaf under one more table name: a qualified one for each column. -/
def tableEntries (table : Identifier) (columns : List (Identifier × Variable)) :
    List (Reference × Variable) :=
  columns.map fun c => (.qualified (.bare table) c.1, c.2)

theorem mem_tableEntries {table : Identifier} {columns : List (Identifier × Variable)} {r : Reference} :
    (r, v) ∈ tableEntries table columns ↔
      r = .qualified (.bare table) r.column ∧ (r.column, v) ∈ columns := by
  rw [tableEntries, List.mem_map]
  constructor
  · rintro ⟨c, hc, heq⟩
    obtain ⟨rfl, rfl⟩ := Prod.mk.inj heq
    exact ⟨rfl, hc⟩
  · rintro ⟨hr, hc⟩
    exact ⟨_, hc, by rw [← hr]⟩

theorem get?_ofCatalog {relation : RelationId} {columns : List (Identifier × Variable)}
    {r : Reference} (h : (columns.map (·.1)).Nodup) :
    (Expression.ofCatalog relation columns).dictionary.get? r = some v ↔
      (r = .qualified relation r.column ∨
        relation.hasSchema = true ∧ r = .qualified (.bare relation.table) r.column ∨
        r = .bare r.column) ∧ (r.column, v) ∈ columns := by
  rw [Expression.ofCatalog]
  split
  next hs =>
    have hd : columns.foldl (fun d c => d.insert (.qualified (.bare relation.table) c.1) c.2)
        (Expression.ofBase relation columns).dictionary =
        (tableEntries relation.table columns).foldl (fun d e => d.insert e.1 e.2)
          (Expression.ofBase relation columns).dictionary := by
      rw [tableEntries, List.foldl_map]
    simp only [hd]
    rw [SortedMap.get?_foldl_insert, Expression.ofBase, get?_ofAliased h]
    · simp only [mem_tableEntries, hs, true_and]
      grind
    · intro r v w hv hw
      have hv := (mem_tableEntries.1 hv).2
      have hw := (mem_tableEntries.1 hw).2
      exact (Prod.mk.inj (List.inj_on_of_nodup_map h hv hw rfl)).2
  next hs =>
    rw [Expression.ofBase, get?_ofAliased h]
    simp [hs]

/-- **What a leaf looks up**: the column of a reference, which is bare or qualified by a relation that the
leaf answers to. -/
theorem get?_expression (h : l.Distinct) {r : Reference} :
    l.expression.dictionary.get? r = some v ↔
      (∀ R ∈ r.relation, l.AnswersTo R) ∧ (r.column, v) ∈ l.columns := by
  obtain ⟨_ | R, c⟩ := r
  all_goals
    cases l with
    | base relation columns =>
      refine (get?_ofAliased  h).trans (and_congr_left fun _ => ?_)
      simp [Reference.qualified, Reference.bare, AnswersTo]
    | catalog relation columns =>
      refine (get?_ofCatalog h).trans (and_congr_left fun _ => ?_)
      simp [Reference.qualified, Reference.bare, AnswersTo]
    | aliased relation exposed columns =>
      refine (get?_ofAliased h).trans (and_congr_left fun _ => ?_)
      simp [Reference.qualified, Reference.bare, AnswersTo]

theorem get?_qualified (h : l.Distinct) :
    l.expression.dictionary.get? (.qualified R c) = some v ↔ l.AnswersTo R ∧ (c, v) ∈ l.columns := by
  rw [get?_expression h]
  simp [Reference.qualified]

theorem bare?_expression (h : l.Distinct) :
    l.expression.dictionary.bare? c = some v ↔ (c, v) ∈ l.columns := by
  rw [Dictionary.bare?, get?_expression h]
  simp [Reference.bare]

/-- The relations of a leaf are those it answers to, provided that it has a column at all. -/
theorem mem_relations (h : l.Distinct) :
    R ∈ l.expression.relations.toList ↔ l.AnswersTo R ∧ l.columns ≠ [] := by
  rw [Expression.relations, Dictionary.mem_relations]
  simp only [get?_qualified h, exists_and_left]
  refine and_congr_right fun _ => ?_
  rw [← Prod.exists]
  exact ⟨fun ⟨_, hc⟩ => List.ne_nil_of_mem hc, List.exists_mem_of_ne_nil _⟩

/-! ## Leaves with repeated names

Where a column name repeats in a leaf the last column of that name is found. What is found is a column of the
leaf all the same, under its own name. -/

/-- The dictionary of a leaf is put together from its entries under the exposed name and qualified entries for
its columns. -/
theorem exists_dictionary_eq (l : Leaf) :
    ∃ more, l.expression.dictionary = .ofList (entries l.exposed l.columns ++ more) ∧
      ∀ r v, (r, v) ∈ more → (r.column, v) ∈ l.columns := by
  cases l with
  | base relation columns => exact ⟨[], by rw [List.append_nil]; exact ofAliased_dictionary .., nofun⟩
  | aliased relation exposed columns =>
    exact ⟨[], by rw [List.append_nil]; exact ofAliased_dictionary .., nofun⟩
  | catalog relation columns =>
    rw [expression, Expression.ofCatalog]
    split
    next =>
      refine ⟨tableEntries relation.table columns, ?_, fun r v h => (mem_tableEntries.1 h).2⟩
      have hbase : (Expression.ofBase relation columns).dictionary = .ofList (entries relation columns) :=
        ofAliased_dictionary ..
      simp only [hbase]
      rw [SortedMap.ofList, SortedMap.ofList, List.foldl_append, tableEntries, List.foldl_map]
      rfl
    next => exact ⟨[], by rw [List.append_nil]; exact ofAliased_dictionary .., nofun⟩

/-- **Whatever a leaf looks up is a column of it**, of the name that the reference has. -/
theorem mem_columns_of_get? {r : Reference} (h : l.expression.dictionary.get? r = some v) :
    (r.column, v) ∈ l.columns := by
  obtain ⟨more, hdictionary, hmore⟩ := l.exists_dictionary_eq
  rw [hdictionary, SortedMap.ofList] at h
  rcases SortedMap.mem_or_get?_of_get?_foldl_insert h with hmem | hnone
  · rcases List.mem_append.1 hmem with hmem | hmem
    · exact (mem_entries.1 hmem).2
    · exact hmore r v hmem
  · cases hnone

/-- Every column of a leaf is found by its bare name, or another one of that name is. -/
theorem exists_bare?_of_mem_columns (h : (c, v) ∈ l.columns) :
    ∃ w, l.expression.dictionary.bare? c = some w := by
  obtain ⟨more, hdictionary, -⟩ := l.exists_dictionary_eq
  have hmem : (Reference.bare c, v) ∈ entries l.exposed l.columns := mem_entries.2 ⟨.inr rfl, h⟩
  rw [Dictionary.bare?, hdictionary]
  exact SortedMap.exists_get?_foldl_insert (.inl ⟨v, List.mem_append_left _ hmem⟩)

end Leaf

/-! ## Three leaves

One of each kind, for examples: the two with an `ID`, and the two with an `AMOUNT`, come to different leaves. -/

namespace Sample

def id : Identifier := ⟨"ID", by decide⟩

def amount : Identifier := ⟨"AMOUNT", by decide⟩

def name : Identifier := ⟨"NAME", by decide⟩

def level : Identifier := ⟨"LEVEL", by decide⟩

/-- A catalog relation with a schema, which answers to its table name too. -/
def salary : Leaf :=
  .catalog ⟨some ⟨"HR", by decide⟩, ⟨"SALARY", by decide⟩⟩
    [(id, ⟨"v1", by decide⟩), (amount, ⟨"v2", by decide⟩)]

/-- A relation under an alias. -/
def staff : Leaf :=
  .aliased (.bare ⟨"STAFF", by decide⟩) (.bare ⟨"S", by decide⟩)
    [(id, ⟨"v3", by decide⟩), (name, ⟨"v4", by decide⟩)]

/-- A relation under its own name. -/
def grade : Leaf :=
  .base (.bare ⟨"GRADE", by decide⟩) [(level, ⟨"v5", by decide⟩), (amount, ⟨"v6", by decide⟩)]

end Sample

end FromClause
