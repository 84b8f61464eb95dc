import FromClause.Proofs.Logic.Formula
import FromClause.Proofs.Relation.Tree
/-!
# Renamed variables

A source with other variables in place of its own is the same source under other names: no operation compares
variables, orders them or puts one into an error. Each of them therefore commutes with renaming, an error staying
what it is. This is shown for the leaves, the product and the joins, and then by induction for trees, where the
conditions are any that commute with renaming themselves (`JoinCondition.Renames`).

The renaming need not be one-to-one for any of this.
-/

namespace FromClause

variable (σ : Variable → Variable)

/-! ## Terms, sources and leaves -/

/-- The term under other names. -/
def Term.rename : Term → Term
  | .var v => .var (σ v)
  | .const c => .const c

/-- The atom under other names. -/
def Formula.rename (a : Atom) : Atom := a.map (Term.rename σ)

/-- **The source under other names**: the same atoms in the same order, the same references and the same scope,
with each variable replaced. -/
def Expression.rename (e : Expression) : Expression where
  atoms := e.atoms.map (Formula.rename σ)
  dictionary := e.dictionary.mapValues σ
  scope := e.scope

/-- The leaf under other names. -/
def Leaf.rename : Leaf → Leaf
  | base relation columns => base relation (columns.map (Prod.map id σ))
  | catalog relation columns => catalog relation (columns.map (Prod.map id σ))
  | aliased relation exposed columns => aliased relation exposed (columns.map (Prod.map id σ))

namespace Dictionary

variable (d : Dictionary)

theorem bare?_mapValues (column : Identifier) :
    bare? (d.mapValues σ) column = (d.bare? column).map σ :=
  d.get?_mapValues σ _

theorem relations_mapValues : relations (d.mapValues σ) = d.relations := by
  rw [relations, SortedMap.keys_mapValues, relations]

theorem qualified_mapValues : qualified (d.mapValues σ) = d.qualified.mapValues σ :=
  (d.mapValues_filterKeys σ _).symm

theorem rebind_mapValues (bound : List (Identifier × Variable)) :
    (d.rebind bound).mapValues σ = rebind (d.mapValues σ) (bound.map (Prod.map id σ)) := by
  rw [rebind, rebind, List.foldl_map]
  exact (List.foldl_hom (SortedMap.mapValues σ) fun d e => (d.mapValues_insert σ (.bare e.1) e.2).symm).symm

end Dictionary

/-! ## One leaf -/

theorem Leaf.entries_rename (exposed : RelationId) (columns : List (Identifier × Variable)) :
    entries exposed (columns.map (Prod.map id σ)) = (entries exposed columns).map (Prod.map id σ) := by
  rw [entries, entries, List.flatMap_map, List.map_flatMap]
  rfl

namespace Expression

theorem ofAliased_rename (relation exposed : RelationId) (columns : List (Identifier × Variable)) :
    ofAliased relation exposed (columns.map (Prod.map id σ)) =
      (ofAliased relation exposed columns).rename σ := by
  refine (mk.injEq ..).mpr ⟨?_, ?_, ?_⟩
  · simp [ofAliased, Formula.rename, Formula.map, Term.rename, Function.comp_def]
  · rw [Leaf.ofAliased_dictionary, SortedMap.mapValues_ofList, ← Leaf.entries_rename]
    exact Leaf.ofAliased_dictionary relation exposed _
  · rw [List.foldl_map]
    rfl

theorem ofCatalog_rename (relation : RelationId) (columns : List (Identifier × Variable)) :
    ofCatalog relation (columns.map (Prod.map id σ)) = (ofCatalog relation columns).rename σ := by
  rw [ofCatalog, ofCatalog, ofBase, ofBase, ofAliased_rename]
  split
  · rw [rename, mk.injEq]
    refine ⟨rfl, ?_, rfl⟩
    rw [List.foldl_map]
    exact List.foldl_hom (SortedMap.mapValues σ) fun d c => (d.mapValues_insert σ _ c.2).symm
  · rfl

end Expression

/-- **The source of a renamed leaf** is the renamed source of the leaf. -/
theorem Leaf.expression_rename (l : Leaf) : (l.rename σ).expression = l.expression.rename σ := by
  cases l with
  | base relation columns => exact Expression.ofAliased_rename σ relation relation columns
  | catalog relation columns => exact Expression.ofCatalog_rename σ relation columns
  | aliased relation exposed columns => exact Expression.ofAliased_rename σ relation exposed columns

/-! ## One join -/

/-- Conditions of some kind are read over a renamed source as they are over the source itself. -/
def JoinCondition.Renames (κ : Type) [JoinCondition κ] : Prop :=
  ∀ (condition : κ) (σ : Variable → Variable) (source : Expression),
    JoinCondition.atoms condition (source.rename σ) =
      (JoinCondition.atoms condition source).map (List.map (Formula.rename σ))

namespace Expression

variable (x y : Expression)

@[simp] theorem rename_scope : (x.rename σ).scope = x.scope := rfl

theorem relations_rename : (x.rename σ).relations = x.relations :=
  x.dictionary.relations_mapValues σ

theorem bare?_rename (column : Identifier) :
    (x.rename σ).dictionary.bare? column = (x.dictionary.bare? column).map σ :=
  x.dictionary.bare?_mapValues σ column

/-- A reference denotes the renamed variable, and is refused alike. -/
theorem resolve_rename (r : Reference) : (x.rename σ).resolve r = (x.resolve r).map σ := by
  rw [resolve, resolve, rename, SortedMap.get?_mapValues]
  cases x.dictionary.get? r with
  | some v => rfl
  | none =>
    dsimp only [Option.map_none]
    split <;> rfl

theorem shared?_rename : shared? (x.rename σ) (y.rename σ) = shared? x y := by
  rw [shared?, shared?, relations_rename, relations_rename]

theorem qualifiedEntries_rename :
    qualifiedEntries (x.rename σ) (y.rename σ) = (qualifiedEntries x y).mapValues σ := by
  rw [qualifiedEntries, qualifiedEntries, SortedMap.mapValues_ofList, List.map_append, rename, rename,
    Dictionary.qualified_mapValues, Dictionary.qualified_mapValues]
  rfl

theorem bareEntries_rename :
    bareEntries (x.rename σ) (y.rename σ) = (bareEntries x y).map (Prod.map id σ) := by
  rw [bareEntries, bareEntries, List.map_filterMap, qualifiedEntries_rename]
  simp only [rename_scope]
  refine List.filterMap_congr fun name _ => ?_
  cases (x.scope.union y.scope).unique? name with
  | none => rfl
  | some relation =>
    simp only [Option.bind_eq_bind, Option.bind_some, SortedMap.get?_mapValues]
    cases (qualifiedEntries x y).get? (.qualified relation name) <;> rfl

theorem product_rename : product (x.rename σ) (y.rename σ) = (product x y).rename σ := by
  have hdictionary : (product (x.rename σ) (y.rename σ)).dictionary =
      (product x y).dictionary.mapValues σ := by
    rw [product_dictionary, product_dictionary, Dictionary.rebind_mapValues, qualifiedEntries_rename,
      bareEntries_rename]
  have hatoms : (product (x.rename σ) (y.rename σ)).atoms =
      (product x y).atoms.map (Formula.rename σ) :=
    List.map_append.symm
  exact (mk.injEq ..).mpr ⟨hatoms, hdictionary, rfl⟩

/-- A source that is extended is renamed with what it is extended by. -/
theorem extend_rename (atoms : List Atom) (bound : List (Identifier × Variable)) :
    (x.extend atoms bound).rename σ =
      (x.rename σ).extend (atoms.map (Formula.rename σ)) (bound.map (Prod.map id σ)) := by
  rw [extend, rename, extend, Dictionary.rebind_mapValues, List.map_append]
  rfl

theorem crossJoin_rename : crossJoin (x.rename σ) (y.rename σ) = (crossJoin x y).map (rename σ) := by
  rw [crossJoin, crossJoin, shared?_rename, product_rename]
  cases shared? x y <;> rfl

theorem bareVariables?_rename (column : Identifier) :
    bareVariables? (x.rename σ) (y.rename σ) column =
      (bareVariables? x y column).map (Prod.map id (Prod.map σ σ)) := by
  rw [bareVariables?, bareVariables?, bare?_rename, bare?_rename]
  cases x.dictionary.bare? column <;> cases y.dictionary.bare? column <;> rfl

theorem equalities_rename (pairs : List (Identifier × Variable × Variable)) :
    equalities (pairs.map (Prod.map id (Prod.map σ σ))) = (equalities pairs).map (Formula.rename σ) := by
  rw [equalities, equalities, List.map_map, List.map_map]
  exact List.map_congr_left fun p _ => rfl

theorem leftColumns_rename (pairs : List (Identifier × Variable × Variable)) :
    leftColumns (pairs.map (Prod.map id (Prod.map σ σ))) = (leftColumns pairs).map (Prod.map id σ) := by
  rw [leftColumns, leftColumns, List.map_map, List.map_map]
  rfl

theorem joinUsing_rename (columns : List Identifier) :
    joinUsing (x.rename σ) (y.rename σ) columns = (joinUsing x y columns).map (rename σ) := by
  rw [joinUsing, joinUsing, shared?_rename]
  -- the columns are checked against the scopes, and these are the same
  simp only [rename_scope]
  cases shared? x y with
  | some R => rfl
  | none =>
    dsimp only
    cases (firsts columns).find? fun c => x.scope.isAmbiguous c || y.scope.isAmbiguous c with
    | some column => rfl
    | none =>
      dsimp only
      cases (firsts columns).find? fun c => !x.scope.contains c || !y.scope.contains c with
      | some column => rfl
      | none =>
        dsimp only
        rw [mapM_eq_map (bareVariables?_rename σ x y), product_rename]
        simp only [← extend_equalities]
        cases (firsts columns).mapM (bareVariables? x y) with
        | error e => rfl
        | ok pairs =>
          rw [Except.map, ok_bind, ok_bind, equalities_rename, leftColumns_rename, ← extend_rename]
          rfl

variable {κ : Type} [JoinCondition κ]

theorem joinOn_rename (hκ : JoinCondition.Renames κ) (condition : κ) :
    joinOn (x.rename σ) (y.rename σ) condition = (joinOn x y condition).map (rename σ) := by
  rw [joinOn, joinOn, crossJoin_rename]
  cases crossJoin x y with
  | error e => rfl
  | ok joined =>
    rw [Except.map, ok_bind, ok_bind, hκ condition σ joined]
    cases JoinCondition.atoms condition joined with
    | error e => rfl
    | ok atoms =>
      have hatoms : (joined.addAtoms atoms).rename σ =
          (joined.rename σ).addAtoms (atoms.map (Formula.rename σ)) :=
        (mk.injEq ..).mpr ⟨List.map_append, rfl, rfl⟩
      exact congrArg Except.ok hatoms.symm

/-- **A join of any kind commutes with renaming.** -/
theorem join_rename (hκ : JoinCondition.Renames κ) (kind : JoinKind κ) :
    (x.rename σ).join (y.rename σ) kind = (x.join y kind).map (rename σ) := by
  cases kind with
  | cross => exact crossJoin_rename σ x y
  | on condition => exact joinOn_rename σ x y hκ condition
  | natural => exact joinUsing_rename σ x y _
  | «using» columns => exact joinUsing_rename σ x y columns

end Expression

/-! ## Trees -/

/-- **The source of a tree commutes with renaming.** -/
theorem JoinTree.source_rename {κ : Type} [JoinCondition κ] (hκ : JoinCondition.Renames κ)
    (t : JoinTree Leaf κ) : (t.map (Leaf.rename σ)).source = t.source.map (Expression.rename σ) := by
  induction t with
  | leaf l => exact congrArg Except.ok (l.expression_rename σ)
  | join kind left right ihl ihr =>
    rw [map, source_join, source_join, ihl, ihr]
    cases left.source with
    | error e => rfl
    | ok x =>
      cases right.source with
      | error e => rfl
      | ok y => exact x.join_rename σ y hκ kind

end FromClause
