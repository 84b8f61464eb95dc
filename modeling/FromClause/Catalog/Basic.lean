import FromClause.Catalog.Definition
import FromClause.Data.SortedMap
import FromClause.Event
/-!
# The catalog

The relations that a FROM clause may name. A reference without a schema is looked up as it stands first; when
no relation has exactly that id, it stands for the only relation of that table name in any schema.
-/

namespace FromClause

/-- The relations known by name, with the folding that normalises references to them. -/
structure Catalog where
  /-- How names are normalised. -/
  folding : Folding
  /-- The definitions under their ids. -/
  relations : SortedMap RelationId Definition
  /-- Every definition stands under its own id. -/
  keyed : ∀ e ∈ relations.entries, e.2.id = e.1

/-- What a reference stands for. -/
inductive Lookup where
  /-- The relation with exactly this id. -/
  | exact (definition : Definition)
  /-- The only relation with this table name. -/
  | byTable (definition : Definition)
  /-- Several relations with this table name, none of them with exactly this id. -/
  | ambiguous
  /-- No relation at all. -/
  | missing

namespace Lookup

/-- The relation found. -/
def definition? : Lookup → Option Definition
  | exact d | byTable d => some d
  | ambiguous | missing => none

/-- What is to be told about the look-up of a reference. -/
def events (reference : RelationId) : Lookup → List Event
  | byTable d => [.foundByTable reference d.id]
  | ambiguous => [.severalSchemas reference]
  | exact _ | missing => []

end Lookup

namespace Catalog

/-- The catalog without relations. -/
def empty (folding : Folding) : Catalog := ⟨folding, ∅, nofun⟩

/-- The definitions in the order of their ids. -/
def definitions (c : Catalog) : List Definition := c.relations.values

/-- The number of relations. -/
def size (c : Catalog) : Nat := c.relations.size

/-- The catalog with one more relation, unless its id is taken. -/
def add (c : Catalog) (d : Definition) : Except CatalogError Catalog :=
  if c.relations.contains d.id then .error (.duplicateRelation d.id)
  else .ok ⟨c.folding, c.relations.insert d.id d, fun _ he =>
    match SortedMap.mem_insertEntry he with
    | .inl h => h ▸ rfl
    | .inr h => c.keyed _ h⟩

/-- What a reference stands for. -/
def lookup (c : Catalog) (reference : RelationId) : Lookup :=
  match c.relations.get? reference with
  | some d => .exact d
  | none =>
    if reference.hasSchema then .missing
    else
      match c.definitions.filter fun d => d.id.table = reference.table with
      | [] => .missing
      | [d] => .byTable d
      | _ => .ambiguous

/-- The relation that a reference stands for. -/
def get? (c : Catalog) (reference : RelationId) : Option Definition :=
  (c.lookup reference).definition?

/-! ## Loading -/

/-- What became of a list of declarations. -/
structure Loaded where
  /-- The catalog with every relation up to the first failure. -/
  catalog : Catalog
  /-- The first failure. -/
  failure : Option CatalogError
  /-- What there is to tell. -/
  events : List Event

/-- The catalog with the declared relations added in order. The first one that cannot be added ends the
loading, and those before it stay. -/
def declare (c : Catalog) : List Declaration → Loaded
  | [] => ⟨c, none, []⟩
  | declaration :: rest =>
    match declaration.definition c.folding with
    | .error e => ⟨c, some e, []⟩
    | .ok d =>
      let event := .relationRead d.id d.arity
      match c.add d with
      | .error e => ⟨c, some e, [event]⟩
      | .ok c =>
        let loaded := c.declare rest
        { loaded with events := event :: loaded.events }

end Catalog

end FromClause
