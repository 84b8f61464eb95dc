import FromClause.Folding
/-!
# Relation definitions

A relation of the catalog: its id and its columns in declared order, no two of them with one name. A
declaration is the same before its names are normalised.
-/

namespace FromClause

/-- A declared column. -/
structure Column where
  /-- The normalised name. -/
  name : Identifier
  /-- The declared type, as it is written. -/
  type : Option String
  /-- Whether a value may be missing. -/
  nullable : Bool
  deriving DecidableEq

/-- What keeps a relation out of the catalog. -/
inductive CatalogError where
  /-- A name is no identifier. -/
  | name (error : NameError)
  /-- The catalog has the relation already. -/
  | duplicateRelation (relation : RelationId)
  /-- Two columns of the relation have one name. -/
  | duplicateColumn (relation : RelationId) (column : Identifier)
  deriving DecidableEq

/-- The wording of the error. -/
def CatalogError.message : CatalogError → String
  | name error => error.message
  | duplicateRelation relation => s!"[E004] Duplicate relation '{relation}' in catalog"
  | duplicateColumn relation column =>
    s!"[E005] Duplicate column '{column}' in relation '{relation}'"

/-- The first name that stands behind an equal one, or behind a name of `seen`. -/
def repeatedAfter? (seen : List Identifier) : List Identifier → Option Identifier
  | [] => none
  | name :: rest => if name ∈ seen then some name else repeatedAfter? (name :: seen) rest

theorem nodup_of_repeatedAfter?_eq_none {seen names : List Identifier}
    (h : repeatedAfter? seen names = none) : names.Nodup ∧ ∀ name ∈ names, name ∉ seen := by
  induction names generalizing seen with
  | nil => simp
  | cons name rest ih =>
    rw [repeatedAfter?] at h
    split at h
    next => cases h
    next hname =>
      obtain ⟨hnodup, hseen⟩ := ih h
      refine ⟨List.nodup_cons.2 ⟨fun hmem => hseen name hmem List.mem_cons_self, hnodup⟩, ?_⟩
      intro other hother
      rcases List.mem_cons.1 hother with rfl | hother
      · exact hname
      · exact fun hs => hseen other hother (List.mem_cons_of_mem _ hs)

/-- A relation of the catalog. -/
structure Definition where
  /-- The id of the relation. -/
  id : RelationId
  /-- The columns in declared order. -/
  columns : List Column
  /-- No two columns have one name. -/
  distinct : (columns.map (·.name)).Nodup

namespace Definition

/-- The definition with the given columns, unless two of them have one name. -/
def ofColumns (id : RelationId) (columns : List Column) : Except CatalogError Definition :=
  match h : repeatedAfter? [] (columns.map (·.name)) with
  | some name => .error (.duplicateColumn id name)
  | none => .ok ⟨id, columns, (nodup_of_repeatedAfter?_eq_none h).1⟩

/-- The number of columns. -/
def arity (d : Definition) : Nat := d.columns.length

/-- The column with the given name. -/
def column? (d : Definition) (name : Identifier) : Option Column :=
  d.columns.find? fun column => column.name = name

end Definition

/-- A column as a catalog text declares it. -/
structure ColumnDeclaration where
  /-- The name as written. -/
  name : String
  /-- The declared type. -/
  type : Option String
  /-- Whether a value may be missing. -/
  nullable : Bool
  deriving DecidableEq, Repr

/-- A relation as a catalog text declares it. -/
structure Declaration where
  /-- The schema as written. -/
  schema : Option String
  /-- The table name as written. -/
  name : String
  /-- The columns in declared order. -/
  columns : List ColumnDeclaration
  deriving DecidableEq, Repr

/-- The column with its name normalised. -/
def ColumnDeclaration.column (folding : Folding) (d : ColumnDeclaration) :
    Except NameError Column := do
  return ⟨← folding.read d.name, d.type, d.nullable⟩

/-- The relation with its names normalised. -/
def Declaration.definition (folding : Folding) (d : Declaration) :
    Except CatalogError Definition := do
  let id ← (folding.readRelation d.schema d.name).mapError .name
  let columns ← (d.columns.mapM (ColumnDeclaration.column folding)).mapError .name
  Definition.ofColumns id columns

end FromClause
