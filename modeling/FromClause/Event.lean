import FromClause.Identifier
/-!
# Events

What happens on the way from a catalog and a statement to a result, for whoever wants to follow it: one value
per step, with its severity and its wording. Nothing is computed from events.
-/

namespace FromClause

/-- How much an event matters, from the most to the least. -/
inductive Severity where
  /-- The answer may not be what the user meant. -/
  | warning
  /-- A step that a user may want to follow. -/
  | debug
  /-- A detail of a step. -/
  | trace
  deriving DecidableEq, Repr

/-- The rank of a severity; a greater rank matters less. -/
def Severity.rank : Severity → Nat
  | warning => 0
  | debug => 1
  | trace => 2

/-- One step. -/
inductive Event where
  /-- A table name without a schema fits relations in several schemas. -/
  | severalSchemas (reference : RelationId)
  /-- A table name without a schema was found in the only schema that has it. -/
  | foundByTable (reference found : RelationId)
  /-- A relation of a catalog text was read. -/
  | relationRead (id : RelationId) (columns : Nat)
  /-- The catalog is complete. -/
  | catalogRead (relations files : Nat)
  /-- A project was loaded. -/
  | projectLoaded (name : String) (relations : Nat) (dialect : String)
  /-- A variable name was passed over because it is taken. -/
  | nameTaken (name : String)
  /-- A table reference became an expression. -/
  | leaf (relation exposed : RelationId) (columns : Nat)
  /-- A FROM clause became a tree. -/
  | treeBuilt (references : Nat)
  /-- Two sources are about to be joined. -/
  | joining (kind : String) (left right : Nat)
  /-- A condition was added to a join. -/
  | conditionAdded (atoms : Nat)
  /-- A natural join found its columns. -/
  | commonColumns (columns : Nat)
  /-- The join columns were equated. -/
  | columnsEquated (equalities : Nat)
  deriving DecidableEq

namespace Event

/-- The severity of an event. -/
def severity : Event → Severity
  | severalSchemas .. => .warning
  | relationRead .. | nameTaken .. | leaf .. => .trace
  | _ => .debug

/-- The wording of an event. -/
def message : Event → String
  | severalSchemas reference =>
    s!"Table name '{reference}' matches relations in several schemas; qualify it with a schema"
  | foundByTable reference found => s!"Resolved '{reference}' to '{found}' by table name"
  | relationRead id columns => s!"Catalog relation {id} with {columns} column(s)"
  | catalogRead relations files => s!"Loaded {relations} relation(s) from {files} catalog file(s)"
  | projectLoaded name relations dialect =>
    s!"Project '{name}': {relations} relation(s), {dialect} dialect"
  | nameTaken name => s!"Variable name '{name}' already issued, skipping"
  | leaf relation exposed columns => s!"Leaf {relation} as {exposed} with {columns} column(s)"
  | treeBuilt references => s!"FROM clause has {references} relation reference(s)"
  | joining kind left right => s!"Applying {kind} join over {left} and {right} relation(s)"
  | conditionAdded atoms => s!"JOIN ON added {atoms} atom(s)"
  | commonColumns columns => s!"NATURAL JOIN on {columns} common column(s)"
  | columnsEquated equalities => s!"JOIN USING added {equalities} equality atom(s)"

/-- The part of the program that tells of an event, as a log line names it. -/
def origin : Event → String
  | severalSchemas .. | foundByTable .. | relationRead .. | catalogRead .. => "obda_core::metadata"
  | projectLoaded .. => "obda::context"
  | nameTaken .. => "obda_core::term"
  | leaf .. => "obda_relation::expression"
  | treeBuilt .. => "obda_sql::from_clause"
  | joining .. => "obda_relation::join_tree"
  | conditionAdded .. | commonColumns .. | columnsEquated .. => "obda_relation::join"

end Event

end FromClause
