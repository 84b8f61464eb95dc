import FromClause.Command.Arguments
import FromClause.Project.Load
import FromClause.Report.Listing
import FromClause.Report.Source
import FromClause.Lowering.Clause
/-!
# The command

From a command line to what is printed and the exit code. Reading files is left open. What there is to tell goes
to the error output in front of the error, if there is one.
-/

namespace FromClause

namespace Command

/-- What the command leaves behind. -/
structure Outcome where
  /-- The exit code. -/
  code : Nat
  /-- The output. -/
  output : String
  /-- The error output. -/
  errors : String
  deriving DecidableEq, Repr

/-! ## Failures -/

/-- Why a request could not be carried out: what was tried, and what stood against it, the nearest first. -/
structure Failure where
  /-- What was tried. -/
  context : String
  /-- What stood against it. -/
  causes : List String
  deriving DecidableEq, Repr

/-- A text whose lines after the first are indented. -/
def indented (spaces : Nat) (text : String) : String :=
  ("\n" ++ String.ofList (List.replicate spaces ' ')).intercalate (text.splitOn "\n")

/-- A cause with its number. -/
def numbered (cause : String × Nat) : String :=
  let number := toString cause.2
  String.ofList (List.replicate (5 - number.length) ' ') ++ number ++ ": " ++ indented 7 cause.1

/-- The failure as it is shown. Several causes are numbered. -/
def Failure.text (f : Failure) : String :=
  let causes := match f.causes with
    | [cause] => ["    " ++ indented 4 cause]
    | causes => causes.zipIdx.map numbered
  "Error: " ++ f.context ++
    (if causes.isEmpty then "" else "\n\nCaused by:" ++ String.join (causes.map ("\n" ++ ·))) ++ "\n"

/-- The failure that an error of a project is, in a context. -/
def Failure.ofProject (context : String) (e : ProjectError) : Failure :=
  ⟨context, e.message :: e.cause?.toList⟩

/-! ## Events -/

/-- The name of a severity in a log line. -/
def severityName : Severity → String
  | .warning => "WARN "
  | .debug => "DEBUG"
  | .trace => "TRACE"

/-- An event as a log line. -/
def logLine (e : Event) : String :=
  "[" ++ severityName e.severity ++ " " ++ e.origin ++ "] " ++ indented 4 e.message ++ "\n"

/-- The events that are shown: warnings, and the steps as well if more is to be told. -/
def shown (verbose : Bool) (events : List Event) : List Event :=
  let least := if verbose then Severity.debug else Severity.warning
  events.filter fun e => e.severity.rank ≤ least.rank

/-! ## Requests -/

/-- A step of a request, which has told some events by the time that it ends. -/
abbrev Step (m : Type → Type) (α : Type) := ExceptT Failure (StateT (List Event) m) α

variable {m : Type → Type} [Monad m]

/-- A step of the loading of a project, in a context. -/
def loading {α : Type} (context : String) (step : Loading m α) : Step m α :=
  ExceptT.adapt (Failure.ofProject context) step

/-- The settings of a project. -/
def settings (read : String → m Reading) (r : Request) : Step m Settings :=
  match r.settings with
  | some path => loading "Failed to load configuration file" (Loading.settings read path)
  | none => loading "Failed to load project configuration" (Loading.settingsIn read r.directory)

/-- The text of a statement. -/
def statementText (read : String → m Reading) : Statement → Step m String
  | .text sql => return sql
  | .file path => do
    match ← (read path : m Reading) with
    | .ok sql => return sql
    | .error failure => throw ⟨"Failed to read SQL file: " ++ path, [failure.message]⟩

/-- The source that the FROM clause of a statement denotes. -/
def sourceOf (d : Sql.Dialect) (c : Catalog) (sql : String) : Step m Expression := do
  let (result, progress) := (Lowering.text d c sql).run .start
  modify (· ++ progress.events)
  match result with
  | .ok e => return e
  | .error e => throw ⟨"Failed to translate FROM clause", [e.message]⟩

/-- The report on a source. -/
def sourceReport (e : Expression) : Format → String
  | .pretty => e.listing
  | .json => e.report.text ++ "\n"

/-- The report on a catalog. -/
def catalogReport (s : Settings) (c : Catalog) : Format → String
  | .pretty =>
    s.name ++ " (" ++ s.dialect.name ++ " dialect, " ++ toString c.size ++ " relation(s))\n" ++ c.tables
  | .json => c.report.text ++ "\n"

/-- What a request prints. -/
def carryOut (read : String → m Reading) (r : Request) : Step m String := do
  let s ← settings read r
  let c ← loading "Failed to load catalog" (Loading.catalog read s r.directory)
  modify (· ++ [.projectLoaded s.name c.size s.dialect.name])
  match r.action with
  | .list => return catalogReport s c r.format
  | .source statement =>
    let sql ← statementText read statement
    return sourceReport (← sourceOf s.dialect c sql) r.format

/-! ## Command lines -/

/-- The name and the version of the command. -/
def versionText : String := "obda 0.1.0\n"

/-- How the options of a level are written. -/
def optionLine (flag : Flag) : String :=
  "  -" ++ flag.short.toString ++ ", --" ++ flag.long ++ if flag.takesValue then " <VALUE>" else ""

/-- How a level is used. -/
def usage : Level → String
  | .top => "Usage: obda [OPTIONS] <COMMAND>\n\nCommands:\n  from\n  catalog\n  help\n"
  | .source => "Usage: obda from [OPTIONS] <--sql <SQL>|--file <FILE>>\n"
  | .list => "Usage: obda catalog [OPTIONS]\n"

/-- The help on a level. -/
def helpText (level : Level) : String :=
  usage level ++ "\nOptions:\n" ++ Report.lines (level.flags.map optionLine)

/-- The outcome of a command line that asks for nothing to be carried out. -/
def stopped : Stop → Outcome
  | .help level => ⟨0, helpText level, ""⟩
  | .version => ⟨0, versionText, ""⟩
  | .misuse => ⟨2, "", usage .top⟩

/-- The outcome of a command line. -/
def run (read : String → m Reading) (args : List String) : m Outcome := do
  match request args with
  | .error stop => return stopped stop
  | .ok r =>
    let (result, events) ← (carryOut read r).run.run []
    let log := String.join ((shown r.verbose events).map logLine)
    match result with
    | .ok output => return ⟨0, output, log⟩
    | .error failure => return ⟨1, "", log ++ failure.text⟩

end Command

end FromClause
