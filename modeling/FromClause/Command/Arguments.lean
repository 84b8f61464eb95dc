/-!
# Arguments

What a command line asks for. Options stand in front of the subcommand or behind it; those that only a
subcommand has stand behind it. Arguments are taken from left to right, and the first one that asks for help, or
that is at fault, decides.
-/

namespace FromClause

namespace Command

/-! ## Options -/

/-- An option. -/
inductive Flag where
  /-- Tell more. -/
  | verbose
  /-- The directory of the project. -/
  | directory
  /-- The project file. -/
  | settings
  /-- The text of a statement. -/
  | sql
  /-- The file of a statement. -/
  | file
  /-- The format of the report. -/
  | output
  /-- Ask for help. -/
  | help
  /-- Ask for the version. -/
  | version
  deriving DecidableEq, Repr

namespace Flag

/-- The long name. -/
def long : Flag → String
  | verbose => "verbose"
  | directory => "project-dir"
  | settings => "config"
  | sql => "sql"
  | file => "file"
  | output => "output"
  | help => "help"
  | version => "version"

/-- The letter. -/
def short : Flag → Char
  | verbose => 'v'
  | directory => 'p'
  | settings => 'c'
  | sql => 's'
  | file => 'f'
  | output => 'o'
  | help => 'h'
  | version => 'V'

/-- Whether a value belongs to the option. -/
def takesValue : Flag → Bool
  | verbose | help | version => false
  | _ => true

end Flag

/-- The part of a command line that an argument is in. -/
inductive Level where
  /-- In front of the subcommand. -/
  | top
  /-- Behind the subcommand that shows the source of a statement. -/
  | source
  /-- Behind the subcommand that lists the catalog. -/
  | list
  deriving DecidableEq, Repr

namespace Level

/-- The options of a level. -/
def flags : Level → List Flag
  | top => [.verbose, .directory, .settings, .help, .version]
  | source => [.sql, .file, .output, .verbose, .directory, .settings, .help]
  | list => [.output, .verbose, .directory, .settings, .help]

/-- The level behind a subcommand. -/
def ofName? : String → Option Level
  | "from" => some source
  | "catalog" => some list
  | _ => none

end Level

/-! ## Reading options -/

/-- Why there is nothing to carry out. -/
inductive Stop where
  /-- Help on a level is asked for. -/
  | help (level : Level)
  /-- The version is asked for. -/
  | version
  /-- The command line is at fault. -/
  | misuse
  deriving DecidableEq, Repr

/-- How a report is shown. -/
inductive Format where
  /-- To people. -/
  | pretty
  /-- To other programs. -/
  | json
  deriving DecidableEq, Repr

/-- The format with the given name. -/
def Format.ofName? : String → Option Format
  | "pretty" => some pretty
  | "json" => some json
  | _ => none

/-- The options of a level that were given, with their values. -/
abbrev Given := List (Flag × String)

/-- One more option. None may be given twice on a level, and a format has to be one. -/
def Given.add (given : Given) (level : Level) (flag : Flag) (value : String) : Except Stop Given :=
  match flag with
  | .help => .error (.help level)
  | .version => .error .version
  | flag =>
    if (given.lookup flag).isSome then .error .misuse
    else if flag = .output && (Format.ofName? value).isNone then .error .misuse
    else .ok ((flag, value) :: given)

/-- Letters behind a single dash. The last of them may want a value that the letters do not hold. -/
def readLetters (level : Level) : Given → List Char → Except Stop (Given × Option Flag)
  | given, [] => .ok (given, none)
  | given, c :: letters =>
    match level.flags.find? (·.short = c) with
    | none => .error .misuse
    | some flag =>
      if flag.takesValue then
        match letters with
        | [] => .ok (given, some flag)
        | '=' :: value => do return (← given.add level flag (String.ofList value), none)
        | value => do return (← given.add level flag (String.ofList value), none)
      else do readLetters level (← given.add level flag "") letters

/-- A name behind two dashes, perhaps with a value behind an equals sign. -/
def readName (level : Level) (given : Given) (chars : List Char) :
    Except Stop (Given × Option Flag) := do
  let name := String.ofList (chars.takeWhile (· ≠ '='))
  match level.flags.find? (·.long = name), chars.dropWhile (· ≠ '=') with
  | none, _ => throw .misuse
  | some flag, [] =>
    if flag.takesValue then return (given, some flag)
    else return (← given.add level flag "", none)
  | some flag, _ :: value =>
    if flag.takesValue then return (← given.add level flag (String.ofList value), none)
    else throw .misuse

/-- Whether an argument can be the value of the option in front of it. -/
def isValue (arg : String) : Bool := arg = "-" || !arg.startsWith "-"

/-- The options at the front of some arguments, up to the first word. -/
def readOptions (level : Level) : Given → List String → Except Stop (Given × List String)
  | given, [] => .ok (given, [])
  | given, arg :: args =>
    let next (read : Except Stop (Given × Option Flag)) : Except Stop (Given × List String) := do
      match ← read with
      | (given, none) => readOptions level given args
      | (given, some flag) =>
        match args with
        | [] => throw .misuse
        | value :: args =>
          if isValue value then readOptions level (← given.add level flag value) args
          else throw .misuse
    match arg.toList with
    | ['-', '-'] => if args.isEmpty then .ok (given, []) else .error .misuse
    | '-' :: '-' :: name => next (readName level given name)
    | '-' :: c :: letters => next (readLetters level given (c :: letters))
    | _ => .ok (given, arg :: args)

/-! ## Requests -/

/-- Where a statement comes from. -/
inductive Statement where
  /-- From the command line. -/
  | text (sql : String)
  /-- From a file. -/
  | file (path : String)
  deriving DecidableEq, Repr

/-- What is to be done with a project. -/
inductive Action where
  /-- Show the source that the FROM clause of a statement denotes. -/
  | source (statement : Statement)
  /-- List the catalog. -/
  | list
  deriving DecidableEq, Repr

/-- What a command line asks for. -/
structure Request where
  /-- What is to be done. -/
  action : Action
  /-- How the report is shown. -/
  format : Format
  /-- The directory of the project. -/
  directory : String
  /-- The project file, unless it is the one of the directory. -/
  settings : Option String
  /-- Whether to tell more. -/
  verbose : Bool
  deriving DecidableEq, Repr

/-- The action behind a subcommand. A statement comes from exactly one place. -/
def actionOf (level : Level) (given : Given) : Except Stop Action :=
  match level with
  | .source =>
    match given.lookup .sql, given.lookup .file with
    | some sql, none => .ok (.source (.text sql))
    | none, some path => .ok (.source (.file path))
    | _, _ => .error .misuse
  | .list => .ok .list
  | .top => .error .misuse

/-- The request of a command line in two parts. An option that is given in both of them counts behind the
subcommand. -/
def requestOf (level : Level) (before behind : Given) : Except Stop Request := do
  let given := behind ++ before
  return {
    action := ← actionOf level behind
    format := ((given.lookup .output).bind Format.ofName?).getD .pretty
    directory := (given.lookup .directory).getD "."
    settings := given.lookup .settings
    verbose := (given.lookup .verbose).isSome }

/-- Why a request for help in words stops: for help on a subcommand, if there is such a subcommand. -/
def helpOn : List String → Stop
  | [] => .help .top
  | [word] =>
    match Level.ofName? word with
    | some level => .help level
    | none => if word = "help" then .help .top else .misuse
  | _ => .misuse

/-- What a command line asks for. -/
def request (args : List String) : Except Stop Request := do
  let (before, rest) ← readOptions .top [] args
  match rest with
  | [] => throw .misuse
  | word :: args =>
    match Level.ofName? word with
    | none => throw (if word = "help" then helpOn args else .misuse)
    | some level =>
      let (behind, rest) ← readOptions level [] args
      if rest.isEmpty then requestOf level before behind else throw .misuse

end Command

end FromClause
