import FromClause.Command.Run
/-!
# The program

The command over the files of the system.
-/

namespace FromClause

namespace Command

/-- Why the system could not read a file. A path that goes through a file as if it were a directory leads
nowhere. -/
def readFailure : IO.Error → ReadFailure
  | .noFileOrDirectory .. => .missing
  | .inappropriateType _ 21 _ => .directory
  | .inappropriateType .. => .missing
  | error => .other (toString error)

/-- What the system reads at a path. -/
def readFile (path : String) : IO Reading := do
  match ← (IO.FS.readBinFile path).toBaseIO with
  | .error error => return .error (readFailure error)
  | .ok bytes =>
    match String.fromUTF8? bytes with
    | some text => return .ok text
    | none => return .error .notText

end Command

end FromClause

/-- Carries out a command line. -/
def main (args : List String) : IO UInt32 := do
  let outcome ← FromClause.Command.run FromClause.Command.readFile args
  IO.eprint outcome.errors
  IO.print outcome.output
  return outcome.code.toUInt32
