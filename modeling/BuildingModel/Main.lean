import BuildingModel.CommandLine.Run
import Std.Time.DateTime

/-!
# The program

The world of the command line: files are read from the file system, the environment and the clock
are those of the process. Other programs are not started, so a template is rendered only as far as
the call of its evaluator.
-/

namespace BuildingModel.CommandLine

/-- The number of an error, which is reported with either sign. -/
def errorNumber (code : UInt32) : Nat :=
  min code.toNat (-code).toNat

/-- The cause of a failed reading. -/
def cause : IO.Error → FileError
  | .noFileOrDirectory _ _ _ => .notFound
  | .permissionDenied _ _ _ => .permissionDenied
  | .inappropriateType _ code _ =>
    if errorNumber code == 20 then .notADirectory else .isADirectory
  | .invalidArgument _ code details =>
    if errorNumber code == 36 then .nameTooLong else .other details
  | e => .other e.toString

/-- The text of a file. -/
def readFile (path : String) : IO (Except FileError String) := do
  match ← (IO.FS.readBinFile path).toBaseIO with
  | .error e => return .error (cause e)
  | .ok bytes =>
    match String.fromUTF8? bytes with
    | some s => return .ok s
    | none => return .error .notText

/-- A number with at least so many digits. -/
def padded (width : Nat) (n : Int) : String :=
  let digits := (toString n.toNat).toList
  String.ofList (List.replicate (width - digits.length) '0' ++ digits)

/-- A date with its time, in universal time. -/
def timeText (t : Std.Time.PlainDateTime) : String :=
  padded 4 t.year.toInt ++ "-" ++ padded 2 t.month.val ++ "-" ++ padded 2 t.day.val
    ++ "T" ++ padded 2 t.hour.val ++ ":" ++ padded 2 t.minute.val ++ ":" ++ padded 2 t.second.val
    ++ "." ++ padded 9 t.nanosecond.val ++ "+00:00"

/-- The world of the process. -/
def process : World IO where
  readText := readFile
  run := fun _ => return .error (.notStarted (.other "Operation not supported (os error 95)"))
  environment := fun name => IO.getEnv name
  now := do
    let now ← Std.Time.Timestamp.now
    return timeText (.ofWallTime (now.toWallTime .zero))

end BuildingModel.CommandLine

/-- Runs the command that the arguments name. -/
def main (args : List String) : IO UInt32 := do
  let outcome ← BuildingModel.CommandLine.run BuildingModel.CommandLine.process args
  IO.print outcome.output
  IO.eprint outcome.errors
  return outcome.code.toUInt32
