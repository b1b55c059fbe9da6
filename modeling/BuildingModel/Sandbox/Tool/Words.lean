import BuildingModel.Sandbox.Shell.Condition
import BuildingModel.Sandbox.Shell.Format
import BuildingModel.Sandbox.Tool.Basic

/-!
# Programs on words

The programs that write or test the words they are given, or their surroundings.
-/

namespace BuildingModel.Sandbox.Tool

open Shell (Run say)

/-- The escapes of words that are written. -/
def echoRules : Shell.EscapeRules := { zero := true, hexadecimal := true }

/-- Writes its arguments. -/
def echo : Program := fun _ words => do
  let options := words.takeWhile fun s =>
    s.length > 1 && s.startsWith "-" && (s.toList.drop 1).all ("neE".contains ·)
  let letters := (options.map String.toList).flatten
  let text := " ".intercalate (words.drop options.length)
  let (s, ended) :=
    if (letters.reverse.find? fun c => c == 'e' || c == 'E') == some 'e' then
      Shell.unescape echoRules text.length text.toList
    else (text.toList, false)
  say 1 (String.ofList (if letters.contains 'n' || ended then s else s ++ ['\n']))
  return 0

/-- How formats are read. -/
def formatRules : Shell.FormatRules where
  own := { hexadecimal := true, unicode := true, quotes := "\"" }
  argument := { zero := true, hexadecimal := true, unicode := true, quotes := "\"" }
  stops := true
  modifiers := "hjlLtz"
  quote := some Shell.betweenQuotes

/-- What is wrong with a number. -/
def numberFault (argument : String) : Shell.NumberFault → String
  | .none => quoted argument ++ ": expected a numeric value"
  | .more => quoted argument ++ ": value not completely converted"
  | .large => quoted argument ++ ": Numerical result out of range"

/-- Writes its arguments in a format. -/
def printf : Program := fun name words => do
  let words := if words.head? == some "--" then words.drop 1 else words
  match words with
  | [] => misuse 1 name "missing operand"
  | format :: arguments =>
    let w := Shell.Format.write formatRules format arguments
    for (argument, fault) in w.faults.reverse do report name (numberFault argument fault)
    say 1 (Shell.Format.output w)
    match w.invalid, w.arguments with
    | some s, _ => failWith 1 name (s ++ ": invalid conversion specification")
    | none, extra :: _ =>
      if !w.ended then
        report name ("warning: ignoring excess arguments, starting with " ++ quoted extra)
      return statusOf w.faults.isEmpty
    | none, [] => return statusOf w.faults.isEmpty

/-- Tests a condition. -/
def test : Program := fun name words => do
  match Shell.Condition.holds true (← Shell.tree) words with
  | .ok p => return if p then 0 else 1
  | .error fault => failWith 2 name (fault.programText words)

/-- Tests a condition before a bracket. -/
def bracket : Program := fun name words => do
  if words.getLast? != some "]" then failWith 2 name "missing ']'" else test name words.dropLast

/-- Writes variables. -/
def printenv : Program := fun name words =>
  withOptions { flags := "0", early := true, names := [("null", '0')] } 2 name words fun p => do
    let bindings ← Shell.environment
    let ending : UInt8 := if p.has '0' then 0 else 10
    if p.operands.isEmpty then
      for (x, v) in bindings.reverse do sayLine (x ++ "=" ++ v) ending
      return 0
    onEach p.operands fun x => do
      match bindings.lookup x with
      | some v =>
        sayLine v ending
        return true
      | none => return false

/-- Writes the working directory. -/
def pwd : Program := fun name words =>
  withOptions { flags := "LP", names := [("logical", 'L'), ("physical", 'P')] } 1 name words
      fun p => do
    if !p.operands.isEmpty then report name "ignoring non-option arguments"
    sayLine (octets ("/" ++ "/".intercalate (← Shell.context).here))
    return 0

end BuildingModel.Sandbox.Tool
