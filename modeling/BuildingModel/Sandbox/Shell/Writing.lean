import BuildingModel.Sandbox.Shell.Condition
import BuildingModel.Sandbox.Shell.Format
import BuildingModel.Sandbox.Shell.State

/-!
# Commands that write and test

The commands of the shell itself that write their arguments, and those that test them. Each gives
its status.
-/

namespace BuildingModel.Sandbox.Shell

/-- Writes the output of a command. -/
def put (s : String) : Run Nat := do
  if ← write 1 (bytesOf s) then return 0
  complain (((← context).around.map (· ++ ": ")).getD "" ++ "I/O error")
  return 1

/-- The escapes of arguments that a shell writes. -/
def echoRules : EscapeRules := { zero := true }

/-- The escapes of arguments that the extended shell writes. -/
def extendedEchoRules : EscapeRules :=
  { zero := true, octal := false, hexadecimal := true, unicode := true }

/-- Joins arguments, carries their escapes out, and ends the line. -/
def echoText (rules : Option EscapeRules) (line : Bool) (words : List String) : String :=
  let s := " ".intercalate words
  let (s, ended) := match rules with
    | some rules => unescape rules s.length s.toList
    | none => (s.toList, false)
  String.ofList (if line && !ended then s ++ ['\n'] else s)

/-- Whether an argument is a row of options of the extended echo. -/
def isEchoOption (s : String) : Bool :=
  s.length > 1 && s.startsWith "-" && (s.toList.drop 1).all ("neE".contains ·)

/-- Writes its arguments. -/
def echo (words : List String) : Run Nat := do
  if (← context).extended then
    let options := words.takeWhile isEchoOption
    let letters := (options.map String.toList).flatten
    let escapes := (letters.reverse.find? fun c => c == 'e' || c == 'E') == some 'e'
    put (echoText (if escapes then some extendedEchoRules else none) (!letters.contains 'n')
      (words.drop options.length))
  else
    match words with
    | "-n" :: words => put (echoText (some echoRules) false words)
    | _ => put (echoText (some echoRules) true words)

/-- What is wrong with a number, in the words of a shell. -/
def numberFault (extended : Bool) (argument : String) : NumberFault → String
  | .none => argument ++ (if extended then ": invalid number" else ": expected numeric value")
  | .more => argument ++ (if extended then ": invalid number" else ": not completely converted")
  | .large =>
    (if extended then "warning: " else "") ++ argument ++ ": Numerical result out of range"

/-- How the extended shell reads formats. -/
def extendedRules : FormatRules where
  own := { hexadecimal := true, unicode := true, quotes := "\"'?" }
  argument := { zero := true, hexadecimal := true, unicode := true }
  modifiers := "hjlLtz"
  quote := some backslashed

/-- Writes arguments in a format, in the extended shell, or sets a variable to what is written. -/
def extendedPrintf (words : List String) : Run Nat := do
  let usage : Run Nat := do
    say 2 "printf: usage: printf [-v var] format [arguments]\n"
    return 2
  let (target, words) := match words with
    | "-v" :: name :: rest => (some name, rest)
    | _ => (none, words)
  let dashed := words.head? == some "--"
  let words := if dashed then words.drop 1 else words
  match words with
  | [] => usage
  | "-v" :: _ =>
    complain "-v: option requires an argument"
    usage
  | format :: arguments =>
    if format.startsWith "-" && format.length > 1 && !dashed then
      complain ((format.take 2).toString ++ ": invalid option")
      return ← usage
    let w := Format.write extendedRules format arguments
    for (argument, fault) in w.faults.reverse do complain (numberFault true argument fault)
    if let some s := w.invalid then
      complain (if w.lacking then "\x60" ++ s ++ "': missing format character"
        else "\x60" ++ String.ofList (s.toList.getLast?.toList) ++ "': invalid format character")
    let status ← match target with
      | some name =>
        assign name (Format.output w)
        pure 0
      | none => put (Format.output w)
    return if w.faults.all (·.2 == .large) && w.invalid.isNone then status else 1

/-- Writes its arguments in a format. -/
def printf (words : List String) : Run Nat := do
  if (← context).extended then return ← extendedPrintf words
  let dashed := words.head? == some "--"
  let words := if dashed then words.drop 1 else words
  match words with
  | [] => refuse "usage: printf format [arg ...]"
  | format :: arguments =>
    if format.startsWith "-" && format.length > 1 && !dashed then
      refuse ("Illegal option " ++ (format.take 2).toString)
    let w := Format.write {} format arguments
    for (argument, fault) in w.faults.reverse do complain (numberFault false argument fault)
    if let some s := w.invalid then
      complain (if w.lacking then "missing format character" else s ++ ": invalid directive")
      setStatus 2
    let status ← put (Format.output w)
    if w.invalid.isSome then throw .refused
    return if w.faults.isEmpty then status else 1

/-- Tests a condition. -/
def test (words : List String) : Run Nat := do
  let extended := (← context).extended
  match Condition.holds extended (← tree) words with
  | .ok p => return if p then 0 else 1
  | .error fault => refuse (if extended then fault.extendedText words else fault.text)

/-- Tests a condition before a bracket. -/
def bracket (words : List String) : Run Nat := do
  if words.getLast? != some "]" then
    refuse (if (← context).extended then "missing \x60]'" else "missing ]")
  test words.dropLast

end BuildingModel.Sandbox.Shell
