import BuildingModel.Sandbox.Tool.Rules.Work

/-!
# Working with rules

The program that works with rules: it reads them from its words or from files, sets the bench up,
and carries out what is to be done before the first record, with each record, and after the last
one.
-/

namespace BuildingModel.Sandbox.Tool.Rules

open Shell (Run)

/-! ## The words of the program -/

/-- What the words of the program tell. -/
structure Request where
  /-- What separates fields. -/
  separator : Option String := none
  /-- The words that set variables, the last first. -/
  settings : List String := []
  /-- The files that hold the rules, the last first. -/
  paths : List String := []
  /-- The other words. -/
  words : List String := []

/-- What the words of the program tell, or what is wrong with them. -/
def request (r : Request) : List String → Except String Request
  | [] => .ok r
  | "--" :: rest => .ok { r with words := rest }
  | [word] =>
    match word.toList with
    | '-' :: c :: value =>
      if value.isEmpty && "Fvf".contains c then
        .error ("option requires an argument -- " ++ c.toString)
      else match c with
        | 'F' => .ok { r with separator := some (String.ofList value) }
        | 'v' => .ok { r with settings := String.ofList value :: r.settings }
        | 'f' => .ok { r with paths := String.ofList value :: r.paths }
        | 'W' => .ok r
        | _ => .error ("not an option: " ++ word)
    | _ => .ok { r with words := [word] }
  | word :: next :: rest =>
    match word.toList with
    | ['-', 'F'] => request { r with separator := some next } rest
    | ['-', 'v'] => request { r with settings := next :: r.settings } rest
    | ['-', 'f'] => request { r with paths := next :: r.paths } rest
    | ['-', 'W'] => request r rest
    | '-' :: 'F' :: value =>
      request { r with separator := some (String.ofList value) } (next :: rest)
    | '-' :: 'v' :: value =>
      request { r with settings := String.ofList value :: r.settings } (next :: rest)
    | '-' :: 'f' :: value =>
      request { r with paths := String.ofList value :: r.paths } (next :: rest)
    | '-' :: 'W' :: _ => request r (next :: rest)
    | '-' :: _ :: _ => .error ("not an option: " ++ word)
    | _ => .ok { r with words := word :: next :: rest }

/-! ## The work -/

/-- Sets the variables that rules know. -/
def setUp (name : String) (r : Request) (operands : List String) : Working Unit := do
  for (x, value) in [("FS", " "), ("OFS", " "), ("ORS", "\n"), ("RS", "\n"), ("SUBSEP", "\x1c"),
      ("CONVFMT", "%.6g"), ("OFMT", "%.6g"), ("FILENAME", "")] do
    setVariable x (.text value)
  for x in ["NR", "FNR", "RSTART"] do setVariable x (.number 0)
  setVariable "RLENGTH" (.number (-1))
  let words := name :: operands
  setVariable "ARGC" (.ofNat words.length)
  let arguments ← addTable ((words.zip (List.range words.length)).foldl
    (fun t (word, i) => t.put (.number i) (.ofInput word)) {})
  setSlot "ARGV" (.table arguments)
  let environment ← addTable ((← Shell.environment).foldl
    (fun t (x, value) => t.put (.text x) (.ofInput value)) {})
  setSlot "ENVIRON" (.table environment)
  if let some s := r.separator then
    setVariable "FS" (.text (textWithin s.toList))
  for word in r.settings.reverse do assignArgument word

/-- What the work does, given a worker for what is within. -/
structure Shift where
  /-- The worker. -/
  worker : Worker
  /-- The rules, with their numbers. -/
  rules : List (Nat × Selector × Action)

namespace Shift

/-- Whether a rule applies to the record. -/
def applies (o : Shift) (i : Nat) (selector : Selector) : Working Bool := do
  let isTrue (t : Term) : Working Bool := do return (← o.worker.value t).isTrue
  match selector with
  | .start | .finish => return false
  | .always => return true
  | .test t => isTrue t
  | .range first last =>
    let isWithin := (← get).begun.contains i
    let begins ← if isWithin then pure true else isTrue first
    if !begins then return false
    let ends ← isTrue last
    modify fun b => { b with
      begun := if ends then b.begun.erase i else if isWithin then b.begun else i :: b.begun }
    return true

/-- Applies the rules to the record. -/
def applyAll (o : Shift) : Working Unit := do
  for (i, selector, action) in o.rules do
    if ← o.applies i selector then o.worker.act action

/-- Applies the rules to the records, so many at most. -/
def applyToRecords (o : Shift) : Nat → Working Unit
  | 0 => return
  | n + 1 => do
    match ← nextRecord? fileLimit with
    | none => return
    | some line =>
      setRecord (.ofInput line)
      try o.applyAll
      catch
        | .next => modify fun b => { b with locals := [] }
        | .nextFile => modify fun b => { b with locals := [], given := none }
        | other => throw other
      applyToRecords o n

/-- How many records there are at most. -/
def recordLimit : Nat := 1048576

/-- Does what is told before or after the records. -/
def doAll (o : Shift) (isAsked : Selector → Bool) : Working Unit := do
  for (_, selector, action) in o.rules do
    if isAsked selector then o.worker.act action

/-- Does what is told before the first record, with the records, and after the last. The end of the
work ends each of the first two, and it is not done twice. -/
def work (o : Shift) : Working Unit := do
  let isStart : Selector → Bool
    | .start => true
    | _ => false
  let isFinish : Selector → Bool
    | .finish => true
    | _ => false
  try
    o.doAll isStart
    if o.rules.any fun (_, selector, _) => !isStart selector then o.applyToRecords recordLimit
  catch
    | .exit => modify fun b => { b with locals := [] }
    | other => throw other
  o.doAll isFinish

end Shift

/-- The functions that are called in a text of rules but are not told. -/
def unknownCall? (tokens : List (Nat × Token)) (functions : List (String × Function)) :
    Option String :=
  tokens.findSome? fun (_, t) => match t with
    | .calling s => if functions.any (·.1 == s) then none else some s
    | _ => none

/-- Works with rules, which are given as a text. -/
def workWith (s : Surroundings) (name : String) (r : Request) (text : String)
    (operands : List String) : Run Nat := do
  let complain (message : String) : Run Nat := failWith 2 name message
  match RuleSet.read text, scan text with
  | .error message, _ | _, .error message => complain message
  | .ok set, .ok tokens =>
    if let some f := unknownCall? tokens set.functions then
      let line := text.toList.count '\n' + 2
      return ← complain ("line " ++ toString line ++ ": function " ++ f ++ " never defined")
    let rules := (List.range set.rules.length).zip set.rules
    let shift : Shift := ⟨worker s set.functions depthLimit, rules⟩
    let whole : Working Unit := do
      setUp name r operands
      shift.work
    let (ended, bench) ← (whole.run).run {}
    let finish (bench : Bench) : Run Unit := do
      let _ ← ((closeAll s).run).run bench
    match ended with
    | .error (.fault message) =>
      let status ← complain message
      finish bench
      return status
    | _ =>
      finish bench
      return bench.status

/-- What is said of how the program is used. -/
def usage : String := "Usage: mawk [Options] [Program] [file ...]\n"

/-- Works with the rules that words tell, in surroundings. -/
def awk (s : Surroundings) : Program := fun name words => do
  let name := (name.splitOn "/").getLastD name
  match request {} words with
  | .error message => failWith 2 name message
  | .ok r =>
    if r.paths.isEmpty then
      match r.words with
      | [] =>
        Shell.say 2 usage
        return 2
      | text :: operands => workWith s name r text operands
    else
      let mut texts := []
      for path in r.paths.reverse do
        match ← contents path with
        | .ok bytes => texts := octetsOf bytes :: texts
        | .error e =>
          return ← failWith 2 name ("cannot open \"" ++ path ++ "\" (" ++ e.words ++ ")")
      workWith s name r ("\n".intercalate texts.reverse) r.words

end BuildingModel.Sandbox.Tool.Rules
