import BuildingModel.Sandbox.Shell.Check
import BuildingModel.Sandbox.Shell.Process

/-!
# Carrying out commands

`step` carries a command out, given what carries out the commands within it. `runCommand` is the
shell: it is its own `step`, down to a number of levels.
-/

namespace BuildingModel.Sandbox.Shell

/-! ## Loops -/

/-- How many turns a loop may take. -/
def turnLimit : Nat := 262144

/-- How many millionths of a second a turn takes at least. -/
def turnTime : Nat := 20

/-- A turn of a loop, which may be cut short: where to go on. -/
def takeTurn {σ : Type} (next work : Run (Option σ)) : Run (Option σ) := do
  spend turnTime
  match ← attempt work with
  | .ok s => return s
  | .error (.leave n) => if n ≤ 1 then return none else throw (.leave (n - 1))
  | .error (.again n) => if n ≤ 1 then next else throw (.again (n - 1))
  | .error halt => throw halt

/-- The turns of a loop. -/
def loop {σ : Type} (step : σ → Run (Option σ)) (limit : Nat) (s : σ) : Run Unit := do
  let loops := (← context).loops
  change ({ · with loops := loops + 1 })
  afterwards (iterate step limit s) (change ({ · with loops }))

/-- A loop that ends when its test fails, or when it succeeds. Its status is the one of its body. -/
def whileLoop (run : Runner) (tested untilTrue : Bool) (test body : Command) : Run Unit :=
  let step (last : Nat) : Run (Option Nat) :=
    takeTurn (do return some (← context).status) do
      run true test
      if (← succeeded) == untilTrue then
        setStatus last
        return none
      run tested body
      return some (← context).status
  loop step turnLimit 0

/-- A loop over values. -/
def eachLoop (run : Runner) (tested : Bool) (name : String) (values : List String)
    (body : Command) : Run Unit := do
  let step (values : List String) : Run (Option (List String)) :=
    match values with
    | [] => return none
    | value :: rest =>
      takeTurn (return some rest) do
        orEnd (assign name value)
        run tested body
        return some rest
  setStatus 0
  loop step (values.length + 1) values

/-- The value of an expression. -/
def reckonParts (run : Runner) (expression : List Part) : Run Int := do
  reckon (Glyph.text (← expandParts run expression))

/-- A loop with expressions, one before it, one that tells whether it goes on, and one after each
turn. An empty one that tells this lets it go on. -/
def countLoop (run : Runner) (tested : Bool) (start test next : List Part) (body : Command) :
    Run Unit := do
  let _ ← reckonParts run start
  let ready (s : Unit) : Run (Option Unit) := do
    let _ ← reckonParts run next
    return some s
  let step (s : Unit) : Run (Option Unit) :=
    takeTurn (ready s) do
      let text := Glyph.text (← expandParts run test)
      if !text.toList.all Sum.isSumBlank && (← reckon text) == 0 then return none
      run tested body
      ready s
  setStatus 0
  loop step turnLimit ()

/-! ## Choices -/

/-- The first command of a choice of which a pattern stands for a text. -/
def chosen (run : Runner) (subject : List Char) :
    List (List (List Part) × Command) → Run (Option Command)
  | [] => return none
  | (patterns, body) :: rest => do
    for pattern in patterns do
      if stands (← expandPattern run pattern) subject then return some body
    chosen run subject rest

/-! ## Names of commands -/

/-- The words that are no commands. -/
def isCommandKeyword (extended : Bool) (name : String) : Bool :=
  keywords.contains name || (extended && ["[[", "]]", "function"].contains name)

/-- Whether a name is one of a command of the shell itself. -/
def isBuiltin (extended : Bool) (name : String) : Bool :=
  carriers.contains name || (builtin? name).isSome
    || (extended && ["let", "source"].contains name)

/-- The path of a program that a command stands for. -/
def programPath? (name : String) : Run (Option String) := do
  let t ← tree
  let runs (path : String) : Bool := match t.find (textOf path) with
    | .ok (.file f) => f.runs
    | _ => false
  if name.contains '/' then return if runs name then some name else none
  return (((← valueOf "PATH").splitOn ":").map (FileTree.pathIn · name)).find? runs

/-- The path of a program that a command stands for, which is sought. -/
def seekProgram? (name : String) : Run (Option String) := do
  let path ← programPath? name
  if path.isSome && !name.contains '/' then
    change fun c =>
      { c with sought := if c.sought.contains name then c.sought else name :: c.sought }
  return path

/-- Tells what names stand for; whether all stand for something. -/
def describe (names : List String) : Run Nat := do
  let c ← context
  let mut status := 0
  for name in names do
    if isCommandKeyword c.extended name then say 1 (name ++ " is a shell keyword\n")
    else if let some text := (activeAliases c).lookup name then
      say 1 (name ++ " is an alias for " ++ text ++ "\n")
    else if (c.functions.lookup name).isSome then
      say 1 (name ++ if c.extended then " is a function\n" else " is a shell function\n")
    else if isBuiltin c.extended name then
      let kind := if !c.extended && specialNames.contains name then "special shell" else "shell"
      say 1 (name ++ " is a " ++ kind ++ " builtin\n")
    else
      let known := c.sought.contains name
      match ← (if c.extended then programPath? name else seekProgram? name) with
      | some path =>
        say 1 (name ++ " is " ++
          (if !known then path
           else if c.extended then "hashed (" ++ path ++ ")"
           else "a tracked alias for " ++ path) ++ "\n")
      | none =>
        if c.extended then
          complain ("type: " ++ name ++ ": not found")
          status := 1
        else
          say 1 (name ++ ": not found\n")
          status := 127
  return status

/-- Writes what a name stands for. -/
def nameCommand (name : String) : Run Nat := do
  let c ← context
  if let some text := (activeAliases c).lookup name then
    put ("alias " ++ aliasText name text ++ "\n")
  else if isCommandKeyword c.extended name || (c.functions.lookup name).isSome
      || isBuiltin c.extended name then
    put (name ++ "\n")
  else
    match ← (if c.extended then programPath? name else seekProgram? name) with
    | some path => put (path ++ "\n")
    | none => return if c.extended then 1 else 127

/-- Shows the paths of the programs that have been sought. -/
def showSought : Run Unit := do
  let names := (← context).sought.reverse
  for name in names.mergeSort fun a b => namePlace 31 a ≤ namePlace 31 b do
    if let some path ← programPath? name then say 1 (path ++ "\n")

/-- Seeks the programs that names stand for, or shows those that have been sought; whether all stand
for something. -/
def seekPrograms (words : List String) : Run Nat := do
  let (found, names) ← takeOptions { flags := "rv" } words
  if isTaken found 'r' then change ({ · with sought := [] })
  let c ← context
  if found.isEmpty && names.isEmpty && !c.extended then showSought
  let mut status := 0
  for name in names do
    if isBuiltin c.extended name || (c.functions.lookup name).isSome then continue
    if (← seekProgram? name).isNone then
      complain (name ++ ": not found")
      status := 1
  return status

/-! ## Simple commands -/

/-- How many functions may be carried out within each other. -/
def depthLimit : Nat := 1000

/-- Carries a function out. -/
def callFunction (run : Runner) (tested : Bool) (body : Command) (arguments : List String) :
    Run Unit := do
  let c ← context
  if c.depth ≥ depthLimit && !c.extended then
    give ("Maximum function recursion depth (" ++ toString depthLimit ++ ") reached")
  change fun c => { c with
    arguments, locals := [] :: c.locals, loops := 0, depth := c.depth + 1, closing := false
    optionIndex := 1, within := none }
  let r ← attempt (run tested body)
  for (name, v) in (← context).locals.headD [] do putVariable name v
  change fun d => { d with
    arguments := c.arguments, locals := c.locals, loops := c.loops, depth := c.depth
    optionIndex := c.optionIndex, within := c.within }
  match r with
  | .ok () | .error .return => return
  | .error halt => throw halt

/-- The file that a script is read from within a shell. -/
def sourcePath? (name : String) : Run (Option String) := do
  if name.contains '/' then return some name
  let t ← tree
  let isFile (path : String) : Bool := match t.find (textOf path) with
    | .ok (.file _) => true
    | _ => false
  let directories := (← valueOf "PATH").splitOn ":"
  let paths := directories.map (FileTree.pathIn · name)
  return (if (← context).extended then paths ++ [name] else paths).find? isFile

/-- Carries a script out within the shell. -/
def source (run : Runner) (words : List String) : Run Nat := do
  match words with
  | [] => return 0
  | name :: arguments =>
    let extended := (← context).extended
    match ← sourcePath? name with
    | none =>
      if extended then refuse (name ++ ": file not found") 1 else refuse (name ++ ": not found")
    | some path =>
      match (← tree).readBytes (textOf path) with
      | .error e => refuseOpening {} path e
      | .ok bytes =>
        let own := (← context).arguments
        if extended && !arguments.isEmpty then change ({ · with arguments })
        setStatus 0
        let r ← attempt (runWithin (run false) (some path) (scriptText bytes))
        if extended then change ({ · with arguments := own })
        match r with
        | .ok () | .error .return => return (← context).status
        | .error halt => throw halt

/-- Puts a program in place of the shell. -/
def replaceShell (start : Starter) (words : List String) : Run Nat := do
  if words.isEmpty then return 0
  change fun c => { c with
    closing := true, traps := c.traps.filter fun (n, action) => n != 0 && action.isEmpty }
  match ← launch start words with
  | some signal => throw (.killed signal)
  | none => throw .exit

/-- Gives the value of expressions; whether the last one is not zero. -/
def reckonAll (words : List String) : Run Nat := do
  let mut last := 0
  if words.isEmpty then refuse "expression expected" 1
  for word in words do last ← reckon word
  return if last == 0 then 1 else 0

/-- The commands of the shell itself that carry out others. -/
def carrier? (run : Runner) (tested : Bool) (start : Starter) (name : String) :
    Option (List String → Run Nat) :=
  match name with
  | "eval" => some fun words => do
      let text := " ".intercalate words
      if let .ok (none, _) := (readerOf (← context) text).command? then return 0
      runWithin (run tested) (some "eval") text
      return (← context).status
  | "." => some (source run)
  | "exec" => some (replaceShell start)
  | "type" => some describe
  | "hash" => some seekPrograms
  | _ => none

/-- Carries out a command of the shell itself. What it cannot carry out ends the shell if the
command is a special one. -/
def callBuiltin (special : Bool) (name : String) (work : Run Nat) : Run Unit := do
  let around := (← context).around
  change ({ · with around := some name })
  let r ← attempt work
  change ({ · with around })
  match r with
  | .ok status => setStatus status
  | .error .refused => if special && !(← context).extended then throw .exit
  | .error halt => throw halt

/-- Assigns one after another, as a value may need those before it, and has programs given what was
assigned if asked for; what was assigned. -/
def assignAll (run : Runner) (exports : Bool) (assignments : List (String × List Part)) :
    Run (List (String × String)) :=
  assignments.mapM fun (name, word) => do
    let value ← expandAssigned run word
    orEnd (assign name value)
    if exports then
      putVariable name ((← lookUp? name).map ({ · with exported := true }))
    return (name, value)

/-- Work under assignments that are taken back after it, given what was assigned. -/
def withAssignments (run : Runner) (assignments : List (String × List Part))
    (work : List (String × String) → Run Unit) : Run Unit := do
  let old ← assignments.mapM fun (name, _) => return (name, ← lookUp? name)
  afterwards (do work (← assignAll run true assignments)) do
    for (name, v) in old.reverse do putVariable name v

/-- What a command stands for. -/
inductive Meaning where
  /-- A command of the shell itself, which may be a special one. -/
  | builtin (special : Bool) (work : Run Nat)
  /-- A function. -/
  | function (body : Command)
  /-- A program. -/
  | program

/-- What a command stands for. A plain one is no function, and nothing special. -/
def meaningOf (run : Runner) (tested : Bool) (start : Starter) (plain : Bool) (name : String)
    (arguments : List String) : Run Meaning := do
  let c ← context
  let special := specialNames.contains name
  let function := if plain || (special && !c.extended) then none else c.functions.lookup name
  match function with
  | some body => return .function body
  | none =>
    match (carrier? run tested start name).orElse fun _ => builtin? name with
    | some work => return .builtin (special && !plain) (work arguments)
    | none =>
      if name == "source" && c.extended then return .builtin false (source run arguments)
      if name == "let" && c.extended then return .builtin false (reckonAll arguments)
      return .program

/-- Tells what a name stands for, in some words or in more. -/
def tellCommand (inFull : Bool) (names : List String) : Run Nat := do
  match names with
  | [] => return 0
  | name :: _ => if inFull then describe [name] else nameCommand name

/-- Whether a character is shown without quotes. -/
def isPlainChar (c : Char) : Bool := c.isAlphanum || "-_./=:,@%+".contains c

/-- Shows what is carried out. -/
def trace (extended : Bool) (words : List String) : Run Unit := do
  let shown (s : String) : String :=
    if extended && (s.isEmpty || !s.toList.all isPlainChar) then
      "'" ++ s ++ "'"
    else s
  say 2 ((← valueOf "PS4") ++ " ".intercalate (words.map shown) ++ "\n")

/-- Shows assignments and words if that is asked for. -/
def traceIfAsked (assignments : List (String × String)) (words : List String) : Run Unit := do
  if ← hasOption 'x' then
    trace (← context).extended (assignments.map (fun (x, v) => x ++ "=" ++ v) ++ words)

/-- Carries out a command with a name. After `command` it is no function, and nothing special. -/
def callNamed (run : Runner) (tested plain : Bool) (assignments : List (String × List Part))
    (name : String) (arguments : List String) (redirections : List Redirection) : Run Unit := do
  let start := starter run
  match ← meaningOf run tested start plain name arguments with
  | .builtin special work =>
    let call (done : List (String × String)) : Run Unit := do
      traceIfAsked done (name :: arguments)
      callBuiltin special name work
    let inPlace : Run Unit := do
      if special then call (← assignAll run false assignments)
      else withAssignments run assignments call
    if name == "exec" then
      orEnd (redirectAll run redirections)
      if arguments.isEmpty then setStatus 0 else inPlace
    else
      match ← attempt (redirected run redirections inPlace) with
      | .error .refused => if special && !(← context).extended then throw .exit
      | .error halt => throw halt
      | .ok () => return
  | .function body =>
    redirected run redirections do
      withAssignments run assignments fun done => do
        traceIfAsked done (name :: arguments)
        callFunction run tested body arguments
  | .program =>
    redirected run redirections do
      let _ ← seekProgram? name
      withAssignments run assignments fun done => do
        traceIfAsked done (name :: arguments)
        endProcess (← launch start (name :: arguments))

/-- Carries out a command with a name that may come after `command`. -/
def callWords (run : Runner) (tested : Bool) (assignments : List (String × List Part))
    (name : String) (arguments : List String) (redirections : List Redirection) : Run Unit := do
  if name != "command" then
    return ← callNamed run tested false assignments name arguments redirections
  let refused : Run Unit := callBuiltin false name (do
    let _ ← takeOptions { flags := "pvV" } arguments
    return 0)
  let options := arguments.takeWhile fun s => s.startsWith "-" && s != "-" && s != "--"
  let rest := arguments.drop options.length
  let rest := if rest.head? == some "--" then rest.drop 1 else rest
  let letters := (options.map fun s => s.toList.drop 1).flatten
  if !letters.all ("pvV".contains ·) then return ← redirected run redirections refused
  let path ← lookUp? "PATH"
  if letters.contains 'p' then putVariable "PATH" (some { value := some defaultPath })
  let restore : Run Unit := if letters.contains 'p' then putVariable "PATH" path else pure ()
  afterwards
    (match rest with
      | [] => setStatus 0
      | name :: arguments =>
        if letters.contains 'v' || letters.contains 'V' then
          redirected run redirections (do setStatus (← tellCommand (letters.contains 'V') rest))
        else callNamed run tested true assignments name arguments redirections)
    restore

/-- Carries out a simple command. -/
def simple (run : Runner) (tested : Bool) (line : Nat) (assignments : List (String × List Part))
    (words : List (List Part)) (redirections : List Redirection) : Run Unit := do
  change ({ · with line, taken := 0 })
  match ← expandCommand run words with
  | [] =>
    redirected run redirections do
      let done ← assignAll run false assignments
      traceIfAsked done []
    change fun c => { c with status := c.taken }
  | name :: arguments => callWords run tested assignments name arguments redirections

/-! ## Commands -/

/-- Seeks the program of a simple command whose name is written as it is. -/
def seekAhead : Command → Run Unit
  | .simple _ _ (word :: _) _ => do
    let c ← context
    match plain? word with
    | some name =>
      let isOwn := isBuiltin c.extended name || (c.functions.lookup name).isSome
      if isName name && !isOwn && !c.extended then
        let _ ← seekProgram? name
    | none => return
  | _ => return

/-- Carries out commands of which each reads what the one before it writes. The status is that of
the last one; if that is asked for, that of the last one that failed. -/
def pipe (tested : Bool) (commands : List Command) : Run Unit := do
  let _ ← claimPlace
  let statuses ← awaitAll (← startAll tested (← context).descriptors commands)
  let last := statuses.getLastD 0
  if (← context).extended && (← hasOption 'P') then
    setStatus ((statuses.reverse.find? (· != 0)).getD 0)
  else setStatus last

/-- Whether a command that fails ends the shell where that is asked for. -/
def isChecked : Command → Bool
  | .simple _ _ _ _ | .subshell _ _ _ | .background _ | .pipeline _ => true
  | _ => false

/-- Goes on after redirections that cannot be carried out. -/
def unlessRefused (work : Run Unit) : Run Unit := do
  match ← attempt work with
  | .error .refused | .ok () => return
  | .error halt => throw halt

/-- Carries a command out, without what follows it. -/
def carryOut (run : Runner) (tested : Bool) : Command → Run Unit
  | .simple line assignments words redirections =>
    unlessRefused (simple run tested line assignments words redirections)
  | .redirected line body redirections => do
    change ({ · with line })
    unlessRefused (redirected run redirections (goingOn (run tested body)))
  | .subshell line body redirections => do
    change ({ · with line })
    inSubshell tested (.subshell line body redirections)
  | .background body => spawn body
  | .pipeline commands => do
    commands.forM seekAhead
    pipe tested commands
  | .negation body => do
    run true body
    setStatus (if ← succeeded then 1 else 0)
  | .conjunction first second => do
    run true first
    if ← succeeded then run tested second
  | .alternative first second => do
    run true first
    if !(← succeeded) then run tested second
  | .block [] => setStatus 0
  | .block commands => commands.forM (run tested)
  | .branch test yes no => do
    run true test
    if ← succeeded then run tested yes else run tested no
  | .loop untilTrue test body => whileLoop run tested untilTrue test body
  | .each line name values body => do
    change ({ · with line })
    eachLoop run tested name (← expandAll run values) body
  | .count line start test next body => do
    change ({ · with line })
    countLoop run tested start test next body
  | .select line subject items => do
    change ({ · with line })
    let subject ← expandWhole run subject
    match ← chosen run subject.toList items with
    | some body => run tested body
    | none => setStatus 0
  | .define name body => do
    change fun c => { c with
      functions := (name, body) :: c.functions.filter (·.1 != name), status := 0 }
  | .evaluate line expression => do
    change ({ · with line })
    let text := Glyph.text (← expandParts run expression)
    setStatus (if (← reckon text) == 0 then 1 else 0)
  | .check line words => do
    change ({ · with line })
    check run words

/-- Carries a command out, does what is done on signals, and ends the shell after a failure if that
is asked for. -/
def step (run : Runner) : Runner := fun tested command => do
  if ← hasOption 'n' then return
  carryOut run tested command
  runPending run
  if isChecked command && !tested then
    if (← hasOption 'e') && !(← succeeded) then throw .exit

/-- The signal of a process that goes too deep. -/
def overflowSignal : Nat := 11

/-- Carries out commands, down to so many levels. -/
def runCommand : Nat → Runner
  | 0 => fun _ _ => throw (.killed overflowSignal)
  | n + 1 => step (runCommand n)

/-- How deep commands may be. -/
def levelLimit : Nat := 16384

/-- The shell. -/
def shell : Runner := runCommand levelLimit

end BuildingModel.Sandbox.Shell
