import BuildingModel.Sandbox.Shell.Setting
import BuildingModel.Sandbox.Shell.Signal
import BuildingModel.Sandbox.Tool.Finding
import BuildingModel.Sandbox.Tool.Numbers
import BuildingModel.Sandbox.Tool.Rules.Session

/-!
# Programs that start programs

Some programs start other programs: `env` does so with other variables, `xargs` with words that it
reads, `find` for files that it finds, `awk` where its rules tell, and some do so in surroundings of
another kind. How a program is started is given to them.
-/

namespace BuildingModel.Sandbox.Shell

/-- Starts a process with variables; the signal by which it was killed. -/
abbrev Starter := List (String × String) → Process → Run (Option Nat)

/-! ## Other variables -/

/-- The words between the blanks of a text. Quotes keep a word together. -/
def blankWords (s : String) : List String :=
  let (done, word, _) := s.toList.foldl
    (fun (done, word, quote) c =>
      match quote with
      | some q => if c == q then (done, word, none) else (done, word.map (·.push c), some q)
      | none =>
        if c == '"' || c == '\'' then (done, some (word.getD ""), some c)
        else if " \t\n".contains c then (word.toList ++ done, none, none)
        else (done, some ((word.getD "").push c), none))
    (([], none, none) : List String × Option String × Option Char)
  (word.toList ++ done).reverse

/-- The variables and the words that are left after the options of `env`, or what is wrong with
them. An option may be split into words, which count against a number of steps. -/
def envOptions (bindings : List (String × String)) :
    Nat → List String → Except String (List (String × String) × List String)
  | 0, _ => .error "too many options"
  | n + 1, words =>
    match words with
    | "-" :: rest | "-i" :: rest | "--ignore-environment" :: rest => envOptions [] n rest
    | "--" :: rest => .ok (bindings, rest)
    | "-u" :: name :: rest => envOptions (bindings.filter (·.1 != name)) n rest
    | "-S" :: s :: rest => envOptions bindings n (blankWords s ++ rest)
    | word :: rest =>
      let value := (word.drop 2).toString
      if word.startsWith "--unset=" then
        envOptions (bindings.filter (·.1 != (word.drop 8).toString)) n rest
      else if word.startsWith "--split-string=" then
        envOptions bindings n (blankWords (word.drop 15).toString ++ rest)
      else if word.startsWith "--" then .error ("unrecognized option '" ++ word ++ "'")
      else if word == "-u" || word == "-S" then
        .error ("option requires an argument -- '" ++ value ++ (word.drop 1).toString ++ "'")
      else if word.startsWith "-u" then
        envOptions (bindings.filter (·.1 != value)) n rest
      else if word.startsWith "-S" then envOptions bindings n (blankWords value ++ rest)
      else if word.startsWith "-i" then envOptions [] n (("-" ++ value) :: rest)
      else if word.startsWith "-" then
        .error ("invalid option -- '" ++ ((word.drop 1).take 1).toString ++ "'")
      else .ok (bindings, words)
    | [] => .ok (bindings, [])

/-- How many options `env` may be given. -/
def envLimit : Nat := 4096

/-- The process of a program that is sought where variables tell. -/
def programNamed (bindings : List (String × String)) (program : String) (arguments : List String) :
    Run (Except FileError Process) := do
  let t ← tree
  let searched := (bindings.lookup "PATH").getD "/bin:/usr/bin"
  return FileTree.startByName (t.startOrShell · (program :: arguments)) searched program

/-- The work of `env`: it starts a program with other variables, or writes them. -/
def runEnv (start : Starter) (words : List String) : Run Unit := do
  let name := words.headD "env"
  match envOptions (← environment) envLimit (words.drop 1) with
  | .error message => setStatus (← Tool.misuse 125 name message)
  | .ok (bindings, words) =>
    let assignments := words.takeWhile (·.contains '=')
    let set (vs : List (String × String)) (word : String) : List (String × String) :=
      let (x, value) := splitAssignment word
      (x, value.getD "") :: vs.filter (·.1 != x)
    let bindings := assignments.foldl set bindings
    match words.drop assignments.length with
    | [] =>
      for (x, value) in bindings.reverse do say 1 (x ++ "=" ++ value ++ "\n")
      setStatus 0
    | program :: arguments =>
      match ← programNamed bindings program arguments with
      | .ok p =>
        match ← start bindings p with
        | some signal => throw (.killed signal)
        | none => return
      | .error e =>
        Tool.report name (Tool.quoted program ++ ": " ++ e.words)
        if program.contains ' ' && e == .notFound then
          say 2 (name ++ ": use -[v]S to pass options in shebang lines\n")
        setStatus (if e == .notFound then 127 else 126)

/-! ## Words that are read -/

/-- Rows of words that are being read, each the words of a line. -/
structure WordRows where
  /-- The rows that are complete, the last first. -/
  rows : List (List String) := []
  /-- The row that is not, the last word first. -/
  row : List String := []
  /-- The word that is not, the last character first. -/
  word : Option (List Char) := none
  /-- The quote that is open. -/
  quote : Option Char := none
  /-- Whether the last character keeps the next one from meaning something. -/
  escapes : Bool := false
  /-- Whether the last character is a blank. -/
  afterBlank : Bool := false
  /-- What is wrong. -/
  fault : Option String := none

namespace WordRows

/-- With one more character in the word. -/
def push (c : Char) (r : WordRows) : WordRows :=
  { r with word := some (c :: r.word.getD []), escapes := false, afterBlank := false }

/-- With the word complete. -/
def endWord (r : WordRows) : WordRows :=
  match r.word with
  | some word => { r with row := String.ofList word.reverse :: r.row, word := none }
  | none => r

/-- With the row complete. -/
def endRow (r : WordRows) : WordRows :=
  let r := r.endWord
  if r.row.isEmpty then r else { r with rows := r.row.reverse :: r.rows, row := [] }

/-- With what is wrong with a quote that is not closed. -/
def unclosed (quote : Char) (r : WordRows) : WordRows :=
  { r with fault := some ("unmatched " ++ (if quote == '"' then "double" else "single")
      ++ " quote; by default quotes are special to xargs unless you use the -0 option") }

/-- The rows after one more character. Whole lines may be words. -/
def add (wholeLines : Bool) (r : WordRows) (c : Char) : WordRows :=
  if r.fault.isSome then r
  else if r.escapes then r.push c
  else match r.quote with
    | some q =>
      if c == q then { r with quote := none }
      else if c == '\n' then r.unclosed q
      else r.push c
    | none =>
      if c == '\\' then { r with escapes := true }
      else if c == '"' || c == '\'' then { r with quote := some c, word := some (r.word.getD []) }
      else if c == '\n' then
        let joins := r.afterBlank && !wholeLines
        { (if joins then r.endWord else r.endRow) with afterBlank := false }
      else if c == ' ' || c == '\t' then
        if !wholeLines then { r.endWord with afterBlank := true }
        else if r.word.isNone then r
        else r.push c
      else r.push c

/-- The rows of words of a text, and what is wrong with it. -/
def ofText (wholeLines : Bool) (s : String) : List (List String) × Option String :=
  let r := s.toList.foldl (add wholeLines) {}
  let r := match r.quote, r.fault with
    | some q, none => r.unclosed q
    | _, _ => r
  let r := if r.fault.isSome then { r with word := none }.endRow else r.endRow
  (r.rows.reverse, r.fault)

end WordRows

/-- The pieces of a list, of so many elements each but for the last. -/
def chunks {α : Type} (size : Nat) : Nat → List α → List (List α)
  | 0, _ | _, [] => []
  | n + 1, xs => xs.take size :: chunks size n (xs.drop size)

/-- The options of `xargs`. -/
def eachGrammar : Tool.Grammar where
  flags := "0rtpx"
  valued := "adEILnPs"
  early := true
  names := [("null", '0'), ("arg-file", 'a'), ("delimiter", 'd'), ("replace", 'I'),
    ("max-lines", 'L'), ("max-args", 'n'), ("max-procs", 'P'), ("interactive", 'p'),
    ("no-run-if-empty", 'r'), ("max-chars", 's'), ("verbose", 't'), ("exit", 'x')]

/-- A word with an option whose value is a part of it written as one that needs its value. -/
def withOwnValue (word : String) : String :=
  let value := (word.drop 2).toString
  if word.startsWith "-i" then "-I" ++ (if value.isEmpty then "\x7b\x7d" else value)
  else if word.startsWith "-l" then "-L" ++ (if value.isEmpty then "1" else value)
  else if word.startsWith "-e" then "-E" ++ (if value.isEmpty then "\x00" else value)
  else word

/-- The words of the options in front, with those whose value is a part of them written as ones that
need their values; and the other words. -/
def ownValues (g : Tool.Grammar) : List String → List String
  | [] => []
  | [word] => [withOwnValue word]
  | word :: next :: rest =>
    if !word.startsWith "-" || word == "-" || word == "--" then word :: next :: rest
    else
      let needs := word.length == 2 && word.toList.all fun c => c == '-' || g.valued.contains c
      if needs then word :: next :: ownValues g rest
      else withOwnValue word :: ownValues g (next :: rest)

/-- What is wrong with the numbers among the options. -/
def numberFault? (p : Tool.Parsed) : Option String :=
  p.options.findSome? fun (c, value) =>
    if !"nLPs".contains c then none
    else match value.toNat? with
      | none => some ("invalid number \"" ++ value ++ "\" for -" ++ c.toString ++ " option")
      | some 0 =>
        if c == 'P' then none
        else some ("value 0 for -" ++ c.toString ++ " option should be >= 1")
      | some _ => none

/-- The words that are read as options ask for: the arguments of each command, and what is wrong
with the text. -/
def eachRows (p : Tool.Parsed) (text : String) : List (List String) × Option String :=
  let number (c : Char) : Option Nat := (p.value? c).bind String.toNat?
  let separator := if p.has '0' then some "\x00"
    else (p.value? 'd').map fun s => match s with
      | "\\n" => "\n"
      | "\\t" => "\t"
      | "\\0" => "\x00"
      | other => other
  let (rows, fault) := match separator with
    | some mark =>
      let pieces := text.splitOn mark
      let pieces := if pieces.getLast? == some "" then pieces.dropLast else pieces
      (pieces.map ([·]), none)
    | none => WordRows.ofText (p.value? 'I').isSome text
  let rows := match p.value? 'E' with
    | some mark =>
      let before := rows.takeWhile (!·.contains mark)
      let last := ((rows.drop before.length).headD []).takeWhile (· != mark)
      if last.isEmpty then before else before ++ [last]
    | none => rows
  let commands := match number 'L', number 'n' with
    | some n, _ => (chunks n rows.length rows).map List.flatten
    | none, some n =>
      let words := rows.flatten
      chunks n words.length words
    | none, none =>
      if (p.value? 'I').isSome then rows
      else if rows.isEmpty then [] else [rows.flatten]
  let runsAnyway := commands.isEmpty && !p.has 'r' && (p.value? 'I').isNone
  (if runsAnyway then [[]] else commands, fault)

/-- Starts a program once; the status with which all ends at once, or whether it was successful. -/
def startOnce (start : Starter) (name : String) (words : List String) :
    Run (Except Nat Bool) := do
  let bindings ← environment
  let program := words.headD ""
  match ← programNamed bindings program (words.drop 1) with
  | .error e =>
    Tool.report name (Tool.plainly program e)
    return .error (if e == .notFound then 127 else 126)
  | .ok process =>
    match ← start bindings process with
    | some signal =>
      Tool.report name (program ++ ": terminated by signal " ++ toString signal)
      return .error 125
    | none =>
      let status := (← context).status
      if status != 255 then return .ok (status == 0)
      Tool.report name (program ++ ": exited with status 255; aborting")
      return .error 124

/-- Starts a program for each of several rows of words; the status. -/
def startEach (start : Starter) (name : String) (p : Tool.Parsed) (rows : List (List String)) :
    Run Nat := do
  let command := if p.operands.isEmpty then ["echo"] else p.operands
  let mut fine := true
  for row in rows do
    let words := match p.value? 'I' with
      | some mark => command.map (·.replace mark (row.headD ""))
      | none => command ++ row
    if p.has 't' then say 2 (" ".intercalate words ++ "\n")
    match ← startOnce start name words with
    | .ok isFine => if !isFine then fine := false
    | .error status => return status
  return if fine then 0 else 123

/-- The work of `xargs`: it starts a program with words that it reads. -/
def runEach (start : Starter) (words : List String) : Run Unit := do
  let name := words.headD "xargs"
  match eachGrammar.parse (ownValues eachGrammar (words.drop 1)) with
  | .error message => setStatus (← Tool.misuse 1 name message)
  | .ok p =>
    if let some message := numberFault? p then
      setStatus (← Tool.misuse 1 name message)
      return
    let bytes ← match p.value? 'a' with
      | some path =>
        match ← Tool.contents path with
        | .ok bytes => pure bytes
        | .error e =>
          Tool.report name ("Cannot open input file " ++ Tool.quoted path ++ ": " ++ e.words)
          setStatus 1
          return
      | none => Tool.input
    let (rows, fault) := eachRows p (octetsOf bytes)
    if let some message := fault then Tool.report name message
    let work := startEach start name p rows
    let status ←
      if (p.value? 'a').isSome then work
      else
        let i ← addChannel .void
        withDescriptor 0 i work
    setStatus (if status == 0 && fault.isSome then 1 else status)

/-! ## Rules -/

/-- What is added to the number of a signal that has ended a command. -/
def killedStatus : Nat := 256

/-- Carries a command out in a shell of its own; its status. -/
def commandStatus (start : Starter) (text : String) : Run Nat := do
  let bindings ← environment
  match ← programNamed bindings "/bin/sh" ["-c", text] with
  | .error _ => return 127
  | .ok process =>
    match ← start bindings process with
    | some signal => return killedStatus + signal
    | none => return (← context).status

/-- The work of `awk`: it works with rules, which may carry commands out. -/
def runRules (start : Starter) (words : List String) : Run Unit := do
  let work := Tool.Rules.awk ⟨commandStatus start⟩
  setStatus (← work (words.headD "awk") (words.drop 1))

/-! ## Files that are found -/

/-- The work of `find`: it seeks files, and may carry commands out for them. -/
def runFind (start : Starter) (words : List String) : Run Unit := do
  let name := words.headD "find"
  let carryOut (words : List String) : Run Nat := do
    let bindings ← environment
    let program := words.headD ""
    match ← programNamed bindings program (words.drop 1) with
    | .error e =>
      Tool.report name (Tool.quoted program ++ ": " ++ e.words)
      return 1
    | .ok process =>
      match ← start bindings process with
      | some _ => return 1
      | none => return (← context).status
  setStatus (← Tool.find carryOut name (words.drop 1))

/-! ## Other surroundings -/

/-- Starts a program, and has its status. -/
def startHere (start : Starter) (name complaint : String) (words : List String) :
    Run (Option Nat) := do
  let bindings ← environment
  let program := words.headD ""
  match ← programNamed bindings program (words.drop 1) with
  | .ok process => start bindings process
  | .error e =>
    Tool.report name (complaint ++ Tool.quoted program ++ ": " ++ e.words)
    setStatus (if e == .notFound then 127 else 126)
    return none

/-- The complaint of programs that only start another one. -/
def startComplaint : String := "failed to run command "

/-- The work of a program that starts another one in surroundings in which it does the same. -/
def runSame (start : Starter) (g : Tool.Grammar) (complaint : String) (words : List String) :
    Run Unit := do
  let name := words.headD ""
  match { g with early := true }.parse (words.drop 1) with
  | .error message => setStatus (← Tool.misuse 125 name message)
  | .ok p =>
    if p.operands.isEmpty then setStatus (← Tool.misuse 125 name "missing operand")
    else if let some signal := ← startHere start name complaint p.operands then
      throw (.killed signal)

/-- The work of `nice`, which tells how nice it is or starts a program. -/
def runNice (start : Starter) (words : List String) : Run Unit := do
  let name := words.headD "nice"
  let g : Tool.Grammar := { valued := "n", names := [("adjustment", 'n')] }
  match { g with early := true }.parse (words.drop 1) with
  | .error message => setStatus (← Tool.misuse 125 name message)
  | .ok p =>
    let wrong := (p.value? 'n').filter fun s => s.toInt?.isNone
    if let some s := wrong then
      setStatus (← Tool.failWith 125 name ("invalid adjustment " ++ Tool.quoted s))
    else if p.operands.isEmpty then
      Tool.sayLine "0"
      setStatus 0
    else if let some signal := ← startHere start name "" p.operands then throw (.killed signal)

/-- The options of `timeout`. -/
def limitGrammar : Tool.Grammar where
  flags := "v~!"
  valued := "ks"
  early := true
  names := [("preserve-status", '~'), ("foreground", '!'), ("verbose", 'v'), ("kill-after", 'k'),
    ("signal", 's')]

/-- The work of `timeout`: it starts a program that may not wait longer than told. -/
def runLimited (start : Starter) (words : List String) : Run Unit := do
  let name := words.headD "timeout"
  match limitGrammar.parse (words.drop 1) with
  | .error message => setStatus (← Tool.misuse 125 name message)
  | .ok p =>
    let sent := (p.value? 's').getD "TERM"
    match signal? true sent, p.operands with
    | none, _ => setStatus (← Tool.misuse 125 name (Tool.quoted sent ++ ": invalid signal"))
    | _, [] | _, [_] =>
      Tool.hint name
      setStatus 125
    | some signal, time :: command =>
      match Tool.seconds? time with
      | none =>
        setStatus (← Tool.misuse 125 name ("invalid time interval " ++ Tool.quoted time))
      | some limit =>
        let outer ← context
        let work := startHere start name startComplaint command
        match ← (if limit == 0 then return some (← work) else within (Tool.ticks limit) work) with
        | none =>
          change fun _ => outer
          for (process, above) in (← get).live do
            if above.contains outer.own then post process signal
          if p.has 'v' then
            Tool.report name ("sending signal " ++ signalWord signal ++ " to command "
              ++ Tool.quoted (command.headD ""))
          if signal == 9 then throw (.killed signal)
          setStatus (if p.has '~' then 128 + signal else 124)
        | some none => return
        | some (some signal) => setStatus (128 + signal)

end BuildingModel.Sandbox.Shell
