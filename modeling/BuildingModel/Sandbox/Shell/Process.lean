import BuildingModel.Sandbox.Shell.Errand
import BuildingModel.Sandbox.Shell.Redirect
import BuildingModel.Sandbox.Tool.Table

/-!
# Processes

A shell starts programs as processes of their own: they have the files and the channels in common
with it, and are given variables. A program is another shell, one that starts programs itself, or
one of the table of programs.
-/

namespace BuildingModel.Sandbox.Shell

/-! ## Shells -/

/-- The directories in which a shell seeks programs if it is told nothing else. -/
def defaultPath : String := "/usr/local/sbin:/usr/local/bin:/usr/sbin:/usr/bin:/sbin:/bin"

/-- The variables that a shell sets itself. -/
def ownSettings : List (String × String) :=
  [("IFS", " \t\n"), ("OPTIND", "1"), ("PATH", defaultPath),
   ("PS1", "# "), ("PS2", "> "), ("PS4", "+ ")]

/-- The context of a process, given what it is called by, its variables, and the context in which it
is started. -/
def processContext (name : String) (bindings : List (String × String)) (c : Context) : Context where
  name := name
  bindings := bindings.map fun (x, value) => (x, { value := some value, exported := true })
  descriptors := c.descriptors
  here := c.here
  mask := c.mask
  own := c.own
  shell := c.own
  outer := c.outer
  above := c.above
  kept := c.kept
  traps := c.traps.filter fun (signal, action) => signal != 0 && action.isEmpty

/-- Sets the variables that a shell sets itself where they are not given. -/
def setUp : Run Unit := do
  for (name, value) in ownSettings do
    if (← lookUp? name).isNone then putVariable name (some { value := some value })
  let c ← context
  let parent := c.ancestors.headD firstProcess
  putVariable "PPID" (some { value := some (toString parent) })
  let here := octets (pathOf c.here)
  putVariable "PWD" (some { value := some here, exported := true })

/-- The options that only the extended shell knows. -/
def longOptions : List String :=
  ["--login", "--noediting", "--noprofile", "--norc", "--posix"]

/-- How many bytes of a script the extended shell looks at. -/
def binaryFront : Nat := 80

/-- The text of a script. -/
def scriptText (bytes : List UInt8) : String :=
  octetsOf (bytes.filter (· != 0))

/-- Carries out the script that a shell is given: a text, a file, or what it reads. -/
def runScript (run : Runner) (words : List String) : Run Unit := do
  let c ← context
  if c.options.contains 'c' then
    match words with
    | [] =>
      if c.extended then
        say 2 (c.name ++ ": -c: option requires an argument\n")
        setStatus 2
      else refuse "-c requires an argument"
    | text :: rest =>
      change ({ · with name := rest.headD c.name, arguments := rest.drop 1 })
      runText (run false) text
  else if c.options.contains 's' || words.isEmpty then
    change ({ · with arguments := words })
    runText (run false) (scriptText (← Tool.input))
  else
    let path := words.headD ""
    change ({ · with arguments := words.drop 1 })
    match (← tree).readBytes (textOf path) with
    | .ok bytes =>
      change ({ · with name := path })
      if c.extended && (bytes.take binaryFront).contains 0 then
        say 2 (path ++ ": " ++ path ++ ": cannot execute binary file\n")
        setStatus 126
      else runText (run false) (scriptText bytes)
    | .error e =>
      if c.extended then
        say 2 (c.name ++ ": " ++ path ++ ": " ++ e.words ++ "\n")
        setStatus (if e == .notFound then 127 else 126)
      else if e != .isADirectory then refuseOpening {} path e

/-- The work of a shell, given what it is called by and its arguments. -/
def runShell (run : Runner) (extended : Bool) (words : List String) : Run Unit := do
  setUp
  let words := words.drop 1
  let rest ← turnOptions "cls" (if extended then words.filter (!longOptions.contains ·) else words)
  change ({ · with extended })
  untilEnd run (runScript run (rest.getD []))

/-! ## Starting -/

/-- How many millionths of a second it takes to start a process. -/
def startTime : Nat := 1000

/-- Starts processes, which may replace themselves so many times. -/
def startProcess (run : Runner) : Nat → Starter
  | 0, _, _ => return some 9
  | n + 1, bindings, p =>
    inProcess do
      spend startTime
      change (processContext (p.words.headD "") bindings)
      match p.program with
      | "sh" | "dash" => runShell run false p.words
      | "bash" => runShell run true p.words
      | "env" => runEnv (startProcess run n) p.words
      | "xargs" => runEach (startProcess run n) p.words
      | "awk" | "mawk" => runRules (startProcess run n) p.words
      | "find" => runFind (startProcess run n) p.words
      | "nice" => runNice (startProcess run n) p.words
      | "nohup" => runSame (startProcess run n) {} startComplaint p.words
      | "setsid" => runSame (startProcess run n) { flags := "cfw" } "failed to execute " p.words
      | "stdbuf" => runSame (startProcess run n) { valued := "ioe" } startComplaint p.words
      | "timeout" => runLimited (startProcess run n) p.words
      | program => setStatus (← Tool.run program p.words)

/-- How often a process may replace itself. -/
def replacementLimit : Nat := 256

/-- Starts processes. -/
def starter (run : Runner) : Starter := startProcess run replacementLimit

/-! ## Commands that are programs -/

/-- Why a command is no program, and the status that tells it. -/
abbrev Missing := FileError × Nat

/-- The status for a file that is no program. -/
def missingStatus (e : FileError) : Nat :=
  if [.notFound, .notADirectory, .nameTooLong, .tooManyLinks].contains e then 127 else 126

/-- The program of a command, which is sought in directories, after an error. -/
def programWithin (t : FileTree) (words : List String) (name : String) (last : Missing) :
    List String → Except Missing Process
  | [] => .error last
  | directory :: rest =>
    let path := FileTree.pathIn directory name
    match t.find (textOf path) with
    | .error .notFound | .error .notADirectory => programWithin t words name last rest
    | .error e => programWithin t words name (e, 127) rest
    | .ok .directory => programWithin t words name (.permissionDenied, 127) rest
    | .ok (.file _) =>
      match t.startOrShell path words with
      | .ok p => .ok p
      | .error .notFound | .error .notADirectory => programWithin t words name last rest
      | .error e => programWithin t words name (e, missingStatus e) rest

/-- The program of a command. -/
def programOf (words : List String) : Run (Except Missing Process) := do
  let t ← tree
  let name := words.headD ""
  if name.contains '/' then
    match t.startOrShell name words with
    | .ok p => return .ok p
    | .error e =>
      let isOther := (← context).extended && e == .notADirectory
      return .error (e, if isOther then 126 else missingStatus e)
  else
    let directories := (← valueOf "PATH").splitOn ":"
    return programWithin t words name (.notFound, 127) directories

/-- What is wrong with a command that is no program. -/
def missingText (name : String) (e : FileError) : Run String := do
  let c ← context
  if c.extended then
    let isDirectory := match (← tree).find (textOf name) with
      | .ok .directory => true
      | _ => false
    let isFile := match (← tree).find (textOf name) with
      | .ok (.file _) => true
      | _ => false
    return if !name.contains '/' then
        if e == .notFound then "command not found" else e.words
      else if isDirectory then "Is a directory"
      else if isFile && e == .notFound then "cannot execute: required file not found"
      else e.words
  else if e == .notFound || e == .notADirectory then return "not found"
  else return e.words

/-- Sets the status of a process that has ended, and tells if it was killed. -/
def endProcess (killed : Option Nat) : Run Unit := do
  match killed with
  | none => return
  | some signal =>
    if let some text := killedTexts.lookup signal then say 2 (text ++ "\n")
    setStatus (128 + signal)

/-- Starts the program of a command with the variables that programs are given. Without one, the
shell complains. -/
def launch (start : Starter) (words : List String) : Run (Option Nat) := do
  match ← programOf words with
  | .ok p =>
    let _ ← claimPlace
    start (← environment) p
  | .error (e, status) =>
    let name := words.headD ""
    complain (name ++ ": " ++ (← missingText name e))
    setStatus status
    return none

end BuildingModel.Sandbox.Shell
