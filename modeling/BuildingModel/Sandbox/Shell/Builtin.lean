import BuildingModel.Sandbox.Shell.Jobs
import BuildingModel.Sandbox.Shell.Writing

/-!
# Commands of the shell itself

The commands that a shell carries out without a program, as far as they carry out no other command.
Each gives its status.
-/

namespace BuildingModel.Sandbox.Shell

/-! ## Reading -/

/-- A character of a line, with whether a backslash keeps it from separating. -/
abbrev LineChar := Char × Bool

/-- The end of the last field of a line, as far as the line has been read. -/
structure LastField where
  /-- How many characters have been read. -/
  size : Nat := 0
  /-- Where the field ends, if nothing follows that is a part of it. -/
  stop : Option Nat := none
  /-- Whether a separator has been read. -/
  separated : Bool := false
  /-- Whether a separator after this one is a part of it, as it is a blank. -/
  joins : Bool := false

/-- The last field after one more character. It takes in all that is left of the line, but for its
separator if only blanks follow that one. What a backslash keeps does not count. -/
def LastField.add (separators : String) (f : LastField) (c : LineChar) : LastField :=
  let splits := !c.2 && separators.contains c.1
  let blank := splits && " \t\n".contains c.1
  let next := { f with size := f.size + 1 }
  if !f.separated then
    if splits then { next with stop := some f.size, separated := true, joins := blank } else next
  else if c.2 then { next with joins := false }
  else if blank then { next with stop := some (f.stop.getD f.size) }
  else { next with stop := if splits && f.joins then f.stop else none, joins := false }

/-- The fields of a line for so many variables. The last one takes all that is left. -/
def lineFields (separators : String) : Nat → List LineChar → List String
  | 0, _ => []
  | n + 1, s =>
    let splits (c : LineChar) : Bool := !c.2 && separators.contains c.1
    let blank (c : LineChar) : Bool := splits c && " \t\n".contains c.1
    let textOf (s : List LineChar) : String := String.ofList (s.map (·.1))
    let s := s.dropWhile blank
    if n == 0 then
      let last := s.foldl (LastField.add separators) {}
      [textOf (s.take (last.stop.getD s.length))]
    else
      let field := s.takeWhile (!splits ·)
      let rest := s.drop field.length
      let after := rest.dropWhile blank
      let after :=
        if after.head?.any fun c => splits c && !blank c then after.drop 1 else after
      textOf field :: lineFields separators n after

/-- A line without its backslashes, with what they keep from separating. -/
def lineChars : List Char → List LineChar
  | '\\' :: '\n' :: rest => lineChars rest
  | '\\' :: c :: rest => (c, true) :: lineChars rest
  | ['\\'] => []
  | c :: rest => (c, false) :: lineChars rest
  | [] => []

/-- How many bytes the next line has, and whether it ends. Where backslashes count, a line that ends
with one goes on. -/
def lineLength (raw : Bool) : List UInt8 → Nat × Bool
  | [] => (0, false)
  | [b] => (1, b == 10)
  | b :: c :: rest =>
    if b == 10 then (1, true)
    else if b == 92 && !raw then
      let (n, ended) := lineLength raw rest
      (n + 2, ended)
    else
      let (n, ended) := lineLength raw (c :: rest)
      (n + 1, ended)

/-- Takes the next line off a channel, as far as it goes; whether it ends. -/
def takeLine (raw : Bool) (i : Nat) : Nat → Run (List UInt8 × Bool)
  | 0 => return ([], false)
  | n + 1 => do
    let left := (← readable? i).getD []
    let (length, ended) := lineLength raw left
    let goesOn ← if ended then pure false else refill i
    if goesOn then takeLine raw i n
    else
      passBytes i length
      return (left.take length, ended)

/-- Reads a line into variables. -/
def read (words : List String) : Run Nat := do
  let (found, names) ← takeOptions { flags := "r", valued := "p" } words
  let raw := isTaken found 'r'
  let names ←
    if !names.isEmpty then pure names
    else if (← context).extended then pure ["REPLY"]
    else refuse "arg count"
  let (taken, ended) ← match ← channelOf? 0 with
    | some i => takeLine raw i takeLimit
    | none => pure ([], false)
  let line := (octetsOf (if ended then taken.dropLast else taken)).toList
  let line := line.filter (· != '\x00')
  let chars := if raw then line.map (·, false) else lineChars line
  let separators := (← parameter? "IFS").getD " \t\n"
  let values := lineFields separators names.length chars
  for (name, i) in names.zipIdx do
    needName name
    assign name (values.getD i "")
  return if ended then 0 else 1

/-! ## Places -/

/-- The path of a place. -/
def pathOf (names : List String) : String := "/" ++ "/".intercalate names

/-- Changes the working directory. -/
def changeDirectory (words : List String) : Run Nat := do
  let (_, words) ← takeOptions { flags := "LP" } words
  let path ← match words with
    | [] => valueOf "HOME"
    | "-" :: _ => valueOf "OLDPWD"
    | path :: _ => pure path
  let c ← context
  if words.isEmpty && c.extended && (← lookUp? "HOME").isNone then refuse "HOME not set" 1
  let returns := words.head? == some "-"
  if path.isEmpty && !returns then return 0
  match (← tree).locate (textOf (if path.isEmpty then "." else path)) with
  | .ok (names, some .directory) =>
    assign "OLDPWD" (octets (pathOf c.here))
    change ({ · with here := names })
    assign "PWD" (octets (pathOf names))
    if returns then put (octets (pathOf names) ++ "\n") else return 0
  | .ok (_, some _) =>
    refuse (if c.extended then path ++ ": Not a directory" else "can't cd to " ++ path)
      (if c.extended then 1 else 2)
  | _ =>
    refuse (if c.extended then path ++ ": No such file or directory" else "can't cd to " ++ path)
      (if c.extended then 1 else 2)

/-- Leaves loops, at most those that there are. -/
def leaveLoops (halt : Nat → Halt) (words : List String) : Run Nat := do
  let n ← countIn words 1
  let c ← context
  if n == 0 && !c.extended then refuse "Illegal number: 0"
  let loops := c.loops
  if loops == 0 then return 0
  setStatus 0
  throw (halt (min n loops))

/-- The commands of the shell itself that carry out no other command. -/
def builtin? (name : String) : Option (List String → Run Nat) :=
  match name with
  | ":" | "true" => some fun _ => pure 0
  | "alias" => some setAliases
  | "unalias" => some dropAliases
  | "jobs" => some tellJobs
  | "fg" | "bg" => some goOn
  | "false" => some fun _ => pure 1
  | "echo" => some echo
  | "printf" => some printf
  | "test" => some test
  | "[" => some bracket
  | "export" => some (mark "export" ({ · with exported := true }) (·.exported))
  | "readonly" => some (mark "readonly" ({ · with fixed := true }) (·.fixed))
  | "local" => some ownVariables
  | "unset" => some unset
  | "read" => some read
  | "set" => some setOptions
  | "shift" => some shift
  | "cd" | "chdir" => some changeDirectory
  | "pwd" => some fun words => do
      let _ ← takeOptions { flags := "LP" } words
      put (octets (pathOf (← context).here) ++ "\n")
  | "kill" => some kill
  | "trap" => some trap
  | "wait" => some wait
  | "getopts" => some getopts
  | "umask" => some umask
  | "ulimit" => some fun words => do
      let (_, words) ← takeOptions { flags := "HSatfdscmlpnvwr" } words
      if words.isEmpty then put "unlimited\n" else return 0
  | "times" => some fun _ => put "0m0.000000s 0m0.000000s\n0m0.000000s 0m0.000000s\n"
  | "exit" => some fun words => do
      setStatus ((← countIn words (← context).status) % 256)
      throw .exit
  | "return" => some fun words => do
      setStatus ((← countIn words (← context).status) % 256)
      throw .return
  | "break" => some (leaveLoops .leave)
  | "continue" => some (leaveLoops .again)
  | _ => none

/-- The commands that carry out others. -/
def carriers : List String := ["eval", ".", "exec", "command", "type", "hash"]

/-- The commands whose failure ends the shell. -/
def specialNames : List String :=
  [".", ":", "break", "continue", "eval", "exec", "exit", "export", "readonly", "return", "set",
   "shift", "times", "trap", "unset", "local"]

end BuildingModel.Sandbox.Shell
