import BuildingModel.Sandbox.Shell.Opening
import BuildingModel.Sandbox.Tool.Options

/-!
# Programs of the system

What the programs of the system have in common: they complain in their own name, and they read files
and what they are given.
-/

namespace BuildingModel.Sandbox.Tool

open Shell (Run say tree)

/-- A program of the system: given its words, the first of which is its name, it works and gives its
status. -/
abbrev Program := String → List String → Run Nat

/-! ## Complaints -/

/-- Complains in the name of a program. -/
def report (name message : String) : Run Unit := say 2 (name ++ ": " ++ message ++ "\n")

/-- Complains and gives a status. -/
def failWith (status : Nat) (name message : String) : Run Nat := do
  report name message
  return status

/-- Tells how to learn about a program. -/
def hint (name : String) : Run Unit :=
  say 2 ("Try '" ++ name ++ " --help' for more information.\n")

/-- Complains about how a program is used. -/
def misuse (status : Nat) (name message : String) : Run Nat := do
  report name message
  hint name
  return status

/-- A path between quotes. -/
def quoted (path : String) : String := "'" ++ path ++ "'"

/-- What is wrong with the value of an option for which there are only some values. -/
def choiceFault? (name value : String) (choices : List String) : Option String :=
  if choices.contains value then none
  else some ("invalid argument " ++ quoted value ++ " for " ++ quoted ("--" ++ name)
    ++ "\nValid arguments are:"
    ++ String.join (choices.map fun choice => "\n  - " ++ quoted choice))

/-- Works on what is found among arguments, or complains about them. -/
def withOptions (g : Grammar) (status : Nat) (name : String) (words : List String)
    (work : Parsed → Run Nat) : Run Nat :=
  match g.parse words with
  | .ok p => work p
  | .error message => misuse status name message

/-- The usual complaint about a file. -/
def plainly (path : String) (e : FileError) : String := path ++ ": " ++ e.words

/-- The status of something that went well or not. -/
def statusOf (fine : Bool) : Nat := if fine then 0 else 1

/-- Works on each argument; the status tells whether all went well. -/
def onEach (words : List String) (work : String → Run Bool) : Run Nat := do
  let mut fine := true
  for word in words do
    if !(← work word) then fine := false
  return statusOf fine

/-! ## Reading -/

/-- How many bytes are read from a channel that gives zeros without end. -/
def endlessBytes : Nat := 65536

/-- Why nothing can be read from a channel. -/
def readFault? : Shell.Channel → Option FileError
  | .directory => some .isADirectory
  | .closed => some (.other "Bad file descriptor")
  | _ => none

/-- The channel with a number. -/
def channelAt (i : Nat) : Run Shell.Channel := return ((← get).channels[i]?).getD .closed

/-- What is left to read from a channel. -/
def readAll (i : Nat) : Run (Except FileError (List UInt8)) := do
  let c ← channelAt i
  if let some e := readFault? c then return .error e
  match c with
  | .zeros | .full => return .ok ((← Shell.take? i (some endlessBytes)).getD [])
  | _ => return .ok ((← Shell.take? i none).getD [])

/-- The number of the channel of a file, or of that which a program is given if the name is a
dash. -/
def openGiven (path : String) : Run (Except FileError Nat) := do
  if path == "-" then
    match ← Shell.channelOf? 0 with
    | some i => return .ok i
    | none => return .error (.other "Bad file descriptor")
  else Shell.openPath { reads := true } path

/-- What is left to read from what a program is given. -/
def input? : Run (Except FileError (List UInt8)) := do
  match ← openGiven "-" with
  | .ok i => readAll i
  | .error e => return .error e

/-- What is left to read, if it can be read. -/
def input : Run (List UInt8) := do
  return ((← input?).toOption).getD []

/-- The contents of a file, or what is left to read if its name is a dash. -/
def contents (path : String) : Run (Except FileError (List UInt8)) := do
  match ← openGiven path with
  | .ok i => readAll i
  | .error e => return .error e

/-- Where contents come from, which is what is given if the name is a dash. -/
def sourceAt (path : String) : Run (Except FileError Shell.Channel) := do
  if path == "-" then return .ok (← Shell.channel 0)
  match ← Shell.openPath { reads := true } path with
  | .ok i => return .ok (← channelAt i)
  | .error e => return .error e

/-- Whether a channel is a pipe that is read. -/
def isPipe (i : Nat) : Run Bool := do
  match ← channelAt i with
  | .pipe .. => return true
  | _ => return false

/-- How many bytes of a pipe are read at once. -/
def blockSize : Nat := 65536

/-- The size of the file at a place. -/
def fileSize (names : List String) : Run Nat := do
  return (((← get).tree.files.lookup names).map (·.bytes.length)).getD 0

/-- The names of arguments that are files. Without one, what is given is read. -/
def pathsOf (p : Parsed) : List String := if p.operands.isEmpty then ["-"] else p.operands

/-- The contents of files one after another, with a complaint for each that cannot be read; whether
there was none. -/
def allContents (complaint : String → FileError → String) (name : String) (paths : List String) :
    Run (List UInt8 × Bool) := do
  let mut found := []
  let mut fine := true
  for path in paths do
    match ← contents path with
    | .ok bytes => found := bytes :: found
    | .error e =>
      report name (complaint path e)
      fine := false
  return (found.reverse.flatten, fine)

/-! ## Writing -/

/-- Writes bytes. -/
def emit (bytes : List UInt8) : Run Unit := do
  let _ ← Shell.write 1 bytes

/-- Work whose output goes to a file. -/
def writingTo (path : String) (work : Run Unit) : Run (Except FileError Unit) := do
  match ← Shell.openPath { writes := true, empties := true } path with
  | .error e => return .error e
  | .ok i => return .ok (← Shell.withDescriptor 1 i work)

/-- How many bytes a program collects before it writes them. -/
def heapSize : Nat := 4096

/-- Writes what a channel has collected if it is enough, or whatever it is at the end. -/
def release (heap target : Nat) (atEnd : Bool) : Run Unit := do
  if let .sink bytes ← channelAt heap then
    let count := if atEnd then bytes.size else bytes.size / heapSize * heapSize
    if count != 0 then
      Shell.setChannel heap (.sink (bytes.extract count bytes.size))
      let _ ← Shell.writeTo target (bytes.extract 0 count).toList

/-- Work whose output is collected before it is written. It is given a step that writes what is
enough. -/
def heaping {α : Type} (work : Run Unit → Run α) : Run α := do
  match ← Shell.channelOf? 1 with
  | none => work (pure ())
  | some target =>
    let heap ← Shell.addChannel (.sink .empty)
    let a ← Shell.withDescriptor 1 heap (work (release heap target false))
    release heap target true
    return a

/-! ## Lines -/

/-- The lines of bytes, each with its end if it has one. -/
def lines (bytes : List UInt8) (ending : UInt8 := 10) : List (List UInt8) :=
  let (done, last) := bytes.foldl
    (fun (done, line) b =>
      if b == ending then (((b :: line).reverse :: done : List (List UInt8)), ([] : List UInt8))
      else (done, b :: line)) ([], [])
  (if last.isEmpty then done else last.reverse :: done).reverse

/-- Bytes in two parts: the lines that end, and what is after them. -/
def wholeLines (bytes : List UInt8) (ending : UInt8 := 10) : List UInt8 × List UInt8 :=
  let (last, whole) := bytes.reverse.span (· != ending)
  (whole.reverse, last.reverse)

/-- The octets of a line without its end. -/
def lineText (line : List UInt8) (ending : UInt8 := 10) : String :=
  octetsOf (if line.getLast? == some ending then line.dropLast else line)

/-- The texts of the lines of bytes. -/
def lineTexts (bytes : List UInt8) (ending : UInt8 := 10) : List String :=
  (lines bytes ending).map (lineText · ending)

/-- The end of lines: a null if an option asks for it. -/
def lineEnd (p : Parsed) : UInt8 := if p.has 'z' then 0 else 10

/-- Writes a text as a line. -/
def sayLine (s : String) (ending : UInt8 := 10) : Run Unit :=
  say 1 (s.push (Char.ofNat ending.toNat))

/-! ## Pieces -/

/-- Works on what a pipe gives as it comes, in so many turns at most: on whole lines if there is an
end of lines, the last of which may have none. What has come of a line is given. -/
def workAlong (i : Nat) (ending : Option UInt8) (work : List UInt8 → Run Unit) :
    Nat → List UInt8 → Run Unit
  | 0, _ => return
  | n + 1, begun => do
    match ← Shell.takeSome? i blockSize with
    | some (b :: rest) =>
      let found := begun ++ b :: rest
      let (whole, begun) := match ending with
        | some e => wholeLines found e
        | none => (found, [])
      if !whole.isEmpty then work whole
      workAlong i ending work n begun
    | _ => if !begun.isEmpty then work begun

/-- Works on a file, or on what is given if its name is a dash: on pieces as they come from a pipe,
or on all at once. -/
def inPieces (path : String) (ending : Option UInt8) (work : List UInt8 → Run Unit) :
    Run (Except FileError Unit) := do
  match ← openGiven path with
  | .error e => return .error e
  | .ok i =>
    if ← isPipe i then
      heaping fun write => workAlong i ending (fun bytes => do work bytes; write) Shell.takeLimit []
      return .ok ()
    match ← readAll i with
    | .error e => return .error e
    | .ok bytes =>
      work bytes
      return .ok ()

end BuildingModel.Sandbox.Tool
