import BuildingModel.Sandbox.Image
import BuildingModel.Sandbox.Shell.Command
import BuildingModel.Sandbox.Shell.Course

/-!
# The state of a shell

A shell works on a tree of files and on channels, which it shares with all that it starts, and has a
context of its own: its parameters, variables and functions, and the descriptors by which it knows
the channels. Commands that are not waited for are jobs, which work on the same state in the pauses
of others. `Run` is work on such a state that may pause or be cut short.
-/

namespace BuildingModel.Sandbox.Shell

/-- What a descriptor stands for. -/
inductive Channel where
  /-- It collects what is written. -/
  | sink (bytes : ByteArray)
  /-- It gives what is left to read. -/
  | source (left : List UInt8)
  /-- The end of a pipe that is read: what comes first, what has been written after it, and how much
  both are together. The other end is the channel with the given number. -/
  | pipe (front : List UInt8) (back : ByteArray) (size inlet : Nat)
  /-- The end of a pipe that is written to; the other end is the channel with the given number. -/
  | inlet (pipe : Nat)
  /-- A file at a place, from an offset on; what is written may go to its end. -/
  | file (names : List String) (offset : Nat) (appends reads writes : Bool)
  /-- A directory, which is neither read nor written. -/
  | directory
  /-- It takes everything and gives nothing. -/
  | void
  /-- It takes everything and gives zeros without end. -/
  | zeros
  /-- It takes nothing and gives zeros without end. -/
  | full
  /-- It takes and gives nothing. -/
  | closed

/-- A variable. -/
structure Variable where
  /-- Its value, if it is set. -/
  value : Option String := none
  /-- Whether programs are given it. -/
  exported : Bool := false
  /-- Whether it keeps its value. -/
  fixed : Bool := false

/-- The number of the first process. -/
def firstProcess : Nat := 4242

/-- A job that a shell knows of. -/
structure KnownJob where
  /-- Its place among the jobs of the shell. -/
  place : Nat
  /-- The number of its process. -/
  number : Nat
  /-- How many commands it consists of of which each reads what the one before it writes. -/
  parts : Nat := 1
  /-- Whether it has been waited for to its end. -/
  settled : Bool := false

/-- What a shell has to itself. -/
structure Context where
  /-- Its name. -/
  name : String
  /-- Its arguments. -/
  arguments : List String := []
  /-- Its variables. -/
  bindings : List (String × Variable) := []
  /-- What the variables were before functions made them their own, the last function first. -/
  locals : List (List (String × Option Variable)) := []
  /-- Its functions. -/
  functions : List (String × Command) := []
  /-- The names of the programs that have been sought. -/
  sought : List String := []
  /-- The texts that stand for commands, by their names. -/
  aliases : List (String × String) := []
  /-- The documents that have been read, by their numbers. -/
  documents : List (Nat × List Part) := []
  /-- The number of the next document. -/
  count : Nat := 0
  /-- The status of the last command. -/
  status : Nat := 0
  /-- The status of the last command whose output was taken. -/
  taken : Nat := 0
  /-- The line of the last command. -/
  line : Nat := 0
  /-- The command that carries out the last one, if there is one. -/
  around : Option String := none
  /-- The options that are on. -/
  options : List Char := []
  /-- What is done on a signal, by its number; 0 is the end of the shell. -/
  traps : List (Nat × String) := []
  /-- The signals that have come and wait for what is done on them. -/
  pending : List Nat := []
  /-- The channels of the descriptors. -/
  descriptors : List (Nat × Nat) := [(0, 0), (1, 1), (2, 2)]
  /-- The names of the working directory. -/
  here : List String := []
  /-- How many loops are being carried out. -/
  loops : Nat := 0
  /-- How many functions are being carried out within each other. -/
  depth : Nat := 0
  /-- Whether it knows more than the standard has. -/
  extended : Bool := false
  /-- The place of the argument whose options are taken off. -/
  optionIndex : Nat := 1
  /-- The place of the next option within the argument before that one. -/
  within : Option Nat := none
  /-- The permissions that new files are not given. -/
  mask : Nat := 0o022
  /-- The line that the text of the script has been read up to. -/
  readTo : Nat := 0
  /-- The number of the process to which it belongs. -/
  own : Nat := firstProcess
  /-- The number of the shell of which it is a part. -/
  shell : Nat := firstProcess
  /-- The processes that wait for that process, the last first, with what is done on signals to
  them. -/
  outer : List (Nat × List (Nat × String)) := []
  /-- The processes above those, the next one first. -/
  above : List Nat := []
  /-- The channels that it keeps for later, and those of the processes that wait for it. -/
  kept : List Nat := []
  /-- Whether it ends with the command that is carried out. -/
  closing : Bool := false
  /-- The jobs that it knows of, the last first. -/
  jobs : List KnownJob := []
  /-- The number of the last job. -/
  lastJob : Option Nat := none

/-- The channels that a shell has. -/
def Context.channels (c : Context) : List Nat := c.descriptors.map (·.2) ++ c.kept

/-- The processes above the process of a shell, the next one first. -/
def Context.ancestors (c : Context) : List Nat := c.outer.map (·.1) ++ c.above

/-- A process that is to be started. -/
structure Birth where
  /-- Its number. -/
  number : Nat
  /-- Its command. -/
  body : Command
  /-- Whether it is tested, so that no failure ends it. -/
  tested : Bool
  /-- The context in which it starts. -/
  context : Context

/-- How a process has ended. -/
structure Ending where
  /-- The signal that killed it. -/
  killed : Option Nat
  /-- Its status, if nothing killed it. -/
  code : Nat
deriving DecidableEq, Repr

/-- The status that tells how a process has ended. -/
def Ending.status (e : Ending) : Nat :=
  match e.killed with
  | some signal => 128 + signal
  | none => e.code

/-- The state of a shell. -/
structure State where
  /-- The files. -/
  tree : FileTree
  /-- The channels. -/
  channels : Array Channel
  /-- What it has to itself. -/
  context : Context
  /-- The time, in millionths of a second. -/
  clock : Nat := 0
  /-- How many processes there have been after the first. -/
  count : Nat := 0
  /-- The processes that are to be started, the last first. -/
  births : List Birth := []
  /-- The processes that have not ended, each with those above it. -/
  live : List (Nat × List Nat) := []
  /-- How the processes have ended that have, the last first. -/
  ended : List (Nat × Ending) := []
  /-- The channels that others have. -/
  others : List Nat := []
  /-- The pipes that are read to their ends before anything is done. -/
  drained : List Nat := []
  /-- The pipes of files, with their ends that are written to. -/
  named : List (List String × Nat × Nat) := []
  /-- The signals that are on their way to processes, the last first. -/
  mail : List (Nat × Nat) := []
  /-- The processes that have been killed in a pause, with the signals. -/
  killed : List (Nat × Nat) := []

/-- Why work is cut short. -/
inductive Halt where
  /-- The shell ends. -/
  | exit
  /-- The shell is killed by a signal. -/
  | killed (signal : Nat)
  /-- A process or a part of a shell ends because nobody reads what it writes. -/
  | unheard
  /-- So many loops end. -/
  | leave (loops : Nat)
  /-- So many loops end but for the last, which goes on. -/
  | again (loops : Nat)
  /-- A function ends. -/
  | return
  /-- A command of the shell itself cannot be carried out. -/
  | refused
deriving DecidableEq, Repr

/-- Work on the state of a shell. -/
abbrev Run := ExceptT Halt (Course State)

/-- What the shell has to itself. -/
def context : Run Context := return (← get).context

/-- Changes what the shell has to itself. -/
def change (f : Context → Context) : Run Unit :=
  modify fun s => { s with context := f s.context }

/-- The tree as the shell sees it. -/
def tree : Run FileTree := do
  let s ← get
  return { s.tree with here := s.context.here }

/-- Changes the tree. -/
def changeTree (f : FileTree → FileTree) : Run Unit :=
  modify fun s => { s with tree := f s.tree }

/-- How many millionths of a second are told apart in the times of files. -/
def tick : Nat := 4000

/-- The time as files are given it. -/
def now : Run Int := return ((← get).clock / tick * tick : Nat)

/-- Puts a file in place, which is changed now. -/
def putFile (names : List String) (f : File) : Run Unit := do
  let time ← now
  changeTree (·.put names { f with time })

/-- Sets the status. -/
def setStatus (n : Nat) : Run Unit := change ({ · with status := n })

/-- Whether the last command succeeded. -/
def succeeded : Run Bool := return (← context).status == 0

/-- Whether an option is on. -/
def hasOption (c : Char) : Run Bool := return (← context).options.contains c

/-- The permissions that something new has, of those that are asked for. -/
def newMode (asked : Nat) : Run Nat := return asked &&& (0o7777 - (← context).mask)

/-! ## Time -/

/-- Pauses until one of some things has come about. -/
def pause (wakes : List Wake) : Run Unit := ExceptT.lift (Course.pause wakes)

/-- Waits for some millionths of a second. -/
def rest (duration : Nat) : Run Unit := do
  pause [.time ((← get).clock + duration)]

/-- Spends some millionths of a second on work, in which jobs may go on. -/
def spend (duration : Nat) : Run Unit := do
  if (← get).live.isEmpty then modify fun s => { s with clock := s.clock + duration }
  else rest duration

/-- Work that is left after some millionths of a second if it has not ended; none if so. -/
def within {α : Type} (duration : Nat) (work : Run α) : Run (Option α) := do
  let limit := (← get).clock + duration
  let isDue (now : Nat) : Wake → Bool
    | .time t => t ≤ now
    | _ => false
  let stop (wakes : List Wake) (s : State) : Option Unit :=
    if limit ≤ s.clock && !wakes.any (isDue s.clock) then some () else none
  match ← ExceptT.lift (Course.guarded [.time limit] stop work.run) with
  | .error () => return none
  | .ok r =>
    if limit < (← get).clock then return none
    match r with
    | .ok a => return some a
    | .error halt => throw halt

/-- Work of a process, which ends if the process is killed in a pause. -/
def mortal {α : Type} (process : Nat) (work : Run α) : Run α := do
  match ← ExceptT.lift (Course.guarded [] (fun _ s => s.killed.lookup process) work.run) with
  | .error signal => throw (.killed signal)
  | .ok (.ok a) => return a
  | .ok (.error halt) => throw halt

/-! ## Channels -/

/-- The number of the channel of a descriptor. -/
def channelOf? (descriptor : Nat) : Run (Option Nat) :=
  return (← context).descriptors.lookup descriptor

/-- The channel of a descriptor. -/
def channel (descriptor : Nat) : Run Channel := do
  match ← channelOf? descriptor with
  | none => return .closed
  | some i => return ((← get).channels[i]?).getD .closed

/-- Puts a channel in place of another one. -/
def setChannel (i : Nat) (c : Channel) : Run Unit :=
  modify fun s => { s with channels := s.channels.setIfInBounds i c }

/-- A new channel. -/
def addChannel (c : Channel) : Run Nat := do
  let i := (← get).channels.size
  modify fun s => { s with channels := s.channels.push c }
  return i

/-- Work with another channel in place for a descriptor. The one that was in place is kept in the
meantime. -/
def withDescriptor {α : Type} (descriptor i : Nat) (work : Run α) : Run α := do
  let c ← context
  let old := (c.descriptors.lookup descriptor).toList
  change ({ · with
    descriptors := (descriptor, i) :: c.descriptors.filter (·.1 != descriptor)
    kept := old ++ c.kept })
  let a ← work
  change ({ · with descriptors := c.descriptors, kept := c.kept })
  return a

/-- Bytes with others from an offset on. -/
def overwrite (old new : List UInt8) (offset : Nat) : List UInt8 :=
  old.take offset ++ List.replicate (offset - old.length) 0 ++ new ++ old.drop (offset + new.length)

/-- A new pipe: the numbers of the end that is read and of the end that is written to. -/
def addPipe : Run (Nat × Nat) := do
  let i := (← get).channels.size
  return (← addChannel (.pipe [] .empty 0 (i + 1)), ← addChannel (.inlet i))

/-- Whether anybody has a channel. -/
def isHeld (i : Nat) : Run Bool := do
  let s ← get
  return s.context.channels.contains i || s.others.contains i
    || s.births.any (·.context.channels.contains i)

/-- The number of the signal that comes when nobody reads what is written. -/
def pipeSignal : Nat := 13

/-- What comes of writing where nobody reads: the end, unless something else is done on the signal
that comes. Nothing is written then. -/
def breakOff : Run Bool := do
  match (← context).traps.lookup pipeSignal with
  | none => throw .unheard
  | some action =>
    if !action.isEmpty then change fun c => { c with pending := c.pending ++ [pipeSignal] }
    return false

/-- How many bytes a pipe takes that have not been read. -/
def pipeRoom : Nat := 65536

/-- How many millionths of a second it takes to fill a pipe. -/
def pipeTime : Nat := 1000

/-- How many bytes of a pipe have not been read. -/
def waitingIn (i : Nat) : Run Nat := do
  match (← get).channels[i]? with
  | some (.pipe _ _ size _) => return size
  | _ => return 0

/-- Writes to a pipe, and waits until there is room for more; whether it is read. -/
def writeInto (pipe : Nat) (bytes : List UInt8) : Run Bool := do
  if !(← isHeld pipe) then return ← breakOff
  modify fun s => { s with
    channels := s.channels.modify pipe fun
      | .pipe front back size inlet =>
        let (back, count) := bytes.foldl (fun (back, n) b => (ByteArray.push back b, n + 1))
          (back, 0)
        .pipe front back (size + count) inlet
      | c => c }
  if (← waitingIn pipe) ≤ pipeRoom then return true
  rest pipeTime
  pause [.room pipe, .free pipe]
  if (← waitingIn pipe) ≤ pipeRoom then return true
  breakOff

/-- Writes to a channel; whether that is possible. -/
def writeTo (i : Nat) (bytes : List UInt8) : Run Bool := do
  match ((← get).channels[i]?).getD .closed with
  | .inlet pipe => writeInto pipe bytes
  | .pipe .. => writeInto i bytes
  | .sink _ =>
    modify fun s => { s with
      channels := s.channels.modify i fun
        | .sink old => .sink (bytes.foldl ByteArray.push old)
        | c => c }
    return true
  | .file names offset appends reads true =>
    let old := match (← get).tree.files.lookup names with
      | some f => f
      | none => {}
    let offset := if appends then old.bytes.length else offset
    putFile names { old with bytes := overwrite old.bytes bytes offset }
    setChannel i (.file names (offset + bytes.length) appends reads true)
    return true
  | .void | .zeros => return true
  | .full => return bytes.isEmpty
  | _ => return false

/-- Writes to a descriptor; whether that is possible. -/
def write (descriptor : Nat) (bytes : List UInt8) : Run Bool := do
  match ← channelOf? descriptor with
  | some i => writeTo i bytes
  | none => return false

/-- Writes octets to a descriptor. -/
def say (descriptor : Nat) (s : String) : Run Unit := do
  let _ ← write descriptor (bytesOf s)

/-- What can be read from a channel at once, without end where it has none. -/
def readable? (i : Nat) : Run (Option (List UInt8)) := do
  match ((← get).channels[i]?).getD .closed with
  | .source left => return some left
  | .pipe front _ _ _ => return some front
  | .file names offset _ true _ =>
    return some ((((← get).tree.files.lookup names).map (·.bytes)).getD [] |>.drop offset)
  | .void => return some []
  | _ => return none

/-- Waits until there is more to be read at once from a channel than there is; whether there is. -/
def refill (i : Nat) : Run Bool := do
  match (← get).channels[i]? with
  | some (.pipe _ back _ inlet) =>
    if back.isEmpty && (← isHeld inlet) then pause [.given i, .free inlet]
    let takeIn : Channel → Bool × Channel
      | .pipe front back size inlet =>
        (!back.isEmpty, .pipe (front ++ back.toList) .empty size inlet)
      | c => (false, c)
    match (← get).channels[i]? with
    | some c =>
      let (more, c) := takeIn c
      setChannel i c
      return more
    | none => return false
  | _ => return false

/-- Passes over bytes that are read from a channel. -/
def passBytes (i : Nat) (n : Nat) : Run Unit :=
  modify fun s => { s with
    channels := s.channels.modify i fun
      | .source left => .source (left.drop n)
      | .pipe front back size inlet => .pipe (front.drop n) back (size - n) inlet
      | .file names offset appends reads writes => .file names (offset + n) appends reads writes
      | c => c }

/-- Gives bytes back that have been read, if the channel is that of a file. -/
def giveBack (i : Nat) (bytes : List UInt8) : Run Unit := do
  if let some (.file names offset appends reads writes) := (← get).channels[i]? then
    setChannel i (.file names (offset - bytes.length) appends reads writes)

/-- Takes bytes off a channel that can be read at once, so many at most; none if there is nothing to
read from, and nothing at its end. -/
def takeSome? (i : Nat) (limit : Nat) : Run (Option (List UInt8)) := do
  match ((← get).channels[i]?).getD .closed with
  | .zeros | .full => return some (List.replicate limit 0)
  | .pipe [] _ _ _ => let _ ← refill i
  | _ => pure ()
  let taken? := (← readable? i).map (·.take limit)
  passBytes i ((taken?.map List.length).getD 0)
  return taken?

/-- How many times something is taken off a pipe at most. -/
def takeLimit : Nat := 1048576

/-- How many bytes are taken off a pipe together at most. -/
def togetherLimit : Nat := 8388608

/-- Takes bytes off a channel, so many in so many turns at most, after others, the last first. -/
def takeMore (i : Nat) : Nat → Nat → List (List UInt8) → Run (List UInt8)
  | 0, _, found => return found.reverse.flatten
  | n + 1, limit, found => do
    if limit == 0 then return found.reverse.flatten
    match ← takeSome? i limit with
    | none | some [] => return found.reverse.flatten
    | some bytes => takeMore i n (limit - bytes.length) (bytes :: found)

/-- Takes bytes off a channel, all or the first ones; none if there is nothing to read from. -/
def take? (i : Nat) (limit : Option Nat) : Run (Option (List UInt8)) := do
  match ((← get).channels[i]?).getD .closed, limit with
  | .pipe _ _ _ _, limit =>
    if limit.isNone then modify fun s => { s with drained := i :: s.drained }
    return some (← takeMore i takeLimit (limit.getD togetherLimit) [])
  | _, some n => takeSome? i n
  | _, none =>
    let left? ← readable? i
    passBytes i ((left?.map List.length).getD 0)
    return left?

/-! ## Complaints -/

/-- Complains, as a shell does, about the command of the current line. -/
def complain (message : String) : Run Unit := do
  let c ← context
  let place := if c.extended then "line " ++ toString c.line else toString c.line
  let around := match c.around with
    | some s => s ++ ": "
    | none => ""
  say 2 (c.name ++ ": " ++ place ++ ": " ++ around ++ message ++ "\n")

/-- Complains and ends the shell. -/
def give {α : Type} (message : String) (status : Nat := 2) : Run α := do
  complain message
  setStatus status
  throw .exit

/-- Complains, and does not carry a command of the shell itself out. -/
def refuse {α : Type} (message : String) (status : Nat := 2) : Run α := do
  complain message
  setStatus status
  throw .refused

/-! ## Variables -/

/-- A variable. -/
def lookUp? (name : String) : Run (Option Variable) :=
  return (← context).bindings.lookup name

/-- Puts a variable in place. -/
def putVariable (name : String) (v : Option Variable) : Run Unit :=
  change fun c =>
    let others := c.bindings.filter (·.1 != name)
    { c with bindings := match v with
        | some v => (name, v) :: others
        | none => others }

/-- Sets a variable. -/
def assign (name : String) (value : String) : Run Unit := do
  let old := (← lookUp? name).getD {}
  if old.fixed then
    if (← context).extended then refuse (name ++ ": readonly variable") 1
    else refuse (name ++ ": is read only")
  let exported := old.exported || (← hasOption 'a')
  putVariable name (some { old with value := some value, exported := exported })
  if name == "PATH" then change ({ · with sought := [] })
  if name == "OPTIND" then
    change ({ · with optionIndex := max 1 ((value.toNat?).getD 1), within := none })

/-- The value of a variable; empty if it is unset. -/
def valueOf (name : String) : Run String :=
  return ((← lookUp? name).bind (·.value)).getD ""

/-- The letters of the options, in the order in which they are shown. -/
def optionLetters : List Char := "pubaCEVvxsnmiIfe".toList

/-- The value of a parameter, if it is set, with the arguments as one text. -/
def parameter? (name : String) : Run (Option String) := do
  let c ← context
  match name with
  | "#" => return some (toString c.arguments.length)
  | "?" => return some (toString c.status)
  | "$" => return some (toString c.shell)
  | "!" => return c.lastJob.map toString
  | "-" => return some (String.ofList (optionLetters.filter c.options.contains))
  | "0" => return some c.name
  | "@" | "*" =>
    let separator := match (c.bindings.lookup "IFS").bind (·.value) with
      | some ifs => if name == "@" then " " else String.ofList (ifs.toList.take 1)
      | none => " "
    return some (separator.intercalate c.arguments)
  | _ =>
    match name.toNat? with
    | some n => return if n == 0 then some c.name else c.arguments[n - 1]?
    | none =>
      if name == "LINENO" && c.extended then return some (toString c.line)
      return (c.bindings.lookup name).bind (·.value)

/-- The variables that programs are given. -/
def environment : Run (List (String × String)) := do
  return (← context).bindings.filterMap fun (name, v) =>
    if v.exported then v.value.map (name, ·) else none

end BuildingModel.Sandbox.Shell
