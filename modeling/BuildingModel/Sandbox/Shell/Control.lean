import BuildingModel.Sandbox.Shell.Builtin
import BuildingModel.Sandbox.Shell.Reader

/-!
# The control of a shell

How texts of commands are carried out, what is done on signals and at the end, and how commands are
carried out as processes. A `Runner` carries out commands; whatever carries out commands within
others is given one.
-/

namespace BuildingModel.Sandbox.Shell

/-- Carries out commands. A failure does not end the shell where the flag tells that it is
tested. -/
abbrev Runner := Bool → Command → Run Unit

/-! ## Halts -/

/-- Work whose halt is a result. -/
def attempt {α : Type} (work : Run α) : Run (Except Halt α) :=
  ExceptT.lift work.run

/-- Work with something that is done after it, even if it is cut short. -/
def afterwards {α : Type} (work : Run α) (last : Run Unit) : Run α := do
  let r ← attempt work
  last
  match r with
  | .ok a => return a
  | .error halt => throw halt

/-- Work that ends the shell if it cannot be carried out. -/
def orEnd {α : Type} (work : Run α) : Run α := do
  match ← attempt work with
  | .ok a => return a
  | .error .refused => throw .exit
  | .error halt => throw halt

/-- Steps one after another, as long as each gives where to go on, at most so many. -/
def iterate {σ : Type} (step : σ → Run (Option σ)) : Nat → σ → Run Unit
  | 0, _ => return
  | n + 1, s => do
    match ← step s with
    | some s => iterate step n s
    | none => return

/-! ## Texts -/

/-- The texts that stand for commands. The extended shell puts none in place of a name. -/
def activeAliases (c : Context) : List (String × String) :=
  if c.extended then [] else c.aliases

/-- How many commands a text may have, those that stand for others included. -/
def commandLimit (text : String) : Nat := 1024 * (text.length + 1)

/-- Reads a command and carries it out; what is left to read. -/
def readNext (run : Command → Run Unit) (r : Reader) : Run (Option Reader) := do
  let before := r.rest
  match { r with aliases := activeAliases (← context) }.command? with
  | .error f =>
    change ({ · with line := f.line })
    if let some more := f.more then
      complain f.message
      give more
    give f.message
  | .ok (none, _) => return none
  | .ok (some command, r) =>
    if ← hasOption 'v' then
      say 2 (String.ofList (before.take (before.length - r.rest.length)))
    change ({ · with documents := r.documents, count := r.count, readTo := r.line })
    if !(← hasOption 'n') then run command
    return some r

/-- A text that is to be read. -/
def readerOf (c : Context) (text : String) : Reader where
  rest := text.toList
  whole := text
  extended := c.extended
  count := c.count
  documents := c.documents
  aliases := activeAliases c

/-- Work after which something else may be left to do. -/
def goingOn (work : Run Unit) : Run Unit := do
  change ({ · with closing := false })
  work

/-- Carries out the commands of a text. -/
def runText (run : Command → Run Unit) (text : String) : Run Unit := goingOn do
  iterate (readNext run) (commandLimit text) (readerOf (← context) text)

/-- Carries out the commands of a text within a command that has a name. -/
def runWithin (run : Command → Run Unit) (around : Option String) (text : String) : Run Unit := do
  let c ← context
  change ({ · with around })
  afterwards (runText run text)
    (change ({ · with around := c.around, line := c.line, readTo := c.readTo }))

/-! ## Signals -/

/-- Carries out what is done on a signal. The status stays. -/
def runAction (run : Runner) (action : String) : Run Unit := do
  let status := (← context).status
  runWithin (run false) (← context).around action
  setStatus status

/-- Does what is done on the signals that have come. -/
def runPending (run : Runner) : Run Unit := do
  let c ← context
  let signals ← arrived
  if signals.isEmpty then return
  change ({ · with pending := [] })
  modify fun s => { s with mail := s.mail.filter (·.1 != c.own) }
  for signal in signals do
    match c.traps.lookup signal with
    | some action => runAction run action
    | none => if !idleSignals.contains signal then throw (.killed signal)

/-- Work at whose end a shell does what it does at its end, unless it is killed. -/
def untilEnd (run : Runner) (work : Run Unit) : Run Unit := do
  let last (halt : Option Halt) : Run Unit := do
    match (← context).traps.lookup 0 with
    | some action =>
      change fun c => { c with traps := c.traps.filter (·.1 != 0) }
      runAction run action
    | none => pure ()
    match halt with
    | some halt => throw halt
    | none => return
  match ← attempt work with
  | .ok () => last none
  | .error (.killed signal) => throw (.killed signal)
  | .error .unheard => throw .unheard
  | .error halt => last (some halt)

/-! ## Processes -/

/-- Forgets the channels that are new, unless another process may have one. -/
def dropChannels (size : Nat) : Run Unit :=
  modify fun s =>
    if s.live.isEmpty then
      { s with
        channels := s.channels.shrink size
        named := s.named.filter fun (_, i, j) => max i j < size }
    else s

/-- Takes a context back but for the status, and forgets the channels that are new. -/
def takeBack (c : Context) (size : Nat) : Run Unit := do
  dropChannels size
  modify fun s => { s with context := { c with status := s.context.status } }

/-- Work in a process of its own; the signal by which it was killed. Where nothing is left to do
after it, the process takes the place of the one that starts it. -/
def inProcess (work : Run Unit) : Run (Option Nat) := do
  let outer ← context
  if outer.closing then
    change ({ · with closing := false })
    work
    return none
  let size := (← get).channels.size
  let own ← modifyGet fun s => (firstProcess + s.count + 1, { s with count := s.count + 1 })
  change fun c => { c with own, outer := (c.own, c.traps) :: c.outer, kept := outer.channels }
  let r ← attempt (mortal own work)
  takeBack outer size
  match r with
  | .error (.killed signal) => return some signal
  | .error .unheard => return some pipeSignal
  | _ => return none

/-- Puts a channel in place for a descriptor. -/
def setDescriptor (descriptor : Nat) (i : Option Nat) : Run Unit :=
  change fun c =>
    let others := c.descriptors.filter (·.1 != descriptor)
    { c with descriptors := match i with
        | some i => (descriptor, i) :: others
        | none => others }

/-- What a process carries out for a command: it is itself the shell that the command asks for. -/
def bodyOfProcess : Command → Command
  | .subshell _ body [] => body
  | .subshell line body rs => .redirected line body rs
  | command => command

/-- Whether a process has nothing to do but to carry out a command after what is redirected. -/
def isClosing : Command → Bool
  | .simple .. | .redirected .. => true
  | _ => false

/-- Starts a process with descriptors; its number. A failure does not end it where the flag tells
that it is tested. -/
def start (tested : Bool) (descriptors : List (Nat × Nat)) (command : Command) : Run Nat :=
  modifyGet fun s =>
    let c := s.context
    let number := firstProcess + s.count + 1
    let body := bodyOfProcess command
    let above := c.own :: c.ancestors
    let birth : Birth := {
      number, body, tested
      context := { c with
        descriptors, own := number, outer := [], above, kept := [], closing := isClosing body
        pending := [], jobs := []
        traps := c.traps.filter fun (n, action) => n != 0 && action.isEmpty } }
    (number, { s with
      count := s.count + 1
      births := birth :: s.births
      live := (number, above) :: s.live })

/-- Starts a process for each command, which reads what the one before it writes; their numbers. The
first one reads what a descriptor gives. -/
def startAll (tested : Bool) (descriptors : List (Nat × Nat)) : List Command → Run (List Nat)
  | [] => return []
  | [command] => return [← start tested descriptors command]
  | command :: rest => do
    let (pipe, inlet) ← addPipe
    let number ← start tested ((1, inlet) :: descriptors.filter (·.1 != 1)) command
    let others ← startAll tested ((0, pipe) :: descriptors.filter (·.1 != 0)) rest
    return number :: others

/-- The statuses of processes when they have ended. Those that were killed are told. -/
def awaitAll (numbers : List Nat) : Run (List Nat) := do
  pause [.over numbers]
  let ended := (← get).ended
  let endings := numbers.filterMap fun n => ended.lookup n
  modify fun s => { s with ended := s.ended.filter fun (n, _) => !numbers.contains n }
  for ending in endings do
    if let some text := ending.killed.bind fun signal => killedTexts.lookup signal then
      say 2 (text ++ "\n")
  return endings.map Ending.status

/-- Carries out a command as a process. -/
def inSubshell (tested : Bool) (command : Command) : Run Unit := do
  let _ ← claimPlace
  let statuses ← awaitAll [← start tested (← context).descriptors command]
  setStatus (statuses.headD 0)

/-- What a command writes as a process, with what others write that it leaves. -/
def collect (command : Command) : Run ByteArray := do
  let _ ← claimPlace
  let i ← addChannel (.sink .empty)
  let descriptors := (← context).descriptors
  let statuses ← awaitAll [← start false ((1, i) :: descriptors.filter (·.1 != 1)) command]
  if ← isHeld i then pause [.free i]
  let bytes := match (← get).channels[i]? with
    | some (.sink bytes) => bytes
    | _ => .empty
  setChannel i .closed
  dropChannels i
  setStatus (statuses.headD 0)
  return bytes

/-! ## Jobs -/

/-- How many commands a job consists of of which each reads what the one before it writes. -/
def partsOfJob : Command → Nat
  | .pipeline commands => commands.length
  | _ => 1

/-- Starts a job, which reads nothing unless it is told so. -/
def spawn (body : Command) : Run Unit := do
  let empty ← addChannel .void
  let place ← claimPlace
  let number ← start false ((0, empty) :: (← context).descriptors.filter (·.1 != 0)) body
  change fun c => { c with
    jobs := { place, number, parts := partsOfJob body } :: c.jobs
    lastJob := some number, status := 0 }

end BuildingModel.Sandbox.Shell
