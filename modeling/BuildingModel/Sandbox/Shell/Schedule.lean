import BuildingModel.Sandbox.Shell.Execution

/-!
# Schedules

A shell and the processes that it starts work on one state, one at a time: whoever can go on at the
earliest time does so, until the next pause, and of several the one that has waited longest. Signals
that are on their way reach a process in a pause. All ends when nobody can go on.
-/

namespace BuildingModel.Sandbox.Shell

/-- Somebody who works on the state, in a pause. -/
structure Thread where
  /-- The number of the process. -/
  number : Nat
  /-- What it has to itself. -/
  context : Context
  /-- What the pause ends with. -/
  wakes : List Wake
  /-- What it goes on with; at the end, the signal by which it was killed. -/
  rest : Course State (Option Nat)

/-- All who work on a state. -/
structure Schedule where
  /-- The state, with the context of the one who has worked last. -/
  state : State
  /-- Those who are in a pause, in the order in which they came to it. -/
  threads : List Thread

namespace Schedule

/-- Work with the signal by which it was killed. -/
def outcome (work : Run Unit) : Course State (Option Nat) := do
  match ← work.run with
  | .error (.killed signal) => return some signal
  | .error .unheard => return some pipeSignal
  | _ => return none

/-- How many millionths of a second it takes until a process starts. -/
def birthDelay : Nat := 200

/-- Somebody who will start as a process. -/
def starting (run : Runner) (clock : Nat) (birth : Birth) : Thread where
  number := birth.number
  context := birth.context
  wakes := [.time (clock + birthDelay)]
  rest := outcome (untilEnd run (run birth.tested birth.body))

/-- Takes in the processes that are to be started. -/
def takeIn (run : Runner) (s : Schedule) : Schedule :=
  { s with
    state := { s.state with births := [] }
    threads := s.threads ++ s.state.births.reverse.map (starting run s.state.clock) }

/-- Notes how somebody has ended. -/
def finish (s : Schedule) (number : Nat) (ending : Ending) : Schedule :=
  { s with
    state := { s.state with
      live := s.state.live.filter (·.1 != number)
      ended := (number, ending) :: s.state.ended }
    threads := s.threads.filter (·.number != number) }

/-- What is done on signals to a process, if it is one of those of somebody. -/
def trapsOf? (thread : Thread) (process : Nat) : Option (List (Nat × String)) :=
  ((thread.context.own, thread.context.traps) :: thread.context.outer).lookup process

/-- The schedule with a pause that ends at once. -/
def wake (s : Schedule) (thread : Thread) : Schedule :=
  let woken := { thread with wakes := [.time s.state.clock] }
  { s with threads := s.threads.map fun t => if t.number == thread.number then woken else t }

/-- A signal reaches a process: it is left for what is done on it, or kills. -/
def deliver (s : Schedule) (process signal : Nat) : Schedule :=
  let found := s.threads.findSome? fun t => (trapsOf? t process).map fun traps => (t, traps)
  match found with
  | none => s
  | some (thread, traps) =>
    let waits := thread.context.own == process && thread.wakes.any fun
      | .ended .. => true
      | _ => false
    match if signal == 9 then none else traps.lookup signal with
    | some action =>
      if action.isEmpty then s
      else
        let kept := { s with state := { s.state with mail := (process, signal) :: s.state.mail } }
        if waits then kept.wake thread else kept
    | none =>
      if idleSignals.contains signal then s
      else if thread.number == process then s.finish process ⟨some signal, 0⟩
      else
        let killed := (process, signal) :: s.state.killed
        { s with state := { s.state with killed } }.wake thread

/-- All signals that are on their way reach those whom they are for. -/
def deliverAll (s : Schedule) : Schedule :=
  s.state.mail.reverse.foldl (fun s (number, signal) => s.deliver number signal)
    { s with state := { s.state with mail := [] } }

/-- The channels that others have than the one with a number. -/
def othersThan (s : Schedule) (number : Nat) : List Nat :=
  (s.threads.filter (·.number != number)).flatMap (·.context.channels)

/-- Whether a pause may end as far as something is concerned that is told without a time. -/
def comesAbout (s : Schedule) (thread : Thread) : Wake → Bool
  | .time _ => true
  | .ended jobs true | .over jobs => jobs.all hasEnded
  | .ended jobs false => jobs.any hasEnded
  | .free i => !(s.othersThan thread.number).contains i
  | .held i => (s.othersThan thread.number).contains i
  | .given i => (sizeOf i).any (0 < ·)
  | .room i => (sizeOf i).any (· ≤ pipeRoom)
where
  /-- Whether a process has ended. -/
  hasEnded (number : Nat) : Bool := !s.state.live.any (·.1 == number)
  /-- How much of a pipe has not been read. -/
  sizeOf (i : Nat) : Option Nat :=
    match s.state.channels[i]? with
    | some (.pipe _ _ size _) => some size
    | _ => none

/-- The time at which a pause ends, if that is known. -/
def timeOf (s : Schedule) (thread : Thread) (wake : Wake) : Option Nat :=
  if s.comesAbout thread wake then
    some (match wake with
      | .time t => max t s.state.clock
      | _ => s.state.clock)
  else none

/-- The earliest time at which somebody goes on. -/
def readyTime (s : Schedule) (thread : Thread) : Option Nat :=
  (thread.wakes.filterMap (s.timeOf thread)).min?

/-- The one who goes on next, with the time. -/
def next? (s : Schedule) : Option (Thread × Nat) :=
  s.threads.foldl (fun best thread =>
    match best, s.readyTime thread with
    | none, some t => some (thread, t)
    | some (other, t), some u => if u < t then some (thread, u) else some (other, t)
    | _, none => best) none

/-- Takes in what somebody has come to. -/
def take (s : Schedule) (thread : Thread) : Stage State (Option Nat) → Schedule
  | .done state killed => { s with state }.finish thread.number ⟨killed, state.context.status⟩
  | .paused state wakes rest =>
    let thread := { thread with context := state.context, wakes, rest }
    { s with
      state
      threads := s.threads.filter (·.number != thread.number) ++ [thread] }

/-- One after another goes on, so many times at most. -/
def run (runner : Runner) : Nat → Schedule → Schedule
  | 0, s => s
  | n + 1, s =>
    let s := (s.takeIn runner).deliverAll
    match s.next? with
    | none => s
    | some (thread, time) =>
      let others := s.othersThan thread.number
      run runner n (s.take thread
        (thread.rest.run { s.state with clock := time, others, context := thread.context }))

/-- How many times somebody goes on at most. -/
def limit : Nat := 4 * turnLimit

/-- How work has ended, with the state that it and the processes that it starts leave. -/
def carryOut (runner : Runner) (work : Run (Option Nat)) (state : State) : Ending × State :=
  let rest : Course State (Option Nat) := do
    match ← work.run with
    | .ok killed => return killed
    | .error _ => return none
  let first : Thread :=
    { number := firstProcess, context := state.context, wakes := [.time 0], rest }
  let s := run runner limit { state, threads := [first] }
  ((s.state.ended.lookup firstProcess).getD ⟨none, 0⟩, s.state)

end Schedule

end BuildingModel.Sandbox.Shell
