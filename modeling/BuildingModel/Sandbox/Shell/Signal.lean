import BuildingModel.Render.Evaluator
import BuildingModel.Sandbox.Shell.Setting

/-!
# Commands on signals

The commands of the shell itself that send signals and set what is done on them. Each gives its
status.
-/

namespace BuildingModel.Sandbox.Shell

/-- The names of the signals, from the end of the shell on, which has the number 0. -/
def signalWords : List String :=
  let named := Render.signalNames.map fun s => (s.drop 3).toString
  "EXIT" :: named.map (fun s => if s == "STKFLT" then "16" else s) ++ ["32", "33", "RTMIN"]
    ++ (List.range 15).map (fun k => "RTMIN+" ++ toString (k + 1))
    ++ (List.range 14).reverse.map (fun k => "RTMAX-" ++ toString (k + 1)) ++ ["RTMAX"]

/-- The name of a signal. -/
def signalWord (n : Nat) : String := (signalWords[n]?).getD (toString n)

/-- The number of a signal, by its name or by itself. The extended shell knows longer names. -/
def signal? (extended : Bool) (s : String) : Option Nat :=
  match s.toNat? with
  | some n => if n < signalWords.length then some n else none
  | none =>
    let name := s.toUpper
    signalWords.idxOf? (if extended then (name.dropPrefix "SIG").toString else name)

/-- The signals that do nothing unless they are asked for, and those that only stop a process. -/
def idleSignals : List Nat := [0, 17, 18, 19, 20, 21, 22, 23, 28]

/-- What a shell says of a process that was killed, by the number of the signal. -/
def killedTexts : List (Nat × String) :=
  [(1, "Hangup"), (3, "Quit"), (4, "Illegal instruction"), (5, "Trace/breakpoint trap"),
   (6, "Aborted"), (7, "Bus error"), (8, "Floating point exception"), (9, "Killed"),
   (10, "User defined signal 1"), (11, "Segmentation fault"), (12, "User defined signal 2"),
   (14, "Alarm clock"), (15, "Terminated"), (16, "Stack fault"), (24, "CPU time limit exceeded"),
   (25, "File size limit exceeded"), (26, "Virtual timer expired"),
   (27, "Profiling timer expired"), (29, "I/O possible"), (30, "Power failure"),
   (31, "Bad system call")]

/-- The signals that have come to the process, the first one first. -/
def arrived : Run (List Nat) := do
  let c ← context
  let sent := (← get).mail.reverse.filter (·.1 == c.own)
  return c.pending ++ sent.map (·.2)

/-- How `kill` is used. -/
def killUsage : String :=
  "Usage: kill [-s sigspec | -signum | -sigspec] [pid | job]... or\nkill -l [exitstatus]"

/-- Writes the names of the signals, or of the one that a status tells. -/
def listSignals (words : List String) : Run Nat := do
  match words with
  | [] =>
    say 1 "0\n"
    for s in signalWords.drop 1 do say 1 (s ++ "\n")
    return 0
  | word :: _ =>
    let n ← numberIn word
    let signal := if n > 128 then n - 128 else n
    if signal == 0 || signalWords.length ≤ signal then
      refuse ("invalid signal number or exit status: " ++ word)
    put (signalWord signal ++ "\n")
where
  /-- Writes a text. -/
  put (s : String) : Run Nat := do
    say 1 s
    return 0

/-- Sends a signal to the shell. -/
def raise (signal : Nat) : Run Unit := do
  let c ← context
  let isTrapped := (c.traps.lookup signal).isSome
  if signal != 0 && isTrapped then
    change fun c => { c with pending := c.pending ++ [signal] }
  else if !isTrapped && !idleSignals.contains signal then throw (.killed signal)

/-- Sends a signal to another process. -/
def post (process signal : Nat) : Run Unit :=
  modify fun s => { s with mail := (process, signal) :: s.mail }

/-- The job that a text after a percent sign names. -/
def jobNamed? (c : Context) (s : String) : Option KnownJob :=
  match s with
  | "" | "%" | "+" => c.jobs.head?
  | "-" => if c.extended && c.jobs.length == 1 then c.jobs.head? else c.jobs[1]?
  | s => s.toNat?.bind fun n => c.jobs.find? (·.place == n)

/-- Sends a signal to processes. Those of which the shell knows are itself and the jobs. -/
def sendSignal (signal : Nat) (processes : List String) : Run Nat := do
  let mut status := 0
  for word in processes do
    let c ← context
    let job? :=
      if word.startsWith "%" then (jobNamed? c (word.drop 1).toString).map (·.number) else none
    let target := (if c.extended then job? else none).getD (word.toNat?.getD 0)
    if word == "0" || target == c.own then raise signal
    else if target == c.shell || c.ancestors.contains target
        || (← get).live.any (·.1 == target) then
      if signal != 0 then post target signal
    else
      if word.toInt?.isSome || job?.isSome then
        complain (if c.extended then "(" ++ word ++ ") - No such process" else "No such process\n")
        status := 1
      else refuse ("Illegal number: " ++ word)
  return status

/-- Sends signals to processes, or names signals. -/
def kill (words : List String) : Run Nat := do
  let extended := (← context).extended
  match words with
  | [] => refuse killUsage
  | word :: rest =>
    let direct := if word.startsWith "-" then signal? extended (word.drop 1).toString else none
    match direct with
    | some signal => if rest.isEmpty then refuse killUsage else sendSignal signal rest
    | none =>
      let (found, rest) ← takeOptions { flags := "l", valued := "s" } words
      let mut signal := 15
      for (c, name) in found do
        if c == 's' then
          match signal? extended name with
          | some n => signal := n
          | none => refuse ("invalid signal number or name: " ++ name)
      if isTaken found 'l' then listSignals rest
      else if rest.isEmpty then refuse killUsage
      else sendSignal signal rest

/-- Sets what is done on signals, or writes it. -/
def trap (words : List String) : Run Nat := do
  let (_, words) ← takeOptions {} words
  let c ← context
  let set (action : Option String) (names : List String) : Run Nat := do
    for name in names do
      match signal? c.extended name with
      | some n =>
        change fun c =>
          let others := c.traps.filter (·.1 != n)
          { c with traps := match action with
              | some action => (n, action) :: others
              | none => others }
      | none =>
        say 2 ("trap: " ++ name ++ ": bad trap\n")
        return 1
    return 0
  match words with
  | [] =>
    for (n, action) in c.traps.mergeSort fun a b => decide (a.1 ≤ b.1) do
      say 1 ("trap -- " ++ quoteText action ++ " " ++ signalWord n ++ "\n")
    return 0
  | [name] => set none [name]
  | action :: names =>
    if action.toNat?.isSome then set none words
    else set (if action == "-" then none else some action) names

end BuildingModel.Sandbox.Shell
