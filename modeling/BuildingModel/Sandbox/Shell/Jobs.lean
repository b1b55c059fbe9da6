import BuildingModel.Sandbox.Shell.Signal

/-!
# Commands on jobs

A shell knows its jobs by their places. A job that has been waited for keeps its place, and its
status may be asked for again, until something else is started that takes the place. Here are the
commands of the shell itself that wait for jobs and tell of them. Each gives its status.
-/

namespace BuildingModel.Sandbox.Shell

/-! ## Places -/

/-- The first place that is free among so many, where jobs that are gone leave theirs. -/
def freePlace (jobs : List KnownJob) (live : List Nat) : Nat :=
  let taken := (jobs.filter fun k => !k.settled || live.contains k.number).map (·.place)
  ((List.range taken.length).find? fun n => !taken.contains (n + 1)).getD taken.length + 1

/-- The numbers of the processes that have not ended. -/
def liveNumbers : Run (List Nat) := return (← get).live.map (·.1)

/-- Takes the first place that is free for something that is started. -/
def claimPlace : Run Nat := do
  let place := freePlace (← context).jobs (← liveNumbers)
  change fun c => { c with jobs := c.jobs.filter (·.place != place) }
  return place

/-! ## Waiting -/

/-- How many millionths of a second it takes until a process sees that a signal has come. -/
def signalTime : Nat := 500

/-- Waits until jobs have ended, all or any of them, unless a signal comes for which something is
done; the number of that signal. -/
def awaitJobs (jobs : List Nat) (all : Bool) : Run (Option Nat) := do
  pause [.ended jobs all]
  let signal? := (← arrived).head?
  if signal?.isNone then return none
  rest signalTime
  let live ← liveNumbers
  let hasEnded (job : Nat) : Bool := !live.contains job
  return if if all then jobs.all hasEnded else jobs.any hasEnded then none else signal?

/-- The status of a job that has ended, which is told if it was killed in the meantime. -/
def statusOfJob (isNew : Bool) (job : Nat) : Run Nat := do
  match (← get).ended.lookup job with
  | none => return 127
  | some ending =>
    if isNew && !(← context).extended then
      if let some text := ending.killed.bind fun n => killedTexts.lookup n then say 2 (text ++ "\n")
    return ending.status

/-- Waits for the next job that ends; its status. -/
def waitForNext : Run Nat := do
  let jobs := (← context).jobs
  if jobs.isEmpty then return 127
  let numbers := jobs.map (·.number)
  if let some signal ← awaitJobs numbers false then return 128 + signal
  let found? := (← get).ended.reverse.find? fun (job, _) => numbers.contains job
  let some (job, ending) := found? | return 127
  change ({ · with jobs := jobs.filter (·.number != job) })
  return ending.status

/-- Waits for jobs; the status of the last one. -/
def wait (words : List String) : Run Nat := do
  if words == ["-n"] && (← context).extended then return ← waitForNext
  if words.isEmpty then
    let jobs := (← context).jobs
    if let some signal ← awaitJobs (jobs.map (·.number)) true then return 128 + signal
    let settled := jobs.map ({ · with settled := true })
    change fun c => { c with jobs := if c.extended then [] else settled }
    return 0
  let mut status := 0
  for word in words do
    let jobs := (← context).jobs
    let job ←
      if word.startsWith "%" then
        match jobNamed? (← context) (word.drop 1).toString with
        | some job => pure job.number
        | none => refuse ("No such job: " ++ word)
      else numberIn word
    if jobs.any (·.number == job) then
      let isNew := (← liveNumbers).contains job
      if let some signal ← awaitJobs [job] true then return 128 + signal
      change ({ · with jobs := jobs.map fun k =>
        if k.number == job then { k with settled := true } else k })
      status ← statusOfJob isNew job
    else status := 127
  return status

/-! ## Telling -/

/-- What has become of a job. -/
def fateOf (k : KnownJob) : Run String := do
  match (← get).ended.lookup k.number with
  | none => return "Running"
  | some ⟨some signal, _⟩ => return (killedTexts.lookup signal).getD "Done"
  | some ⟨none, code⟩ => return if code == 0 then "Done" else "Done(" ++ toString code ++ ")"

/-- Tells of a job, which is not known any more if it has ended. -/
def tellJob (withNumber : Bool) (k : KnownJob) : Run Unit := do
  let c ← context
  let sign :=
    if (c.jobs.head?.map (·.place)) == some k.place then "+"
    else if (c.jobs[1]?.map (·.place)) == some k.place then "-" else " "
  let number := if withNumber then toString k.number ++ " " else ""
  let front := "[" ++ toString k.place ++ "] " ++ sign ++ " " ++ number ++ (← fateOf k)
  let others := String.join (List.replicate (k.parts - 1) " | ")
  say 1 (front ++ String.ofList (List.replicate (max 1 (33 - front.length)) ' ') ++ others ++ "\n")
  if !(← liveNumbers).contains k.number then
    change fun c => { c with jobs := c.jobs.filter (·.place != k.place) }

/-- Tells of jobs, of all unless some are named. -/
def tellJobs (words : List String) : Run Nat := do
  let (found, names) ← takeOptions { flags := "lp" } words
  let c ← context
  let mut chosen := if names.isEmpty then c.jobs else []
  for name in names do
    match jobNamed? c (if name.startsWith "%" then (name.drop 1).toString else name) with
    | some job => chosen := chosen ++ [job]
    | none => refuse ("No such job: " ++ name)
  for job in chosen do
    if isTaken found 'p' then say 1 (toString job.number ++ "\n")
    else if !c.extended then tellJob (isTaken found 'l') job
  return 0

/-- Refuses to go on with a job, which only a terminal lets a shell do. -/
def goOn (words : List String) : Run Nat := do
  let name := words.headD ""
  match jobNamed? (← context) (if name.startsWith "%" then (name.drop 1).toString else name) with
  | some _ =>
    let shown := words.headD "(null)"
    refuse ("job " ++ shown ++ " not created under job control")
  | none => refuse (if words.isEmpty then "No current job" else "No such job: " ++ name)

end BuildingModel.Sandbox.Shell
