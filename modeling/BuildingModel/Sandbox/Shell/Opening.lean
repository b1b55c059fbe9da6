import BuildingModel.Sandbox.Shell.State

/-!
# Opening files

A path leads to a channel: that of a file, of a device, or of a descriptor that is open already.
-/

namespace BuildingModel.Sandbox.Shell

/-- How a file is opened. -/
structure Opening where
  /-- It is read. -/
  reads : Bool := false
  /-- It is written. -/
  writes : Bool := false
  /-- What is written goes to its end. -/
  appends : Bool := false
  /-- It loses its contents. -/
  empties : Bool := false
  /-- It is not opened if it is there and an option keeps such files as they are. -/
  spares : Bool := false

/-- The descriptor that a path stands for. -/
def descriptorAt? : List String → Option Nat
  | ["dev", "stdin"] => some 0
  | ["dev", "stdout"] => some 1
  | ["dev", "stderr"] => some 2
  | ["proc", "self", "fd", s] => s.toNat?
  | _ => none

/-- The channel of a device. -/
def device? : List String → Option Channel
  | ["dev", "null"] => some .void
  | ["dev", "zero"] | ["dev", "random"] | ["dev", "urandom"] => some .zeros
  | ["dev", "full"] => some .full
  | _ => none

/-- The pipe of a file, with its end that is written to. What nobody has read is lost when nobody
has either end. -/
def namedPipe (names : List String) : Run (Nat × Nat) := do
  match (← get).named.lookup names with
  | some (pipe, inlet) =>
    let left := !(← isHeld pipe) && !(← isHeld inlet)
    if left then setChannel pipe (.pipe [] .empty 0 inlet)
    return (pipe, inlet)
  | none =>
    let ends ← addPipe
    modify fun s => { s with named := (names, ends) :: s.named }
    return ends

/-- Opens a pipe that has a name: whoever reads waits for one who writes, and the other way round.
The channel is kept. -/
def openPipe (o : Opening) (names : List String) : Run Nat := do
  let (pipe, inlet) ← namedPipe names
  let own := if o.writes && !o.reads then inlet else pipe
  let isMet ← isHeld inlet
  change fun c => { c with kept := own :: c.kept }
  if !o.writes then
    if !isMet then pause [.held inlet, .held pipe]
  else if !o.reads then pause [.held pipe]
  return own

/-- The number of the channel that a path leads to, or why it leads to none. -/
def openPath (o : Opening) (path : String) : Run (Except FileError Nat) := do
  match (← tree).locate (textOf path) with
  | .error e => return .error e
  | .ok (names, place?) =>
    if let some descriptor := descriptorAt? names then
      match ← channelOf? descriptor with
      | some i => return .ok i
      | none => return .error .notFound
    if let some c := device? names then return .ok (← addChannel c)
    if names == ["dev", "tty"] then return .error (.other "No such device or address")
    match place? with
    | some .directory =>
      if o.writes then return .error .isADirectory
      return .ok (← addChannel .directory)
    | some (.file f) =>
      if f.isPipe then return .ok (← openPipe o names)
      if o.empties then
        if o.spares && (← hasOption 'C') then return .error (.other "File exists")
        putFile names { f with bytes := [] }
      return .ok (← addChannel (.file names 0 o.appends o.reads o.writes))
    | none =>
      if !o.writes then return .error .notFound
      let mode ← newMode 0o666
      putFile names { mode }
      return .ok (← addChannel (.file names 0 o.appends o.reads o.writes))

end BuildingModel.Sandbox.Shell
