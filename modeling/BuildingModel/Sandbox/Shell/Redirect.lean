import BuildingModel.Sandbox.Shell.Expansion
import BuildingModel.Sandbox.Shell.Opening

/-!
# Redirections

A redirection puts another channel in place for a descriptor. One that cannot be carried out keeps
its command from being carried out.
-/

namespace BuildingModel.Sandbox.Shell

/-- Complains that a path cannot be opened. -/
def refuseOpening {α : Type} (o : Opening) (path : String) (e : FileError) : Run α := do
  if (← context).extended then refuse (path ++ ": " ++ e.words) 1
  let isMissing := e == .notFound || e == .notADirectory
  if o.writes then
    let cause := if isMissing then "Directory nonexistent" else e.words
    refuse ("cannot create " ++ path ++ ": " ++ cause)
  else
    let cause := if isMissing then "No such file" else e.words
    refuse ("cannot open " ++ path ++ ": " ++ cause)

/-- The number of the channel that a path leads to; without one, a complaint. -/
def openOrRefuse (o : Opening) (path : String) : Run Nat := do
  match ← openPath o path with
  | .ok i => return i
  | .error e => refuseOpening o path e

/-- Puts the channel of another descriptor in place for one, or none for a dash. In the extended
shell anything else is a file for the output and for complaints. -/
def duplicate (descriptor : Nat) (target : String) : Run Unit := do
  if target == "-" then setDescriptor descriptor none
  else if !target.isEmpty && target.all Char.isDigit then
    match ← channelOf? (target.toNat?.getD 0) with
    | some i => setDescriptor descriptor (some i)
    | none =>
      refuse (target ++ ": Bad file descriptor") (if (← context).extended then 1 else 2)
  else if (← context).extended && descriptor == 1 then
    let i ← openOrRefuse { writes := true, empties := true } target
    setDescriptor 1 (some i)
    setDescriptor 2 (some i)
  else
    change fun c => { c with line := c.readTo }
    give "Syntax error: Bad fd number"

/-- Carries a redirection out. -/
def redirect (run : Runner) : Redirection → Run Unit
  | .mk descriptor direction target => do
    let opening (o : Opening) : Run Unit := do
      let path ← expandWhole run target
      let kept := (← context).kept
      let i ← openOrRefuse o path
      setDescriptor descriptor (some i)
      change ({ · with kept })
    let reading (s : String) : Run Unit := do
      let i ← addChannel (.source (bytesOf s))
      setDescriptor descriptor (some i)
    match direction with
    | .read => opening { reads := true }
    | .write => opening { writes := true, empties := true, spares := true }
    | .overwrite => opening { writes := true, empties := true }
    | .append => opening { writes := true, appends := true }
    | .appendAll =>
      let i ← openOrRefuse { writes := true, appends := true } (← expandWhole run target)
      setDescriptor 1 (some i)
      setDescriptor 2 (some i)
    | .both => opening { reads := true, writes := true }
    | .duplicate => duplicate descriptor (← expandWhole run target)
    | .document index =>
      let parts := ((← context).documents.lookup index).getD []
      match ← attempt (expandParts run parts) with
      | .ok glyphs => reading (Glyph.text glyphs)
      | .error .exit => throw (if (← context).extended then .exit else .refused)
      | .error halt => throw halt
    | .line => reading ((← expandWhole run target) ++ "\n")

/-- Carries redirections out. -/
def redirectAll (run : Runner) (redirections : List Redirection) : Run Unit := do
  for r in redirections do redirect run r

/-- Work under redirections, after which the descriptors are what they were. Channels that are
not in place in the meantime are kept for later, unless nothing comes later. -/
def redirected {α : Type} (run : Runner) (redirections : List Redirection) (work : Run α) :
    Run α := do
  let c ← context
  let named := redirections.map fun | .mk descriptor _ _ => descriptor
  let replaced := (c.descriptors.filter fun (d, _) => named.contains d).map (·.2)
  let kept := if c.closing then c.kept else replaced ++ c.kept
  change ({ · with kept })
  afterwards (do redirectAll run redirections; work)
    (change ({ · with descriptors := c.descriptors, kept := c.kept }))

end BuildingModel.Sandbox.Shell
