import BuildingModel.Sandbox.Shell.Condition
import BuildingModel.Sandbox.Tool.Files

/-!
# Copying and moving

The programs that copy or move files and directories to other places.
-/

namespace BuildingModel.Sandbox.Tool

open Shell (Run tree changeTree)

/-- Copies what is at a place, and below it, to another one at a time. What is new has the
permissions of what is copied but for those of a mask, and a file that is there keeps its own,
unless permissions and times are kept. -/
def copyPlace (keepsModes : Bool) (mask : Nat) (time : Int) (source target : List String)
    (t : FileTree) : FileTree :=
  let moved (path : List String) : List String := target ++ path.drop source.length
  let files := t.files.filter fun (path, _) => source.isPrefixOf path
  let directories := t.directories.filter source.isPrefixOf
  let modes := t.modes.filter fun (path, _) => source.isPrefixOf path
  let masked (mode : Nat) : Nat := if keepsModes then mode else mode &&& (0o777 - mask % 512)
  let place (t : FileTree) (path : List String) (f : File) : FileTree :=
    let f := if keepsModes then f else { f with time }
    match t.files.lookup path with
    | some old => t.put path { f with mode := if keepsModes then f.mode else old.mode }
    | none => t.put path { f with mode := masked f.mode }
  (files.map fun (path, f) => (moved path, f)).foldl (fun t (path, f) => place t path f)
    { t with
      directories := directories.map moved ++ t.directories
        ++ (if t.place? source == some .directory then [target] else [])
      modes := (modes.map fun (path, mode) => (moved path, masked mode)) ++ t.modes }

/-- What is told of a copy: the path and where it goes. -/
def copyText (source target : String) : String := quoted source ++ " -> " ++ quoted target

/-- The paths of what is below a directory, each before what is in it. -/
def pathsInside (t : FileTree) : Nat → List String → String → List String
  | 0, _, _ => []
  | n + 1, names, path =>
    (((t.namesAt names).mergeSort fun a b => a ≤ b).map fun s =>
      (path ++ "/" ++ octets s) :: pathsInside t n (names ++ [s]) (path ++ "/" ++ octets s)).flatten

/-- How things are copied or moved. -/
structure Transfer where
  /-- The name of the program. -/
  name : String
  /-- Whether things are moved. -/
  moves : Bool
  /-- The options. -/
  options : Parsed

namespace Transfer

/-- Whether what is there already is kept. -/
def keeps (x : Transfer) : Bool := x.options.has 'n' || x.options.value? 'u' == some "none"

/-- Whether only what is newer than what is there already takes its place. -/
def isUpdate (x : Transfer) : Bool := x.options.has 'U' || x.options.value? 'u' == some "older"

/-- Whether directories are copied with what is in them. -/
def isRecursive (x : Transfer) : Bool := ['r', 'R', 'a'].any x.options.has

/-- Complains; nothing has been transferred. -/
def fail (x : Transfer) (message : String) : Run Bool := do
  report x.name message
  return false

/-- Carries a transfer out between places. -/
def carryOut (x : Transfer) (source target : String) (from_ goal : List String) (place : Place) :
    Run Bool := do
  let t ← tree
  if x.options.has 'v' then
    if x.moves then sayLine ("renamed " ++ copyText source target)
    else
      sayLine (copyText source target)
      if place == .directory then
        for path in pathsInside t depthLimit from_ source do
          sayLine (copyText path (target ++ (path.drop source.length).toString))
  let keepsModes := x.moves || ['p', 'a'].any x.options.has
  let mask := (← Shell.context).mask
  let time ← Shell.now
  changeTree fun t =>
    let t := copyPlace keepsModes mask time from_ goal t
    if x.moves then t.erase from_ else t
  return true

/-- Copies or moves what is at a path to another path, which is not within a directory that is
meant. -/
def exactly (x : Transfer) (source target : String) : Run Bool := do
  let t ← tree
  match t.locate (textOf source) with
  | .error e => x.fail ("cannot stat " ++ quoted source ++ ": " ++ e.words)
  | .ok (_, none) => x.fail ("cannot stat " ++ quoted source ++ ": " ++ FileError.notFound.words)
  | .ok (from_, some place) =>
    let isDirectory := place == .directory
    if !isDirectory && source.endsWith "/" then
      return ← x.fail ("cannot stat " ++ quoted source ++ ": " ++ FileError.notADirectory.words)
    if isDirectory && !x.moves && !x.isRecursive then
      return ← x.fail ("-r not specified; omitting directory " ++ quoted source)
    let slashed := target.endsWith "/"
    let stripped := String.ofList (dropSlashes target.toList)
    match t.locate (textOf (if stripped.isEmpty then target else stripped)) with
    | .error e =>
      if x.moves then
        x.fail (if target.isEmpty then "cannot move " ++ quoted source ++ " to '': " ++ e.words
          else if e == .notADirectory then "cannot stat " ++ quoted target ++ ": " ++ e.words
          else "cannot move " ++ quoted source ++ " to " ++ quoted target ++ ": " ++ e.words)
      else if e == .notADirectory then x.fail ("cannot stat " ++ quoted target ++ ": " ++ e.words)
      else x.fail ((if isDirectory then "cannot create directory "
          else "cannot create regular file ") ++ quoted target ++ ": " ++ e.words)
    | .ok (goal, there) =>
      if x.moves && [".", ".."].contains (lastName source) then
        return ← x.fail ("cannot move " ++ quoted source ++ " to " ++ quoted target
          ++ ": Device or resource busy")
      if isDirectory && from_.isPrefixOf goal then
        return ← x.fail (if x.moves then
            "cannot move " ++ quoted source ++ " to a subdirectory of itself, " ++ quoted target
          else "cannot copy a directory, " ++ quoted source ++ ", into itself, " ++ quoted target)
      if from_ == goal then
        return ← x.fail (quoted source ++ " and " ++ quoted target ++ " are the same file")
      match isDirectory, there with
      | true, some (.file _) =>
        if x.keeps then return true
        x.fail ("cannot overwrite non-directory " ++ quoted target ++ " with directory "
          ++ quoted source)
      | false, some .directory =>
        x.fail ("cannot overwrite directory " ++ quoted target ++ " with non-directory")
      | true, some .directory =>
        if x.moves && !isEmptyPlace t goal then
          x.fail ("cannot overwrite " ++ quoted target ++ ": Directory not empty")
        else x.carryOut source target from_ goal place
      | false, some (.file _) =>
        if slashed then
          x.fail ("cannot stat " ++ quoted target ++ ": " ++ FileError.notADirectory.words)
        else if x.keeps then
          if x.moves then x.fail ("not replacing " ++ quoted target) else return true
        else if x.isUpdate && !Shell.Condition.isNewer true t source target then return true
        else x.carryOut source target from_ goal place
      | _, none =>
        if !isDirectory && slashed then
          x.fail (if x.moves then "cannot move " ++ quoted source ++ " to " ++ quoted target ++ ": "
              ++ FileError.notADirectory.words
            else "cannot create regular file " ++ quoted target ++ ": "
              ++ FileError.notADirectory.words)
        else x.carryOut source target from_ goal place

/-- Whether a path leads to a directory. -/
def isDirectory (path : String) : Run Bool := do
  match (← tree).locate (textOf path) with
  | .ok (_, some .directory) => return true
  | _ => return false

/-- The path that a path is given in a directory. -/
def within (directory source : String) : String :=
  let name := lastName source
  if directory.endsWith "/" then directory ++ name else directory ++ "/" ++ name

end Transfer

/-- Copies or moves files. -/
def transfer (moves : Bool) : Program := fun name words =>
  let flags := if moves then "bfinTvZ" else "abdfHilLnPpRrsTvxZ"
  withOptions { flags := flags ++ "U", valued := "tSu", names := [("recursive", 'r'),
      ("force", 'f'), ("verbose", 'v'), ("archive", 'a'), ("no-clobber", 'n'), ("update", 'u'),
      ("target-directory", 't'), ("no-target-directory", 'T')] } 1 name
      (words.map fun word => if word == "-u" then "-U" else word) fun p => do
    let x : Transfer := ⟨name, moves, p⟩
    if p.has 'n' && !moves then
      report name ("warning: behavior of -n is non-portable and may change in future; "
        ++ "use --update=none instead")
    let into (directory : String) (sources : List String) : Run Nat :=
      onEach sources fun source => x.exactly source (Transfer.within directory source)
    match p.value? 't', p.operands.reverse with
    | _, [] => misuse 1 name "missing file operand"
    | some directory, sources => into directory sources.reverse
    | none, [only] => misuse 1 name ("missing destination file operand after " ++ quoted only)
    | none, [target, source] =>
      if (← Transfer.isDirectory target) && !p.has 'T' then into target [source]
      else return statusOf (← x.exactly source target)
    | none, target :: sources =>
      if ← Transfer.isDirectory target then return ← into target sources.reverse
      let e := match (← tree).find (textOf target) with
        | .ok _ => FileError.notADirectory
        | .error e => e
      failWith 1 name ("target " ++ quoted target ++ ": " ++ e.words)

end BuildingModel.Sandbox.Tool
