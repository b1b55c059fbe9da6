import BuildingModel.Render.Evaluator
import BuildingModel.Sandbox.Shell.Schedule

/-!
# Programs in a tree of files

How a program is run where all files are those of a tree. Its scratch files are written, the program
that its path or its name leads to is found, and is carried out. What it changes in the tree stays,
but for the scratch files.
-/

namespace BuildingModel.Sandbox

open Render

/-- A system on which programs run. -/
structure System where
  /-- Its files. -/
  tree : FileTree
  /-- The variables that programs are given, in order of their names. -/
  bindings : List (String × String) := [("PATH", Shell.defaultPath)]

/-- The front of the paths of scratch files. -/
def scratchFront : String := "/tmp/ifc-json-"

/-- How many characters tell scratch files apart. -/
def scratchDigits : Nat := 6

/-- The path of a scratch file, named after its place among the arguments. -/
def scratchPath (i : Nat) (ending : String) : String :=
  let digits := (toString i).toList
  scratchFront ++ String.ofList (List.replicate (scratchDigits - digits.length) '0' ++ digits)
    ++ ending

/-- The words that arguments become. -/
def argumentWords (arguments : List Argument) : List String :=
  arguments.zipIdx.map fun (argument, i) =>
    match argument with
    | .word s => s
    | .scratch word _ ending => word ++ scratchPath i ending

/-- The paths of the scratch files of arguments, with their contents. -/
def scratchFiles (arguments : List Argument) : List (String × List UInt8) :=
  arguments.zipIdx.filterMap fun (argument, i) =>
    match argument with
    | .word _ => none
    | .scratch _ contents ending => some (scratchPath i ending, contents.toUTF8.toList)

namespace System

/-- The directories in which programs are sought if no variable names them. -/
def plainPath : String := "/bin:/usr/bin"

/-- The program that an invocation leads to. -/
def program (s : System) (i : Invocation) : Except FileError Process :=
  let words := i.program :: argumentWords i.arguments
  if words.any (·.contains '\x00') then .error .nullInArgument
  else
    let searched := octets ((s.bindings.lookup "PATH").getD plainPath)
    FileTree.startByName (s.tree.start · (words.map octets)) searched (octets i.program)

/-- The channels of a program that is given nothing to read. -/
def channels : Array Shell.Channel := #[.void, .sink .empty, .sink .empty]

/-- What a channel has collected. -/
def collected (channels : Array Shell.Channel) (i : Nat) : List UInt8 :=
  match channels[i]? with
  | some (.sink bytes) => bytes.data.toList
  | _ => []

/-- Carries a program out. -/
def carryOut (s : System) (p : Process) : Completion × System :=
  let bindings := s.bindings.map fun (x, v) => (octets x, octets v)
  let context : Shell.Context := { name := "", here := s.tree.here }
  let (ending, state) := Shell.Schedule.carryOut Shell.shell
    (Shell.starter Shell.shell bindings p) { tree := s.tree, channels, context, clock := 1000000 }
  let status := match ending.killed with
    | some signal => .signal signal
    | none => .code ending.code
  (⟨status, collected state.channels 1, collected state.channels 2⟩, { s with tree := state.tree })

/-- The permissions of scratch files. -/
def scratchMode : Nat := 0o600

/-- When scratch files are written, in millionths of a second. -/
def scratchTime : Int := 900000

/-- The tree with scratch files. -/
def withScratch (t : FileTree) (files : List (String × List UInt8)) : FileTree :=
  files.foldl (fun t (path, bytes) => t.write path bytes scratchMode scratchTime) t

/-- The tree without scratch files. -/
def withoutScratch (t : FileTree) (files : List (String × List UInt8)) : FileTree :=
  files.foldl (fun t (path, _) => t.erase (FileTree.namesOf path)) t

/-- Runs a program. -/
def run (s : System) (i : Invocation) : Except RunError Completion × System :=
  let files := scratchFiles i.arguments
  let s := { s with tree := withScratch s.tree files }
  let clean (s : System) : System := { s with tree := withoutScratch s.tree files }
  match s.program i with
  | .error e => (.error (.notStarted e), clean s)
  | .ok p =>
    let (completion, s) := s.carryOut p
    (.ok completion, clean s)

end System

end BuildingModel.Sandbox
