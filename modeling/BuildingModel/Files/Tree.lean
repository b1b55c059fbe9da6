import BuildingModel.Files.Error
import BuildingModel.Files.Path

/-!
# Trees of files

A tree of files in memory, with a working directory in it: what a program that reads files can be
given in place of a disk. `locate` follows a path name by name, as an operating system does, so it
tells a file that is missing from one that is sought below another file, and both from a name that
is too long.
-/

namespace BuildingModel

/-- A file of a tree. -/
structure File where
  /-- Its contents. -/
  bytes : List UInt8 := []
  /-- Its permissions, each a bit. -/
  mode : Nat := 0o644
  /-- The program of the system that it holds, if it holds one. -/
  program : Option String := none
  /-- When it was changed last, in millionths of a second after the start of the clock. -/
  time : Int := 0
  /-- Whether it is a pipe, which holds nothing itself. -/
  isPipe : Bool := false
deriving DecidableEq, Repr

/-- Whether a file may be run. -/
def File.runs (f : File) : Bool := f.mode &&& 0o111 != 0

/-- What stands at the end of a path. -/
inductive Place where
  /-- A file. -/
  | file (f : File)
  /-- A directory. -/
  | directory
deriving DecidableEq, Repr

/-- A tree of files. -/
structure FileTree where
  /-- The files, each after the names that lead to it from the root. Of two files after the same
  names the first counts. -/
  files : List (List String × File)
  /-- The directories that are there even if nothing is in them. -/
  directories : List (List String) := []
  /-- The permissions of directories, where they are not the usual ones. -/
  modes : List (List String × Nat) := []
  /-- When directories were changed last, where that is known. -/
  times : List (List String × Int) := []
  /-- The places that stand for others. -/
  links : List (List String × List String) := []
  /-- The names that lead from the root to the working directory. -/
  here : List String := []
deriving DecidableEq, Repr

namespace FileTree

/-- How many bytes a name may have. -/
def nameLimit : Nat := 255

/-- How many bytes a path may have. -/
def pathLimit : Nat := 4095

/-- What the given names lead to from the root. There is a directory above every file and above
every directory, the working directory among them. -/
def place? (t : FileTree) (names : List String) : Option Place :=
  match t.files.lookup names with
  | some f => some (.file f)
  | none =>
    if names.isPrefixOf t.here || t.directories.any names.isPrefixOf
        || t.files.any (fun (path, _) => names.isPrefixOf path) then
      some .directory
    else none

/-- Where a directory has a name: the directory itself for a name that counts for nothing, the one
above it for two points. -/
def step (spot : List String) (name : String) : List String :=
  if Path.isIdle name.toList then spot
  else if name == ".." then spot.dropLast
  else spot ++ [name]

/-- Where a directory of the tree has a name, or what stands there for another place. -/
def enter (t : FileTree) (spot : List String) (name : String) : List String :=
  (t.links.lookup (step spot name)).getD (step spot name)

/-- Where the given names lead to from a place that has been reached, and what is there. Only the
last name may lead to nothing. -/
def seek (t : FileTree) (spot : List String) (place : Place) :
    List String → Except FileError (List String × Option Place)
  | [] => .ok (spot, some place)
  | name :: rest =>
    match place with
    | .file _ => .error .notADirectory
    | .directory =>
      if nameLimit < name.utf8ByteSize then .error .nameTooLong
      else
        match t.place? (t.enter spot name), rest with
        | some next, _ => t.seek (t.enter spot name) next rest
        | none, [] => .ok (t.enter spot name, none)
        | none, _ :: _ => .error .notFound

/-- Where a path starts: at the root if a slash is in front, else in the working directory. -/
def origin (t : FileTree) (path : String) : List String :=
  if path.startsWith "/" then [] else t.here

/-- The names of a path between its slashes. -/
def namesOf (path : String) : List String :=
  (Path.names path.toList).map String.ofList

/-- Where a path leads to, and what is there. -/
def locate (t : FileTree) (path : String) : Except FileError (List String × Option Place) :=
  if path.contains '\x00' then .error .nullInPath
  else if path.isEmpty then .error .notFound
  else if pathLimit < path.utf8ByteSize then .error .nameTooLong
  else t.seek (t.origin path) .directory (namesOf path)

/-- What a path leads to. -/
def find (t : FileTree) (path : String) : Except FileError Place := do
  match ← t.locate path with
  | (_, some place) => return place
  | (_, none) => throw .notFound

/-- The permissions that directories usually have. -/
def usualMode : Nat := 0o755

/-- The permissions of what is at a place. -/
def modeAt (t : FileTree) (names : List String) : Place → Nat
  | .file f => f.mode
  | .directory => (t.modes.lookup names).getD usualMode

/-- When what is at a place was changed last. -/
def timeAt (t : FileTree) (names : List String) : Place → Int
  | .file f => f.time
  | .directory => (t.times.lookup names).getD 0

/-- The names of what is in the directory at a place, in some order. -/
def namesAt (t : FileTree) (names : List String) : List String :=
  let below (path : List String) : Option String :=
    if names.isPrefixOf path then path[names.length]? else none
  ((t.files.map (·.1) ++ t.directories ++ t.links.map (·.1)).filterMap below).eraseDups

/-- The contents of the file that a path leads to. -/
def readBytes (t : FileTree) (path : String) : Except FileError (List UInt8) := do
  match ← t.find path with
  | .directory => throw .isADirectory
  | .file f => return f.bytes

/-- The contents of the file that a path leads to, as text. -/
def readText (t : FileTree) (path : String) : Except FileError String := do
  let bytes ← t.readBytes path
  match String.fromUTF8? ⟨bytes.toArray⟩ with
  | some s => return s
  | none => throw .notText

/-- The tree with a file at a place. -/
def put (t : FileTree) (names : List String) (f : File) : FileTree :=
  { t with files := (names, f) :: t.files.filter (·.1 != names) }

/-- The place of the link that a path names with its last name, if it names one. -/
def linkAt? (t : FileTree) (path : String) : Option (List String) := do
  let names := namesOf path
  let (spot, some .directory) ← (t.seek (t.origin path) .directory names.dropLast).toOption | none
  let place := step spot (← names.getLast?)
  if (t.links.lookup place).isSome then some place else none

/-- The tree with a place that stands for another. -/
def withLink (t : FileTree) (place target : List String) : FileTree :=
  { t with links := (place, target) :: t.links.filter (·.1 != place) }

/-- The tree without a place that stands for another. The directory above stays. -/
def withoutLink (t : FileTree) (place : List String) : FileTree :=
  { t with
    links := t.links.filter (·.1 != place)
    directories := place.dropLast :: t.directories }

/-- The tree with another time for what is at a place. -/
def withTime (t : FileTree) (names : List String) (time : Int) : FileTree :=
  match t.files.lookup names with
  | some f => t.put names { f with time }
  | none => { t with times := (names, time) :: t.times.filter (·.1 != names) }

/-- The tree with a directory at a place. -/
def makeDirectory (t : FileTree) (names : List String) (mode : Nat) (time : Int) : FileTree :=
  { t with
    directories := names :: t.directories
    modes := (names, mode) :: t.modes.filter (·.1 != names)
    times := (names, time) :: t.times.filter (·.1 != names) }

/-- The tree with other permissions for what is at a place. -/
def withMode (t : FileTree) (names : List String) (mode : Nat) : FileTree :=
  match t.files.lookup names with
  | some f => t.put names { f with mode }
  | none => { t with modes := (names, mode) :: t.modes.filter (·.1 != names) }

/-- The tree without what is at a place and below it. The directory above stays. -/
def erase (t : FileTree) (names : List String) : FileTree :=
  { t with
    files := t.files.filter fun (path, _) => !names.isPrefixOf path
    modes := t.modes.filter fun (path, _) => !names.isPrefixOf path
    times := t.times.filter fun (path, _) => !names.isPrefixOf path
    links := t.links.filter fun (path, _) => !names.isPrefixOf path
    directories := names.dropLast :: t.directories.filter fun path => !names.isPrefixOf path }

/-- The tree with a file under a path, whatever is there. -/
def write (t : FileTree) (path : String) (bytes : List UInt8) (mode : Nat := 0o644)
    (time : Int := 0) : FileTree :=
  t.put ((namesOf path).foldl t.enter (t.origin path)) { bytes, mode, time }

end FileTree

end BuildingModel
