import BuildingModel.Files.Tree
import BuildingModel.Sandbox.Octets

/-!
# Programs that are started

A file that is started holds a program of the system, or it is a script: its first line names the
file that is started in its place, with at most one argument. Only the front of a script is looked
at. `FileTree.start` follows scripts down to the program, a few levels deep, and tells why none is
reached; `FileTree.startByName` looks a name up in the directories of a search path.
-/

namespace BuildingModel.Sandbox

/-- A program of the system that is about to run. -/
structure Process where
  /-- Its name. -/
  program : String
  /-- The words it is given, in octets. The first one is what it is called by. -/
  words : List String
deriving DecidableEq, Repr

/-! ## First lines -/

/-- How many bytes of a script are looked at. -/
def frontLength : Nat := 256

/-- The blanks of a first line. -/
def isLineBlank (c : Char) : Bool :=
  c == ' ' || c == '\t'

/-- A text without the blanks at its end. -/
def trimLineEnd (s : List Char) : List Char :=
  (s.reverse.dropWhile isLineBlank).reverse

/-- The path and the argument on a line. A null ends either. An argument may be empty only if a
null stands in its place. -/
def lineParts (line : List Char) : Option (String × Option String) :=
  let line := (trimLineEnd line).dropWhile isLineBlank
  if line.isEmpty then none
  else
    let path := line.takeWhile fun c => !isLineBlank c && c != '\x00'
    let argument :=
      match line.drop path.length with
      | c :: rest =>
        if isLineBlank c then
          some (String.ofList ((rest.dropWhile isLineBlank).takeWhile (· != '\x00')))
        else none
      | [] => none
    some (String.ofList path, argument)

/-- Whether a path on an endless line ends within the front of its script. -/
def hasEnd (front : List Char) : Bool :=
  (front.dropWhile isLineBlank).any fun c => isLineBlank c || c == '\x00'

/-- The path and the argument that the first line of a script names. The front of a short script is
filled up with nulls. A line that does not end within the front, or not before a null, is cut off
there, but its path has to be complete. -/
def firstLine? (bytes : List UInt8) : Option (String × Option String) :=
  let front := (octetsOf (bytes.take frontLength)).toList
  match front ++ List.replicate (frontLength - front.length) '\x00' with
  | '#' :: '!' :: rest =>
    let line := rest.takeWhile fun c => c != '\n' && c != '\x00'
    if (rest.drop line.length).head? == some '\n' then lineParts line
    else if hasEnd rest then lineParts rest.dropLast
    else none
  | _ => none

end Sandbox

/-! ## Starting -/

open Sandbox

namespace FileTree

/-- How many scripts may lead to a program. -/
def scriptLimit : Nat := 5

/-- How many bytes a word may have. -/
def wordLimit : Nat := 131071

/-- How many bytes all words may take, with a null and an address for each. -/
def wordsLimit : Nat := 2097152

/-- The file of a path, if it may be run. The empty path of a script is the working directory. -/
def runnable (t : FileTree) (path : String) : Except FileError File := do
  if path.isEmpty then throw .permissionDenied
  match ← t.find (textOf path) with
  | .file f => if f.runs then return f else throw .permissionDenied
  | .directory => throw .permissionDenied

/-- The program that a file with a path leads to, if so many scripts may follow it. -/
def load (t : FileTree) (levels : Nat) (f : File) (path : String) (words : List String) :
    Except FileError Process :=
  match f.program, firstLine? f.bytes with
  | some program, _ => .ok ⟨program, words⟩
  | none, none => .error .notAProgram
  | none, some (next, argument) => do
    let g ← t.runnable next
    match levels with
    | 0 => throw .tooManyLinks
    | levels + 1 => t.load levels g next (next :: argument.toList ++ path :: words.drop 1)

/-- Whether words take more room than a program may be given. -/
def areTooLong (words : List String) : Bool :=
  words.any (wordLimit < ·.length)
    || wordsLimit < words.foldl (fun n word => n + word.length + 9) 0

/-- The program that is started with a path and words. -/
def start (t : FileTree) (path : String) (words : List String) : Except FileError Process := do
  if path.isEmpty then throw .notFound
  let f ← t.runnable path
  if areTooLong words then throw .argumentTooLong
  t.load scriptLimit f path words

/-- The path of the shell. -/
def shellPath : String := "/bin/sh"

/-- `start`, or the shell that is to carry out a file that is no program. -/
def startOrShell (t : FileTree) (path : String) (words : List String) : Except FileError Process :=
  match t.start path words with
  | .error .notAProgram => t.start shellPath (shellPath :: path :: words.drop 1)
  | r => r

/-- The path of a name in a directory. -/
def pathIn (directory name : String) : String :=
  if directory.isEmpty then name else directory ++ "/" ++ name

/-- The program that is started with a name that is sought in directories, after an error. A
directory without it is passed over; one where it may not be run decides the error at the end. -/
def startWithin (begin : String → Except FileError Process) (name : String) (denied : Bool)
    (last : FileError) : List String → Except FileError Process
  | [] => .error (if denied then .permissionDenied else last)
  | directory :: rest =>
    match begin (pathIn directory name) with
    | .ok p => .ok p
    | .error .permissionDenied => startWithin begin name true .permissionDenied rest
    | .error .notFound => startWithin begin name denied .notFound rest
    | .error .notADirectory => startWithin begin name denied .notADirectory rest
    | .error e => .error e

/-- The program that begins with a path, or with a name that is sought in the directories of a
search path. -/
def startByName (begin : String → Except FileError Process) (searched name : String) :
    Except FileError Process :=
  if name.isEmpty then .error .notFound
  else if name.contains '/' then begin name
  else if nameLimit < name.length then .error .nameTooLong
  else startWithin begin name false .notFound (searched.splitOn ":")

end FileTree

end BuildingModel
