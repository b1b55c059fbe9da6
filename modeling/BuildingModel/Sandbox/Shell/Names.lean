import BuildingModel.Files.Tree
import BuildingModel.Sandbox.Octets
import BuildingModel.Sandbox.Shell.Pattern

/-!
# Patterns of paths

A pattern of paths is made of patterns of names. It stands for the paths that are there, in order.
A name with a point in front is found only by a pattern with one.
-/

namespace BuildingModel.Sandbox.Shell

/-- The text of a pattern. -/
def patternText (field : List PatternChar) : String :=
  String.ofList (field.map (·.1))

/-- The parts of a pattern between its slashes. -/
def nameParts (field : List PatternChar) : List (List PatternChar) :=
  field.splitOnP (·.1 == '/')

/-- The names that a pattern stands for in a directory. The extended shell leaves out those that
lead to the directory itself and to the one above it. -/
def namesLike (extended : Bool) (t : FileTree) (directory : String) (part : List PatternChar) :
    List String :=
  match t.locate (textOf (if directory.isEmpty then "." else directory)) with
  | .ok (place, some .directory) =>
    let hidden := part.head?.any (·.1 == '.')
    let names := (t.namesAt place).map octets ++ if extended then [] else [".", ".."]
    names.filter fun name =>
      stands (pieces extended part) name.toList && (hidden || !name.startsWith ".")
  | _ => []

/-- The paths after one more part of a pattern. The directories in front are tried all. -/
def extend (extended : Bool) (t : FileTree) (directories : List String) (part : List PatternChar)
    (isLast : Bool) : List String :=
  directories.flatMap fun directory =>
    let names := if isPattern part then namesLike extended t directory part else [patternText part]
    names.map fun name => directory ++ name ++ if isLast then "" else "/"

/-- The paths that parts of a pattern stand for below directories. -/
def pathsBelow (extended : Bool) (t : FileTree) :
    List String → List (List PatternChar) → List String
  | directories, [] => directories
  | directories, [part] => extend extended t directories part true
  | directories, part :: rest =>
    pathsBelow extended t (extend extended t directories part false) rest

/-- The paths that a pattern stands for. -/
def pathsLike (extended : Bool) (t : FileTree) (field : List PatternChar) : List String :=
  let isThere (path : String) : Bool := (t.find (textOf path)).toOption.isSome
  let paths := (pathsBelow extended t [""] (nameParts field)).filter isThere
  paths.mergeSort fun a b => decide (a ≤ b)

end BuildingModel.Sandbox.Shell
