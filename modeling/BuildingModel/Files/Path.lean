/-!
# Paths

A path is a sequence of names between slashes. Empty names, and names of a single point, count for
nothing, except a single point at the very front.
-/

namespace BuildingModel.Path

/-- The names of a path between its slashes. -/
def names (path : List Char) : List (List Char) :=
  path.splitOn '/'

/-- Whether a name counts for nothing. -/
def isIdle (name : List Char) : Bool :=
  name == [] || name == ['.']

/-- How many characters at the front of a path always stay: a slash, or a single point. -/
def anchorLength : List Char → Nat
  | '/' :: _ => 1
  | ['.'] => 1
  | '.' :: '/' :: _ => 1
  | _ => 0

/-- The directory that a path names a file of; none if the path has a single name. -/
def directory? (path : String) : Option String :=
  let s := path.toList
  let anchor := s.take (anchorLength s)
  match (names (s.drop (anchorLength s))).reverse.dropWhile isIdle with
  | [] => none
  | _ :: above =>
    let kept := (above.dropWhile isIdle).reverse
    let found := anchor ++ List.intercalate ['/'] kept
    if found.isEmpty then none else some (String.ofList found)

end BuildingModel.Path
