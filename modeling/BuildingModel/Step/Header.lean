import BuildingModel.Step.Statement

/-!
# Headers

The header section tells what a file is: its name, its origin and the schema of its data. Records
that cannot be read are passed over, and what they would tell is left out.
-/

namespace BuildingModel.Step

open Text

/-- What the header section tells about a file. -/
structure Header where
  /-- The schema of the data, empty when the header does not name one. -/
  schemaVersion : String := ""
  /-- The name of the file. -/
  fileName : Option String := none
  /-- When the file was written. -/
  timestamp : Option String := none
  /-- The first author. -/
  author : Option String := none
  /-- The first organization. -/
  organization : Option String := none
  /-- The program that wrote the exchange structure. -/
  preprocessorVersion : Option String := none
  /-- The program the data come from. -/
  originatingSystem : Option String := none
deriving DecidableEq, Repr

namespace Header

/-- The text, unless it is empty. -/
def nonempty? (s : String) : Option String :=
  if s.isEmpty then none else some s

mutual

/-- The first string that is not empty within a parameter: the parameter itself, or in a list. -/
def firstText? : Parameter → Option String
  | .text s => nonempty? (String.ofList (decode s.toList))
  | .list items => firstTextOf? items
  | _ => none

/-- The first string that is not empty within a list of parameters. -/
def firstTextOf? : List Parameter → Option String
  | [] => none
  | p :: ps =>
    match firstText? p with
    | some s => some s
    | none => firstTextOf? ps

end

/-- The header after one more record. A later record of the same kind takes the place of an
earlier one. -/
def add (h : Header) (record : Record) : Header :=
  let field (i : Nat) : Option String := record.parameters[i]? >>= firstText?
  match record.keyword.toUpper with
  | "FILE_NAME" =>
    { h with
      fileName := field 0
      timestamp := field 1
      author := field 2
      organization := field 3
      preprocessorVersion := field 4
      originatingSystem := field 5 }
  | "FILE_SCHEMA" =>
    match field 0 with
    | some schema => { h with schemaVersion := schema }
    | none => h
  | _ => h

/-- The word that opens the header section. -/
def sectionStart : List Char := ['H', 'E', 'A', 'D', 'E', 'R', ';']

/-- The word that closes a section. -/
def sectionEnd : List Char := ['E', 'N', 'D', 'S', 'E', 'C', ';']

/-- The header of a content: the records of the first header section, which ends at the first
closing word or with the content. -/
def ofContent (content : String) : Header :=
  match afterFirst? sectionStart content.toList with
  | none => {}
  | some rest =>
    (splitStatements false [] (beforeFirst sectionEnd [] rest)).foldl
      (fun h statement =>
        match Record.parse statement with
        | .ok record => h.add record
        | .error _ => h)
      {}

end Header

end BuildingModel.Step
