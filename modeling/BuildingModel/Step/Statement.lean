import BuildingModel.Step.Record
import BuildingModel.Text.Search
import Std.Data.TreeMap

/-!
# Statements

A statement runs to the first semicolon outside string literals. The statements of a data section
are found without reading their parameters: an instance starts with its name, at the start of the
section or after a blank or a semicolon. What is not an instance is passed over one character at
a time, and an instance whose statement does not end is the last thing looked at.
-/

namespace BuildingModel.Step

open Text

/-- The text up to and with the first semicolon outside string literals, with the rest. `inside`
tells whether the text starts inside a literal, and `before` is what precedes it, in reverse. A
doubled apostrophe leaves a literal and enters it again. -/
def toSemicolon? : (inside : Bool) → (before : List Char) → List Char →
    Option (List Char × List Char)
  | _, _, [] => none
  | inside, before, c :: r =>
    if c == ';' && !inside then some ((c :: before).reverse, r)
    else toSemicolon? (inside != (c == '\'')) (c :: before) r

/-- The statements of a text in order. A last one without a semicolon is left out. -/
def splitStatements : (inside : Bool) → (before : List Char) → List Char → List (List Char)
  | _, _, [] => []
  | inside, before, c :: r =>
    if c == ';' && !inside then (c :: before).reverse :: splitStatements false [] r
    else splitStatements (inside != (c == '\'')) (c :: before) r

/-- What a number sign may start. -/
inductive Sighting where
  /-- No instance. -/
  | none
  /-- An instance whose statement does not end. -/
  | endless
  /-- The statement of an instance. -/
  | statement (id : EntityId) (tag : List Char) (text : List Char)
deriving Repr

/-- What stands at a number sign, from the text after it. -/
def sighting (s : List Char) : Sighting :=
  let ds := s.takeWhile Char.isDigit
  if ds.isEmpty then .none
  else
    let afterNumber := s.dropWhile Char.isDigit
    match entityId? ds, afterNumber.dropWhile isDataBlank with
    | some id, '=' :: afterEquals =>
      let afterGap := afterEquals.dropWhile isDataBlank
      let tag := afterGap.takeWhile isTagChar
      if tag.isEmpty then .none
      else
        let before := '#' :: ds ++ afterNumber.takeWhile isDataBlank
          ++ '=' :: afterEquals.takeWhile isDataBlank ++ tag
        match toSemicolon? false before.reverse (afterGap.dropWhile isTagChar) with
        | none => .endless
        | some (text, _) => .statement id tag text
    | _, _ => .none

/-- The statement of an instance within a content. -/
structure Statement where
  /-- The instance name. -/
  id : EntityId
  /-- The keyword as it is written. -/
  tag : String
  /-- Where the number sign is, in bytes. -/
  start : Nat
  /-- Where the statement ends, one byte after its semicolon. -/
  stop : Nat
  /-- The text from the number sign to the semicolon. -/
  text : List Char
deriving Repr

namespace Statement

/-- Whether an instance may start after a character. -/
def mayFollow (c : Char) : Bool :=
  isDataBlank c || c == ';'

/-- The statements in a text. The first `skip` characters belong to a statement already found,
`offset` counts the bytes before the text, and `fresh` tells whether an instance may start at its
front. -/
def scan : (skip offset : Nat) → (fresh : Bool) → List Char → List Statement
  | _, _, _, [] => []
  | skip + 1, offset, _, c :: r => scan skip (offset + c.utf8Size) (mayFollow c) r
  | 0, offset, fresh, c :: r =>
    if c == '#' && fresh then
      match sighting r with
      | .endless => []
      | .statement id tag text =>
        ⟨id, String.ofList tag, offset, offset + byteLength text, text⟩
          :: scan (text.length - 1) (offset + c.utf8Size) (mayFollow c) r
      | .none => scan 0 (offset + c.utf8Size) (mayFollow c) r
    else scan 0 (offset + c.utf8Size) (mayFollow c) r

/-- The word that opens the data section. -/
def sectionStart : List Char := ['D', 'A', 'T', 'A', ';']

/-- The statements of the instances in a content, from its first data section on or, where there
is none, from its start. -/
def ofContent (content : String) : List Statement :=
  let s := content.toList
  match afterFirst? sectionStart s with
  | some rest => scan 0 (byteLength s - byteLength rest) true rest
  | none => scan 0 0 true s

end Statement

/-- How many statements there are for each keyword in upper case, ascending by keyword. -/
def countByTag (statements : List Statement) : List (String × Nat) :=
  let count (m : Std.TreeMap String Nat compare) (s : Statement) :=
    let tag := s.tag.toUpper
    m.insert tag (m.getD tag 0 + 1)
  (statements.foldl count {}).toList

end BuildingModel.Step
