import BuildingModel.Sandbox.Regex
import BuildingModel.Sandbox.Tool.Basic

/-!
# Records and fields

A text is cut into records and a record into fields, each time at the places where a separator
stands: a character, a regular expression, or blanks.
-/

namespace BuildingModel.Sandbox.Tool.Rules

/-! ## Cutting -/

/-- The pieces of a text between the places where a regular expression stands for some text. The
number of places is limited by the first argument. -/
def piecesBetween (r : Regex) : Nat → Regex.Spot → Regex.Spot → List (List Char)
  | 0, from_, _ => [from_.rest]
  | n + 1, from_, s =>
    match r.find? s with
    | none => [from_.rest]
    | some (a, b) =>
      if (a.upTo b).isEmpty then
        if b.rest.isEmpty then [from_.rest] else piecesBetween r n from_ (b.advance 1)
      else from_.upTo a :: piecesBetween r n b b

/-- The texts between the places where a regular expression stands. -/
def splitBy (r : Regex) (s : List Char) : List (List Char) :=
  if s.isEmpty then [] else piecesBetween r (s.length + 1) { rest := s } { rest := s }

/-- The texts between blanks. -/
def splitBlanks (isBlank : Char → Bool) (s : List Char) : List (List Char) :=
  let (done, last) := s.foldl
    (fun ((done, word) : List (List Char) × List Char) c =>
      if !isBlank c then (done, c :: word)
      else if word.isEmpty then (done, []) else (word.reverse :: done, [])) ([], [])
  (if last.isEmpty then done else last.reverse :: done).reverse

/-- The texts between places with a character. -/
def splitAt (separator : Char) (s : List Char) : List (List Char) :=
  if s.isEmpty then []
  else
    let (done, last) := s.foldl
      (fun ((done, word) : List (List Char) × List Char) c =>
        if c == separator then (word.reverse :: done, []) else (done, c :: word)) ([], [])
    (last.reverse :: done).reverse

/-- What cuts a text. -/
inductive Separator where
  /-- Blanks. -/
  | blanks
  /-- Nothing: each character is a piece. -/
  | nothing
  /-- A character. -/
  | one (c : Char)
  /-- What a regular expression stands for. -/
  | regex (r : Regex)

/-- The pieces of a text. -/
def Separator.cut (o : Separator) (s : List Char) : List (List Char) :=
  match o with
  | blanks => splitBlanks (" \t\n\x0b\x0c\r".contains ·) s
  | nothing => s.map ([·])
  | one c => splitAt c s
  | regex r => splitBy r s

/-! ## Records -/

/-- What ends a record. -/
inductive RecordEnd where
  /-- Empty lines. -/
  | emptyLines
  /-- A character. -/
  | one (b : UInt8)
  /-- What a regular expression stands for. -/
  | regex (r : Regex)

/-- The bytes before an empty line, and those after all that follow it. -/
def untilEmptyLine : List UInt8 → List UInt8 → List UInt8 × List UInt8
  | front, 10 :: 10 :: rest => (front.reverse, rest.dropWhile (· == 10))
  | front, [10] => (front.reverse, [])
  | front, b :: rest => untilEmptyLine (b :: front) rest
  | front, [] => (front.reverse, [])

/-- The first record of bytes, and the bytes after it. -/
def RecordEnd.first? (o : RecordEnd) (bytes : List UInt8) : Option (String × List UInt8) :=
  if bytes.isEmpty then none
  else match o with
    | one e =>
      let line := bytes.takeWhile (· != e)
      some (octetsOf line, bytes.drop (line.length + 1))
    | emptyLines =>
      let bytes := bytes.dropWhile (· == 10)
      if bytes.isEmpty then none
      else
        let (line, rest) := untilEmptyLine [] bytes
        some (octetsOf line, rest)
    | regex r =>
      let text := (octetsOf bytes).toList
      match r.find? { rest := text } fun a b => b.passed.length != a.passed.length with
      | some (a, b) =>
        some (String.ofList (text.take a.passed.length), bytes.drop b.passed.length)
      | none => some (String.ofList text, [])

/-! ## Replacing -/

/-- A text with others in the places where a regular expression stands, in all of them or in the
first, and how many places there are. What is empty does not stand right after something that is
not. The number of places is limited by the first argument. -/
def replaceFrom (r : Regex) (all : Bool) (put : List Char → List Char) :
    Nat → Bool → Regex.Spot → List Char × Nat
  | 0, _, s => (s.rest, 0)
  | n + 1, afterSome, s =>
    match r.find? s with
    | none => (s.rest, 0)
    | some (a, b) =>
      let found := a.upTo b
      let stays := found.isEmpty && afterSome && a.passed.length == s.passed.length
      let (text, count) := if stays then ([], 0) else (put found, 1)
      let front := s.upTo a ++ text
      if !all then (front ++ b.rest, count)
      else if found.isEmpty then
        match b.rest with
        | [] => (front, count)
        | c :: _ =>
          let (rest, more) := replaceFrom r all put n false (b.advance 1)
          (front ++ c :: rest, count + more)
      else
        let (rest, more) := replaceFrom r all put n true b
        (front ++ rest, count + more)

/-- What is put in place of something: an ampersand stands for it. Backslashes before an ampersand
stand for half as many, and where one is left over the ampersand stands for itself. -/
def putFor (replacement found : List Char) : List Char :=
  let slashes (n : Nat) : List Char := List.replicate n '\\'
  let (pieces, n) := replacement.foldl
    (fun ((pieces, n) : List (List Char) × Nat) c =>
      if c == '\\' then (pieces, n + 1)
      else if c != '&' then ((slashes n ++ [c]) :: pieces, 0)
      else ((slashes (n / 2) ++ (if n % 2 == 0 then found else ['&'])) :: pieces, 0)) ([], 0)
  pieces.reverse.flatten ++ slashes n

/-- A text with a replacement in the places where a regular expression stands, and how many places
there are. -/
def replace (r : Regex) (all : Bool) (replacement s : List Char) : List Char × Nat :=
  replaceFrom r all (putFor replacement) (s.length + 2) false { rest := s }

end BuildingModel.Sandbox.Tool.Rules
