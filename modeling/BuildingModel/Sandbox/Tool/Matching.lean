import BuildingModel.Sandbox.Regex
import BuildingModel.Sandbox.Tool.Basic

/-!
# Seeking lines

The program that seeks lines in which regular expressions stand. It shows the lines that it finds,
with the lines around them if that is asked for, or tells how many there are, or in which files.
-/

namespace BuildingModel.Sandbox.Tool

open Shell (Run say tree)

/-- What is sought in lines, and how what is found is shown. -/
structure Search where
  /-- What is sought, unless it is nothing. -/
  target : Option Regex
  /-- The options. -/
  options : Parsed
  /-- How many lines before a line that is found are shown. -/
  before : Nat := 0
  /-- How many lines after a line that is found are shown. -/
  after : Nat := 0
  /-- How many lines are to be found at most. -/
  limit : Option Nat := none
  /-- Whether lines are shown with the names of their files. -/
  named : Bool := false

/-- A line in which something is sought. -/
structure Candidate where
  /-- Its number, from one on. -/
  number : Nat
  /-- How many bytes are before it. -/
  offset : Nat
  /-- Its text. -/
  text : List Char
  /-- Whether it is found. -/
  isFound : Bool

namespace Search

/-- Whether the options ask that what stands between two places stands there. -/
def accepts (o : Search) (s t : Regex.Spot) : Bool :=
  if o.options.has 'x' then s.passed.isEmpty && t.rest.isEmpty
  else !o.options.has 'w'
    || !(s.passed.head?.any Regex.isWordChar || t.rest.head?.any Regex.isWordChar)

/-- The first place from the given one on where what is sought stands. -/
def find? (o : Search) (s : Regex.Spot) : Option (Regex.Spot × Regex.Spot) :=
  o.target.bind (·.find? s o.accepts)

/-- The pieces of a line that are found, each with its place. The number of steps is limited by the
first argument. -/
def findings (o : Search) : Nat → Regex.Spot → List (Nat × List Char)
  | 0, _ => []
  | n + 1, s =>
    match o.find? s with
    | none => []
    | some (a, b) =>
      let found := a.upTo b
      if !found.isEmpty then (a.passed.length, found) :: findings o n b
      else if b.rest.isEmpty then []
      else findings o n (b.advance 1)

/-- The lines of bytes in which something is sought. -/
def candidates (o : Search) (bytes : List UInt8) : List Candidate :=
  let ending := lineEnd o.options
  let (found, _, _) := (lines bytes ending).foldl
    (fun ((found, number, offset) : List Candidate × Nat × Nat) line =>
      let text := (lineText line ending).toList
      let isFound := (o.find? { rest := text }).isSome != o.options.has 'v'
      ({ number, offset, text, isFound } :: found, number + 1, offset + line.length)) ([], 1, 0)
  found.reverse

/-- The lines up to the last that is to be found, with those after it that are shown. -/
def limited (o : Search) : Nat → List Candidate → List Candidate
  | 0, rest => (rest.takeWhile (!·.isFound)).take o.after
  | _, [] => []
  | n + 1, line :: rest =>
    line :: if line.isFound then limited o n rest else limited o (n + 1) rest

/-- Whether a line is shown for itself or for a line near it. -/
def isShown (o : Search) (found : List Nat) (line : Candidate) : Bool :=
  found.any fun n => n ≤ line.number + o.before && line.number ≤ n + o.after

/-- What is before what is shown of a line. -/
def label (o : Search) (title : String) (mark : String) (number offset : Nat) : String :=
  (if o.named then title ++ (if o.options.has 'Z' then "\x00" else mark) else "")
    ++ (if o.options.has 'n' then toString number ++ mark else "")
    ++ (if o.options.has 'b' then toString offset ++ mark else "")

/-- Shows a line or the pieces of it that are found. -/
def showLine (o : Search) (title : String) (line : Candidate) : Run Unit := do
  let ending := lineEnd o.options
  if o.options.has 'o' then
    if line.isFound && !o.options.has 'v' then
      for (place, found) in o.findings (line.text.length + 1) { rest := line.text } do
        sayLine (o.label title ":" line.number (line.offset + place) ++ String.ofList found) ending
  else
    let mark := if line.isFound then ":" else "-"
    sayLine (o.label title mark line.number line.offset ++ String.ofList line.text) ending

/-- Shows the lines that are found and those around them. Between lines that do not follow each
other there is a mark, also after lines of another file; whether there have been some is told and
given back. -/
def showLines (o : Search) (title : String) (used : Bool) (found : List Candidate) : Run Bool := do
  let numbers := (found.filter (·.isFound)).map (·.number)
  let apart := if o.options.has '@' then none else some ((o.options.value? '^').getD "--")
  let mut used := used
  let mut last := 0
  for line in found do
    if o.isShown numbers line then
      if used && (last == 0 || line.number != last + 1) && o.before + o.after != 0 then
        if let some mark := apart then sayLine mark
      o.showLine title line
      used := true
      last := line.number
  return used

/-- The lines of a file in which something is sought, up to the last that is to be found. -/
def linesOf (o : Search) (bytes : List UInt8) : List Candidate :=
  match o.limit with
  | some 0 => []
  | some n => o.limited n (o.candidates bytes)
  | none => o.candidates bytes

/-- Tells what is found in a file, given whether something is, and whether the file is no text;
whether lines have been shown. -/
def tell (o : Search) (title : String) (used found isBinary : Bool) (all : List Candidate) :
    Run Bool := do
  let p := o.options
  if p.has 'q' then return used
  if p.has 'c' then
    sayLine ((if o.named then title ++ (if p.has 'Z' then "\x00" else ":") else "")
      ++ toString (all.countP (·.isFound)))
  if p.has 'l' || p.has 'L' then
    if found == p.has 'l' then sayLine title (if p.has 'Z' then 0 else 10)
    return used
  if p.has 'c' then return used
  if isBinary && !p.has 'a' && !p.has 'z' then
    if found then say 1 ("grep: " ++ title ++ ": binary file matches\n")
    return used
  o.showLines title used all

/-- Seeks in the bytes of a file; whether something is found, and whether lines have been shown. -/
def inBytes (o : Search) (path title : String) (used : Bool) (bytes : List UInt8) :
    Run (Bool × Bool) := do
  let all := o.linesOf bytes
  let title := if path == "-" then "(standard input)" else title
  let used ← o.tell title used (all.any (·.isFound)) (bytes.contains 0) all
  return (all.any (·.isFound), used)

end Search

/-! ## Options -/

/-- The options of the program. -/
def searchGrammar : Grammar where
  flags := "EFGPiynvoqscHhlLxwabrRzZTUu~!@0123456789"
  valued := "efmABC^"
  names := [("basic-regexp", 'G'), ("extended-regexp", 'E'), ("fixed-strings", 'F'),
    ("perl-regexp", 'P'), ("after-context", 'A'), ("before-context", 'B'), ("line-buffered", '~'),
    ("byte-offset", 'b'), ("context", 'C'), ("color", '~'), ("colour", '~'), ("count", 'c'),
    ("file", 'f'), ("files-with-matches", 'l'), ("files-without-match", 'L'),
    ("group-separator", '^'), ("ignore-case", 'i'), ("no-ignore-case", '!'), ("line-number", 'n'),
    ("line-regexp", 'x'), ("max-count", 'm'), ("no-filename", 'h'), ("no-group-separator", '@'),
    ("no-messages", 's'), ("null", 'Z'), ("null-data", 'z'), ("only-matching", 'o'), ("quiet", 'q'),
    ("recursive", 'r'), ("dereference-recursive", 'R'), ("regexp", 'e'), ("invert-match", 'v'),
    ("silent", 'q'), ("text", 'a'), ("with-filename", 'H'), ("word-regexp", 'w')]

/-- Complains about how the program is used. -/
def searchMisuse (name : String) (message : Option String) : Run Nat := do
  if let some m := message then report name m
  say 2 ("Usage: grep [OPTION]... PATTERNS [FILE]...\n"
    ++ "Try 'grep --help' for more information.\n")
  return 2

/-- The regular expression that stands for a text itself. -/
def exactly (s : List Char) : Regex :=
  s.foldr (fun c r => .sequence (Regex.literal c) r) .nothing

/-- The regular expression that is written as a text, in the notation that the options ask for. -/
def expressionOf (p : Parsed) (s : String) : Except String Regex := do
  if p.has 'F' then return exactly s.toList
  let s := if p.has 'P' then s.replace "\\d" "[0-9]" else s
  let (r, _) ← Regex.read (p.has 'E' || p.has 'P') s.toList
  return r

/-- The regular expression that stands for what any of several lines stands for. -/
def anyOf? (p : Parsed) (texts : List String) : Except String (Option Regex) := do
  let found ← texts.mapM (expressionOf p)
  let asked := (p.options.map (·.1)).filter fun c => "iy!".contains c
  let found := if asked.getLast?.any (· != '!') then found.map Regex.folded else found
  return found.foldr (fun r rest? => match rest? with
    | some rest => some (.either r rest)
    | none => some r) none

/-- The texts of what is sought: lines of options and of files; or what is wrong with a file. -/
def soughtTexts (p : Parsed) : Run (Except String (List String)) := do
  let mut texts := []
  for (c, value) in p.options do
    if c == 'e' then texts := texts ++ value.splitOn "\n"
    if c == 'f' then
      match ← contents value with
      | .ok bytes => texts := texts ++ lineTexts bytes
      | .error e => return .error (plainly value e)
  return .ok texts

/-- The number that an option gives. -/
def numberUnder? (p : Parsed) (c : Char) : Except String (Option Nat) :=
  match p.value? c with
  | none => .ok none
  | some s =>
    if s.isNat then .ok s.toNat?
    else .error (if c == 'm' then "invalid max count" else s ++ ": invalid context length argument")

/-- How many lines are shown around a line, and how many are to be found at most. -/
def withNumbers (p : Parsed) (o : Search) : Except String Search := do
  let digits := (p.options.map (·.1)).filter Char.isDigit
  let around := (← numberUnder? p 'C') <|>
    (if digits.isEmpty then none else some (Text.digitsValue digits))
  return { o with
    before := ((← numberUnder? p 'B') <|> around).getD 0
    after := ((← numberUnder? p 'A') <|> around).getD 0
    limit := ← numberUnder? p 'm' }

/-- The search that options ask for, with the paths of files; or what is wrong with the options, if
more is to be said than how the program is used. -/
def searchOf (p : Parsed) : Run (Except (Option String) (Search × List String)) := do
  let matchers := (p.options.map (·.1)).filter fun c => "EFGP".contains c
  if matchers.any (some · != matchers.head?) then
    return .error (some "conflicting matchers specified")
  let given := p.options.any fun (c, _) => c == 'e' || c == 'f'
  if !given && p.operands.isEmpty then return .error none
  let paths := if given then p.operands else p.operands.drop 1
  match ← soughtTexts p with
  | .error message => return .error (some message)
  | .ok texts =>
    let texts := if given then texts else (p.operands.headD "").splitOn "\n"
    match anyOf? p texts with
    | .error message => return .error (some message)
    | .ok target =>
      match withNumbers p { target, options := p } with
      | .error message => return .error (some message)
      | .ok o => return .ok (o, paths)

/-! ## Files -/

/-- The paths of the files below a directory, in order. The depth is limited by the first
argument. -/
def filesBelow (t : FileTree) : Nat → String → List String
  | 0, _ => []
  | n + 1, path =>
    match t.locate (textOf path) with
    | .ok (names, some .directory) =>
      ((t.namesAt names).mergeSort (· ≤ ·)).flatMap fun child =>
        filesBelow t n (path ++ "/" ++ octets child)
    | _ => [path]

/-- Whether a path leads to a directory. -/
def isDirectoryAt (t : FileTree) (path : String) : Bool :=
  match t.locate (textOf path) with
  | .ok (_, some .directory) => true
  | _ => false

/-- Whether what is written goes to the file that a path leads to. -/
def isOutput (path : String) : Run Bool := do
  match ← Shell.channel 1, (← tree).locate (textOf path) with
  | .file names .., .ok (found, some (.file _)) => return path != "-" && names == found
  | _, _ => return false

/-- Reads from a pipe until so many lines are found, in so many turns at most; what has been read,
after what has been read before. What has come of a line is given. -/
def readUntilFound (o : Search) (i : Nat) : Nat → Nat → List (List UInt8) → List UInt8 →
    Run (List UInt8)
  | 0, _, passed, begun => return (begun :: passed).reverse.flatten
  | n + 1, wanted, passed, begun => do
    if wanted == 0 then return (begun :: passed).reverse.flatten
    match ← Shell.takeSome? i blockSize with
    | some (b :: rest) =>
      let (whole, begun) := wholeLines (begun ++ b :: rest) (lineEnd o.options)
      let found := (o.candidates whole).countP (·.isFound)
      readUntilFound o i n (wanted - found) (whole :: passed) begun
    | _ => return (begun :: passed).reverse.flatten

/-- The contents of a file in which lines are sought. A pipe is read only as far as is needed. -/
def searched (o : Search) (path : String) : Run (Except FileError (List UInt8)) := do
  match ← openGiven path with
  | .error e => return .error e
  | .ok i =>
    let limit? := if "qlL".any o.options.has then some 1 else o.limit
    match limit? with
    | some limit =>
      if ← isPipe i then return .ok (← readUntilFound o i Shell.takeLimit limit [] [])
    | none => pure ()
    readAll i

/-- Seeks lines in files. -/
def grep : Program := fun name words => do
  match searchGrammar.parse words with
  | .error message => searchMisuse name message
  | .ok p =>
    match ← searchOf p with
    | .error none => searchMisuse name none
    | .error (some message) => failWith 2 name message
    | .ok (o, paths) =>
      let below := p.has 'r' || p.has 'R'
      let implied := below && paths.isEmpty
      let paths := if paths.isEmpty then [if below then "." else "-"] else paths
      let o := { o with named := !p.has 'h' && (p.has 'H' || paths.length > 1) }
      let t ← tree
      let mut found := false
      let mut fine := true
      let mut used := false
      for path in paths do
        let deeper := below && path != "-" && isDirectoryAt t path
        let o := if deeper then { o with named := !p.has 'h' } else o
        for path in if deeper then filesBelow t 64 path else [path] do
          match ← searched o path with
          | .error e =>
            if !p.has 's' then report name (plainly path e)
            fine := false
          | .ok bytes =>
            let title := if implied then (path.drop 2).toString else path
            if !"qlL".any p.has && o.limit.all (1 < ·) && (← isOutput path) then
              report name (title ++ ": input file is also the output")
              fine := false
              continue
            let (more, shown) ← o.inBytes path title used bytes
            found := found || more
            used := shown
            if found && p.has 'q' then return 0
      return if !fine then 2 else statusOf found

/-- Seeks lines in the notation that a letter stands for. -/
def grepIn (letter : String) : Program := fun _ words => grep "grep" (letter :: words)

end BuildingModel.Sandbox.Tool
