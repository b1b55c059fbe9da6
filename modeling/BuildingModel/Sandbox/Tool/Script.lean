import BuildingModel.Sandbox.Regex
import BuildingModel.Sandbox.Shell.Format

/-!
# Scripts of edits

A script tells how lines are edited. It is a row of edits, each with the lines that it is meant for.
`Script.read` reads the texts of a script one after another and tells what is wrong with them, and
where.
-/

namespace BuildingModel.Sandbox.Tool

/-! ## Edits -/

/-- What tells one line, or where several lines end. -/
inductive Address where
  /-- The line with a number. -/
  | line (n : Nat)
  /-- The last line. -/
  | last
  /-- A line and each one that is a number of lines after it or after another such line. -/
  | every (first step : Nat)
  /-- The lines where a regular expression stands, the last one that was sought if none is given. -/
  | found (r : Option Regex)
  /-- So many lines later. -/
  | later (n : Nat)
  /-- The next line whose number is a multiple of a number. -/
  | multiple (n : Nat)
deriving DecidableEq, Repr

/-- The lines that an edit is meant for. -/
structure Selection where
  /-- Where they begin; all lines without it. -/
  first : Option Address := none
  /-- Where they end; at the line where they begin without it. -/
  last : Option Address := none
  /-- Whether it is the other lines. -/
  negated : Bool := false
deriving DecidableEq, Repr

/-- A piece of what is put in place of something. -/
inductive Splice where
  /-- A character. -/
  | one (c : Char)
  /-- What is kept under a number, or for zero all that is replaced. -/
  | kept (n : Nat)
  /-- A change of case, told by its letter. -/
  | turn (letter : Char)
deriving DecidableEq, Repr

/-- How something is put in place of what a regular expression stands for. -/
structure Substitution where
  /-- What is sought, the last that was sought if none is given. -/
  target : Option Regex
  /-- What is put in its place. -/
  splices : List Splice
  /-- Whether all places count from the first one that counts. -/
  all : Bool := false
  /-- The first place that counts. -/
  place : Nat := 1
  /-- Whether the line is shown. -/
  shows : Bool := false
  /-- The file that the line is written to. -/
  path : Option String := none
deriving DecidableEq, Repr

/-- What is done with the line that is edited. -/
inductive Edit where
  /-- To go on after a block unless the line is selected. -/
  | block (stop : Nat)
  /-- To show a text before the line, after it, or in place of it. -/
  | insert (text : List Char) | append (text : List Char) | change (text : List Char)
  /-- To go on elsewhere: always, if something has been replaced, or if nothing has. -/
  | jump (replaced : Option Bool) (stop : Nat)
  /-- To drop the line, or its first part, and begin anew. -/
  | drop | dropFirst
  /-- To show the line, or its first part. -/
  | display | displayFirst
  /-- To go on with the next line, or with the next line at the end of this one. -/
  | next | nextToo
  /-- To keep the line in place of what is kept or at its end. -/
  | keep | keepToo
  /-- To take what is kept in place of the line or at its end. -/
  | recall | recallToo
  /-- To exchange the line for what is kept. -/
  | swap
  /-- To show the number of the line, or the name of its file. -/
  | count | name
  /-- To empty the line. -/
  | clear
  /-- To show the line so that each character can be told, in rows of a length. -/
  | spell (width : Option Nat)
  /-- To end, with the line shown or not. -/
  | quit (shows : Bool) (status : Nat)
  /-- To show a file after the line, or its next line. -/
  | readFile (path : String) | readLine (path : String)
  /-- To write the line to a file, or its first part. -/
  | writeFile (path : String) (firstOnly : Bool)
  /-- To put something in place of what a regular expression stands for. -/
  | substitute (s : Substitution)
  /-- To put characters in place of others. -/
  | translate (pairs : List (Char × Char))
deriving DecidableEq, Repr

/-- A row of edits with the lines that they are meant for. -/
structure Script where
  /-- The edits. -/
  edits : Array (Selection × Edit) := #[]
  /-- Whether lines are not shown of themselves. -/
  silent : Bool := false

/-! ## Reading -/

/-- What has been read of a script. -/
structure Draft where
  /-- What is left of the text that is being read. -/
  rest : List Char := []
  /-- How many characters of it have been read. -/
  passed : Nat := 0
  /-- The edits. -/
  edits : Array (Selection × Edit) := #[]
  /-- The numbers of the edits that begin the blocks that have not ended, the last first. -/
  opened : List Nat := []
  /-- The labels, with the numbers of the edits they stand for. -/
  labels : List (String × Nat) := []
  /-- The numbers of the jumps, with the labels that they lead to. -/
  jumps : List (Nat × String) := []
  /-- Whether lines are not shown of themselves. -/
  silent : Bool := false

/-- Reading a script, which may be found to be wrong. -/
abbrev Drafting := ExceptT String (StateM Draft)

/-- Passes over characters. -/
def passOver (n : Nat) : Drafting Unit :=
  modify fun d => { d with
    rest := d.rest.drop n, passed := d.passed + min n d.rest.length }

/-- The next character, if there is one. -/
def peekChar : Drafting (Option Char) := return (← get).rest.head?

/-- Takes the next character, if there is one. -/
def takeChar : Drafting (Option Char) := do
  let c ← peekChar
  passOver 1
  return c

/-- Takes the characters at the front that are of a kind. -/
def takeThose (isKind : Char → Bool) : Drafting (List Char) := do
  let s := (← get).rest.takeWhile isKind
  passOver s.length
  return s

/-- Whether a character separates words. -/
def isGap (c : Char) : Bool := c == ' ' || c == '\t'

/-- Whether a character separates words or lines. -/
def isWideGap (c : Char) : Bool := Shell.isKind "space" c

/-- Passes over what separates words. -/
def skipGap : Drafting Unit := do
  let _ ← takeThose isGap

/-- The number at the front; zero if there is none. -/
def takeNumber : Drafting Nat := return Text.digitsValue (← takeThose Char.isDigit)

/-- Where reading is within brackets that hold the characters of a set. -/
inductive Bracketing where
  /-- Outside of them. -/
  | outside
  /-- At their start, where a closing one is a character of the set. -/
  | starting
  /-- Within them. -/
  | within
  /-- Within the name of a class. -/
  | naming
deriving DecidableEq, Repr

/-- Where reading is after a character. -/
def Bracketing.after (b : Bracketing) (c : Char) (rest : List Char) : Bracketing :=
  match b with
  | .outside => if c == '[' then .starting else .outside
  | .starting => if c == '^' then .starting else if c == '[' && rest.head? == some ':' then .naming
    else .within
  | .within => if c == ']' then .outside
    else if c == '[' && rest.head? == some ':' then .naming else .within
  | .naming => if c == ':' && rest.head? == some ']' then .starting else .naming

/-- The text up to a mark, how many characters it has with the mark, and whether there is a mark. A
mark after a backslash belongs to the text. -/
def upToMark (mark : Char) (sought : Bool) : Bracketing → List Char → List Char × Nat × Bool
  | _, [] | _, '\n' :: _ => ([], 0, false)
  | _, ['\\'] => ([], 1, false)
  | b, '\\' :: c :: rest =>
    if b != .outside && c != 'n' && c != mark then
      let (text, n, closed) := upToMark mark sought (b.after '\\' (c :: rest)) (c :: rest)
      ('\\' :: text, n + 1, closed)
    else
      let (text, n, closed) := upToMark mark sought (b.after c rest) rest
      let front := if c == 'n' && sought then ['\n']
        else if c == '\n' || (c == mark && (sought || c != '&')) then [c]
        else ['\\', c]
      (front ++ text, n + 2, closed)
  | b, c :: rest =>
    if c == mark && b == .outside then ([], 1, true)
    else
      let (text, n, closed) :=
        upToMark mark sought (if sought then b.after c rest else .outside) rest
      (c :: text, n + 1, closed)

/-- The text up to a mark, or a complaint if there is no mark. -/
def takeUpTo (mark : Char) (sought : Bool) (complaint : String) : Drafting (List Char) := do
  let (text, n, closed) := upToMark mark sought .outside (← get).rest
  passOver n
  if closed then return text else throw complaint

/-- The characters that letters after a backslash stand for. -/
def letterEscapes : List (Char × Char) :=
  [('a', '\x07'), ('f', '\x0c'), ('r', '\r'), ('t', '\t'), ('v', '\x0b')]

/-- The digits of a number after a backslash: its base, how many there are at most, and which they
are. -/
def numberEscape? (c : Char) : Option (Nat × Nat × (Char → Bool)) :=
  match c with
  | 'd' => some (10, 3, Char.isDigit)
  | 'o' => some (8, 3, Shell.isOctal)
  | 'x' => some (16, 2, Shell.isKind "xdigit")
  | _ => none

/-- The value of a digit. -/
def digitValueOf (c : Char) : Nat :=
  if c.isDigit then Text.digitValue c else c.toLower.toNat - 'a'.toNat + 10

/-- A text with characters in place of the escapes that stand for them. What an escape with a number
stands for has a backslash before it if it means something. There is a step for each character. -/
def unescape (meaning : String) : Nat → List Char → List Char
  | 0, s => s
  | _, [] => []
  | n + 1, '\\' :: c :: rest =>
    match letterEscapes.lookup c, numberEscape? c with
    | some d, _ => d :: unescape meaning n rest
    | none, some (base, most, isDigit) =>
      let digits := (rest.takeWhile isDigit).take most
      if digits.isEmpty then '\\' :: c :: unescape meaning n rest
      else
        let value := digits.foldl (fun v d => v * base + digitValueOf d) 0
        let d := Char.ofNat (value % 256)
        (if meaning.contains d then ['\\', d] else [d])
          ++ unescape meaning n (rest.drop digits.length)
    | none, none =>
      if c == 'c' && !rest.isEmpty then
        let d := (rest.headD ' ').toUpper
        Char.ofNat (d.toNat.xor 64 % 128) :: unescape meaning n (rest.drop 1)
      else '\\' :: c :: unescape meaning n rest
  | n + 1, c :: rest => c :: unescape meaning n rest

/-- The regular expression that is written as a text, with how many groups it has; none for an empty
text. -/
def soughtIn (extended folded : Bool) (s : List Char) : Drafting (Option Regex × Nat) := do
  if s.isEmpty then return (none, 0)
  match Regex.read extended (unescape "$*.[\\]^" s.length s) with
  | .error message => throw message
  | .ok (r, groups) => return (some (if folded then r.folded else r), groups)

/-- The pieces that a text stands for that is put in place of something. -/
def splicesOf : List Char → List Splice
  | '\\' :: c :: rest =>
    (if c.isDigit then .kept (Text.digitValue c)
     else if "LUEul".contains c then .turn c
     else .one (if c == 'n' then '\n' else c)) :: splicesOf rest
  | '&' :: rest => .kept 0 :: splicesOf rest
  | c :: rest => .one c :: splicesOf rest
  | [] => []

/-! ### Lines -/

/-- Reads what tells a line, if there is something. -/
def readAddress (extended : Bool) : Drafting (Option Address) := do
  let some c ← peekChar | return none
  if c == '/' || c == '\\' then
    passOver (if c == '/' then 0 else 1)
    let some mark ← takeChar | throw "unterminated address regex"
    let text ← takeUpTo mark true "unterminated address regex"
    let flags ← takeThose fun c => c == 'I' || c == 'M'
    let (r, _) ← soughtIn extended (flags.contains 'I') text
    return some (.found r)
  else if c.isDigit then
    let n ← takeNumber
    skipGap
    if (← peekChar) != some '~' then return some (.line n)
    passOver 1
    skipGap
    let step ← takeNumber
    return some (if step == 0 then .line n else .every n step)
  else if c == '+' || c == '~' then
    passOver 1
    skipGap
    let n ← takeNumber
    return some (if c == '+' then .later n else .multiple n)
  else if c == '$' then
    passOver 1
    return some .last
  else return none

/-- Reads what lines an edit is meant for. -/
def readSelection (extended : Bool) : Drafting Selection := do
  let first ← readAddress extended
  let mut last := none
  if first.isSome then
    match first with
    | some (.later _) | some (.multiple _) =>
      throw "invalid usage of +N or ~N as first address"
    | _ => pure ()
    skipGap
    if (← peekChar) == some ',' then
      passOver 1
      skipGap
      last ← readAddress extended
      if last.isNone then
        passOver 1
        throw "unexpected \x60,'"
      skipGap
    let seeks := match last with
      | some (.found _) => true
      | _ => false
    if first == some (.line 0) && !seeks then
      passOver 1
      throw "invalid usage of line address 0"
  let negated := (← peekChar) == some '!'
  if negated then
    passOver 1
    skipGap
    if (← peekChar) == some '!' then
      passOver 1
      throw "multiple \x60!'s"
  return { first, last, negated }

/-! ### Ends of edits -/

/-- Reads the end of an edit. -/
def readEnd : Drafting Unit := do
  skipGap
  match ← peekChar with
  | none | some '\x7d' | some '#' => return
  | some c =>
    passOver 1
    if c != '\n' && c != ';' then throw "extra characters after command"

/-- Reads the path of a file. -/
def readPath : Drafting String := do
  skipGap
  let path ← takeThose (· != '\n')
  passOver 1
  if path.isEmpty then throw "missing filename in r/R/w/W commands"
  return String.ofList path

/-- The text of lines up to one that does not go on, and how many characters it takes. -/
def textLines : List Char → List Char × Nat
  | [] => ([], 0)
  | '\n' :: _ => ([], 1)
  | ['\\'] => ([], 1)
  | '\\' :: c :: rest =>
    let (text, n) := textLines rest
    ('\\' :: c :: text, n + 2)
  | c :: rest =>
    let (text, n) := textLines rest
    (c :: text, n + 1)

/-- A text without the backslashes that keep characters. A letter may stand for a line break. -/
def withoutBackslashes : List Char → List Char
  | '\\' :: c :: rest => (if c == 'n' then '\n' else c) :: withoutBackslashes rest
  | c :: rest => c :: withoutBackslashes rest
  | [] => []

/-- Reads a text that is shown. -/
def readText : Drafting (List Char) := do
  skipGap
  match ← peekChar with
  | none => throw "expected \\ after \x60a', \x60c' or \x60i'"
  | some c =>
    if c == '\\' then passOver 1
    let rest := (← get).rest
    if rest.isEmpty then return []
    let gap := rest.takeWhile isGap
    let breaks := c == '\\' && rest[gap.length]? == some '\n'
    if breaks then passOver (gap.length + 1)
    let (text, n) := textLines (← get).rest
    passOver n
    let first := if c == '\\' && !breaks then text.head?.toList else []
    let text := text.drop first.length
    return first ++ withoutBackslashes (unescape "" text.length text) ++ ['\n']

/-- Reads a label. -/
def readLabel (isEnd : Char → Bool) : Drafting String := do
  skipGap
  return String.ofList (← takeThose fun c => !isWideGap c && !isEnd c)

/-! ### Substitutions -/

/-- Reads what follows a substitution. There is a step for each character. -/
def readFlags : Nat → Substitution → Bool → Drafting (Substitution × Bool)
  | 0, s, folded => return (s, folded)
  | n + 1, s, folded => do
    match ← peekChar with
    | none | some '\x7d' | some '#' => return (s, folded)
    | some c =>
      if c.isDigit then
        let place ← takeNumber
        if s.place != 0 then throw "multiple number options to \x60s' command"
        if place == 0 then throw "number option to \x60s' command may not be zero"
        return ← readFlags n { s with place } folded
      passOver 1
      match c with
      | '\n' | ';' => return (s, folded)
      | ' ' | '\t' | 'm' | 'M' => readFlags n s folded
      | 'i' | 'I' => readFlags n s true
      | 'p' =>
        if s.shows then throw "multiple \x60p' options to \x60s' command"
        readFlags n { s with shows := true } folded
      | 'g' =>
        if s.all then throw "multiple \x60g' options to \x60s' command"
        readFlags n { s with all := true } folded
      | 'w' => return ({ s with path := some (← readPath) }, folded)
      | _ => throw "unknown option to \x60s'"

/-- Reads a substitution. -/
def readSubstitution (extended : Bool) : Drafting Substitution := do
  let complaint := "unterminated \x60s' command"
  let some mark ← takeChar | throw complaint
  let target ← takeUpTo mark true complaint
  let text ← takeUpTo mark false complaint
  let splices := splicesOf (unescape "&\\" text.length text)
  let n := (← get).rest.length + 1
  let (s, folded) ← readFlags n { target := none, splices, place := 0 } false
  let (r, groups) ← soughtIn extended folded target
  for piece in splices do
    if let .kept k := piece then
      if r.isSome && groups < k then
        throw ("invalid reference \\" ++ toString k ++ " on \x60s' command's RHS")
  return { s with target := r, place := max s.place 1 }

/-- Reads which characters are put in place of which. -/
def readTranslation : Drafting (List (Char × Char)) := do
  let complaint := "unterminated \x60y' command"
  let some mark ← takeChar | throw complaint
  let sources ← takeUpTo mark false complaint
  let targets ← takeUpTo mark false complaint
  let plain (s : List Char) : List Char := withoutBackslashes (unescape "\\" s.length s)
  if (plain sources).length != (plain targets).length then
    throw "strings for \x60y' command are different lengths"
  readEnd
  return (plain sources).zip (plain targets)

/-! ### Edits -/

/-- The edits of a single letter. -/
def letterEdits : List (Char × Edit) :=
  [('d', .drop), ('D', .dropFirst), ('p', .display), ('P', .displayFirst), ('n', .next),
   ('N', .nextToo), ('h', .keep), ('H', .keepToo), ('g', .recall), ('G', .recallToo), ('x', .swap),
   ('=', .count), ('F', .name), ('z', .clear)]

/-- Adds an edit. -/
def addEdit (selection : Selection) (edit : Edit) : Drafting Unit :=
  modify fun d => { d with edits := d.edits.push (selection, edit) }

/-- Reads the end of a block. -/
def readBlockEnd (selection : Selection) : Drafting Unit := do
  match (← get).opened with
  | [] => throw "unexpected \x60\x7d'"
  | start :: opened =>
    if selection.first.isSome then throw "\x60\x7d' doesn't want any addresses"
    readEnd
    let stop := (← get).edits.size
    modify fun d => { d with
      opened
      edits := d.edits.modify start fun (selection, _) => (selection, .block stop) }

/-- Reads a jump. -/
def readJump (selection : Selection) (replaced : Option Bool) : Drafting Unit := do
  let label ← readLabel fun c => c == ';' || c == '\x7d'
  modify fun d => { d with jumps := (d.edits.size, label) :: d.jumps }
  addEdit selection (.jump replaced 0)

/-- Reads an edit whose letter has been read. -/
def readEdit (extended : Bool) (selection : Selection) (c : Char) : Drafting Unit := do
  if let some edit := letterEdits.lookup c then
    readEnd
    return ← addEdit selection edit
  match c with
  | '\x7b' =>
    modify fun d => { d with opened := d.edits.size :: d.opened }
    addEdit selection (.block 0)
  | '\x7d' => readBlockEnd selection
  | 'a' => addEdit selection (.append (← readText))
  | 'i' => addEdit selection (.insert (← readText))
  | 'c' => addEdit selection (.change (← readText))
  | ':' =>
    if selection.first.isSome then throw ": doesn't want any addresses"
    let label ← readLabel (· == ';')
    if label.isEmpty then throw "\":\" lacks a label"
    modify fun d => { d with labels := (label, d.edits.size) :: d.labels }
  | 'b' => readJump selection none
  | 't' => readJump selection (some true)
  | 'T' => readJump selection (some false)
  | 'q' | 'Q' =>
    if selection.last.isSome then throw "command only uses one address"
    skipGap
    let status ← takeNumber
    readEnd
    addEdit selection (.quit (c == 'q') (status % 256))
  | 'l' =>
    skipGap
    let digits ← takeThose Char.isDigit
    readEnd
    addEdit selection (.spell (if digits.isEmpty then none else some (Text.digitsValue digits)))
  | 'r' => addEdit selection (.readFile (← readPath))
  | 'R' => addEdit selection (.readLine (← readPath))
  | 'w' => addEdit selection (.writeFile (← readPath) false)
  | 'W' => addEdit selection (.writeFile (← readPath) true)
  | 's' => addEdit selection (.substitute (← readSubstitution extended))
  | 'y' => addEdit selection (.translate (← readTranslation))
  | 'v' =>
    let version ← readLabel (· == ';')
    if 4 < ((version.splitOn ".").headD "").toNat?.getD 0 then
      throw "expected newer version of sed"
  | _ => throw ("unknown command: \x60" ++ c.toString ++ "'")

/-- Reads edits up to the end of the text. There is a step for each character. -/
def readEdits (extended : Bool) : Nat → Drafting Unit
  | 0 => return
  | n + 1 => do
    let _ ← takeThose fun c => c == ';' || isWideGap c
    if (← get).rest.isEmpty then return
    let selection ← readSelection extended
    match ← takeChar with
    | none => throw "missing command"
    | some '#' =>
      if selection.first.isSome then throw "comments don't accept any addresses"
      let _ ← takeThose (· != '\n')
    | some c => readEdit extended selection c
    readEdits extended n

/-- A text of a script: the option that gives it, with what stands before a complaint about it. -/
structure ScriptText where
  /-- What is before the number of the character or line where something is wrong. -/
  source : String
  /-- Whether it is a file, in which lines are counted. -/
  isFile : Bool
  /-- The text. -/
  text : List Char

/-- The place of what is wrong with a text, after so many characters of it. -/
def ScriptText.place (t : ScriptText) (passed : Nat) : String :=
  if t.isFile then t.source ++ " line " ++ toString ((t.text.take (passed - 1)).count '\n' + 1)
  else t.source ++ ", char " ++ toString passed

namespace Script

/-- Reads a text of a script. -/
def readOne (extended : Bool) (t : ScriptText) (isFirst : Bool) (d : Draft) :
    Except String Draft :=
  let silent := d.silent || (isFirst && ['#', 'n'].isPrefixOf t.text)
  let d := { d with rest := t.text, passed := 0, silent }
  match (readEdits extended (t.text.length + 1)).run.run d with
  | (.ok _, d) => .ok d
  | (.error message, d) => .error (t.place d.passed ++ ": " ++ message)

/-- Reads the texts of a script, or tells what is wrong with them, with the status of that. -/
def read (extended : Bool) (texts : List ScriptText) : Except (Nat × String) Script := do
  let mut d : Draft := {}
  let mut isFirst := true
  for t in texts do
    d ← (readOne extended t isFirst d).mapError ((1, ·))
    isFirst := false
  if !d.opened.isEmpty then
    let source := (texts.getLast?.map (·.place 0)).getD ""
    throw (1, source ++ ": unmatched \x60\x7b'")
  let mut edits := d.edits
  for (i, label) in d.jumps.reverse do
    let stop ← if label.isEmpty then pure edits.size
      else match d.labels.lookup label with
        | some stop => pure stop
        | none => throw (4, "can't find label for jump to \x60" ++ label ++ "'")
    edits := edits.modify i fun (selection, edit) => match edit with
      | .jump replaced _ => (selection, .jump replaced stop)
      | other => (selection, other)
  return { edits, silent := d.silent }

end Script

end BuildingModel.Sandbox.Tool
