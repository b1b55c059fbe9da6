import BuildingModel.Sandbox.Tool.Basic
import BuildingModel.Sandbox.Tool.Script

/-!
# Editing lines

The program that edits lines as a script tells. It goes through the edits once for each line, and
shows what has become of the line at the end.
-/

namespace BuildingModel.Sandbox.Tool

open Shell (Run say)

/-! ## Substitutions -/

/-- The case of what is put in place of something. -/
structure Casing where
  /-- The case of all that follows. -/
  lasting : Option Char := none
  /-- The case of the next character. -/
  once : Option Char := none

/-- A character in the case that a letter stands for. -/
def inCase (letter : Option Char) (c : Char) : Char :=
  match letter with
  | some 'U' | some 'u' => c.toUpper
  | some 'L' | some 'l' => c.toLower
  | _ => c

/-- Characters in the case that is due. -/
def Casing.apply (k : Casing) : List Char → List Char × Casing
  | [] => ([], k)
  | c :: rest =>
    (inCase (k.once <|> k.lasting) c :: rest.map (inCase k.lasting), { k with once := none })

/-- What is put in place of what stands between two places. -/
def splice (pieces : List Splice) (a b : Regex.Spot) : List Char :=
  (pieces.foldl (fun ((done, k) : List (List Char) × Casing) piece =>
    match piece with
    | .turn 'E' => (done, { k with lasting := none })
    | .turn c =>
      if c == 'U' || c == 'L' then (done, { k with lasting := some c })
      else (done, { k with once := some c })
    | .one c =>
      let (s, k) := k.apply [c]
      (s :: done, k)
    | .kept n =>
      let (s, k) := k.apply (if n == 0 then a.upTo b else (b.texts.lookup n).getD [])
      (s :: done, k)) ([], {})).1.reverse.flatten

/-- A text from a place on after a substitution, and whether something has been replaced. What has
been counted is the places before, and where the last of them ends if it is not empty. The number
of steps is limited by the first argument. -/
def substituteFrom (s : Substitution) (r : Regex) :
    Nat → Nat → Option Nat → Regex.Spot → List Char × Bool
  | 0, _, _, spot => (spot.rest, false)
  | n + 1, count, last, spot =>
    match r.find? spot with
    | none => (spot.rest, false)
    | some (a, b) =>
      let before := spot.upTo a
      let isEmpty := a.passed.length == b.passed.length
      let isIdle := isEmpty && last == some a.passed.length
      let count := if isIdle then count else count + 1
      let replaces := !isIdle && (count == s.place || (s.all && s.place ≤ count))
      let text := if replaces then splice s.splices a b else a.upTo b
      if replaces && !s.all then (before ++ text ++ b.rest, true)
      else if isEmpty then
        match b.rest with
        | [] => (before ++ text, replaces)
        | c :: _ =>
          let (rest, more) := substituteFrom s r n count none (b.advance 1)
          (before ++ text ++ c :: rest, replaces || more)
      else
        let (rest, more) := substituteFrom s r n count (some b.passed.length) b
        (before ++ text ++ rest, replaces || more)

/-! ## Showing lines -/

/-- A character as it is spelled. -/
def spelled (c : Char) : List Char :=
  match ([('\\', '\\'), ('\x07', 'a'), ('\x08', 'b'), ('\x0c', 'f'), ('\n', 'n'), ('\r', 'r'),
      ('\t', 't'), ('\x0b', 'v')] : List (Char × Char)).lookup c with
  | some letter => ['\\', letter]
  | none => (shownOctal c).toList
where
  /-- A character, or its number in octal if it does not show. -/
  shownOctal (c : Char) : String :=
    if ' ' ≤ c && c ≤ '~' then c.toString
    else
      let digits := Nat.toDigits 8 c.toNat
      "\\" ++ String.ofList (List.replicate (3 - digits.length) '0' ++ digits)

/-- A line that is spelled, in rows of a length; in one row for zero. -/
def spelledLine (width : Nat) (line : List Char) : List Char :=
  let (done, _) := line.foldl (fun ((done, n) : List (List Char) × Nat) c =>
    let s := spelled c
    if 0 < width && width - 1 < n + s.length then ((['\\', '\n'] ++ s) :: done, s.length)
    else (s :: done, n + s.length)) ([], 0)
  done.reverse.flatten ++ ['$', '\n']

/-! ## The desk -/

/-- A line to be edited. -/
structure SourceLine where
  /-- Its text. -/
  text : List Char
  /-- Whether it has an end. -/
  isEnded : Bool
  /-- The file that it is from. -/
  path : String

/-- The lines of the bytes of a file. -/
def sourceLines (ending : UInt8) (path : String) (bytes : List UInt8) : List SourceLine :=
  (lines bytes ending).map fun line =>
    { text := (lineText line ending).toList, isEnded := line.getLast? == some ending, path }

/-- Something that is shown after the line. -/
inductive Sequel where
  /-- A text. -/
  | text (s : List Char)
  /-- A file. -/
  | file (path : String)

/-- A file that lines are written to. -/
structure Outlet where
  /-- Its path. -/
  path : String
  /-- The number of its channel. -/
  channel : Nat
  /-- Whether the last line that was written has no end yet. -/
  isOpen : Bool := false

/-- What is on the desk of one who edits. -/
structure Desk where
  /-- The line that is edited. -/
  line : List Char := []
  /-- Whether it has an end. -/
  isEnded : Bool := true
  /-- The file that it is from. -/
  path : String := "-"
  /-- Its number. -/
  number : Nat := 0
  /-- What is kept. -/
  kept : List Char := []
  /-- Whether that has an end. -/
  isKeptEnded : Bool := true
  /-- The lines that follow. -/
  ahead : List SourceLine := []
  /-- The pipe that gives more lines, and the step that writes what has been collected. -/
  more : Option (Nat × Run Unit) := none
  /-- What it has given of a line that has not ended. -/
  begun : List UInt8 := []
  /-- What is shown after the line, the last first. -/
  sequels : List Sequel := []
  /-- The numbers of the edits whose selections have begun and not ended, with the lines where they
  end if these are known. -/
  ranges : List (Nat × Option Nat) := []
  /-- Whether something has been replaced. -/
  replaced : Bool := false
  /-- What was sought last. -/
  sought : Option Regex := none
  /-- Whether the last line that was shown has no end yet. -/
  isOpen : Bool := false
  /-- The files that lines are written to. -/
  outlets : List Outlet := []
  /-- The files that lines are taken from, with what is left of them. -/
  takings : List (String × List (List Char)) := []

/-- How lines are edited. -/
structure EditRules where
  /-- The script. -/
  script : Script
  /-- Whether lines are not shown of themselves. -/
  silent : Bool
  /-- The end of lines. -/
  ending : UInt8
  /-- The length of rows of spelled lines. -/
  width : Nat

/-- Work at a desk. -/
abbrev Editing := StateT Desk Run

/-- What follows an edit. -/
inductive Sequence where
  /-- The edit with the given number. -/
  | edit (n : Nat)
  /-- The end of the edits for this line. -/
  | finish
  /-- The next line, without this one being shown. -/
  | drop
  /-- The first edit, without a new line. -/
  | again
  /-- The end of the work, with the line shown or not. -/
  | quit (shows : Bool) (status : Nat)

namespace Desk

/-- The character at the end of lines. -/
def endChar (o : EditRules) : Char := Char.ofNat o.ending.toNat

/-- Shows a text. An end that is still missing is put before it. -/
def showText (o : EditRules) (s : List Char) : Editing Unit := do
  if (← get).isOpen then
    emit [o.ending]
    modify ({ · with isOpen := false })
  say 1 (String.ofList s)

/-- Shows a line, with an end if the line that is edited has one. -/
def showLine (o : EditRules) (s : List Char) : Editing Unit := do
  let isEnded := (← get).isEnded
  showText o (if isEnded then s ++ [endChar o] else s)
  modify ({ · with isOpen := !isEnded })

/-- Writes a line to a file. -/
def writeLine (o : EditRules) (path : String) (s : List Char) : Editing Unit := do
  if path == "/dev/stdout" then return ← showLine o s
  let d ← get
  let text := if d.isEnded then s ++ [endChar o] else s
  for outlet in d.outlets do
    if outlet.path == path then
      let text := if outlet.isOpen then endChar o :: text else text
      let _ ← Shell.writeTo outlet.channel (bytesOf (String.ofList text))
  modify fun d => { d with outlets := d.outlets.map fun outlet =>
    if outlet.path == path then { outlet with isOpen := !d.isEnded } else outlet }

/-- Shows what is shown after the line. -/
def showSequels (o : EditRules) : Editing Unit := do
  let sequels := (← get).sequels.reverse
  modify ({ · with sequels := [] })
  for sequel in sequels do
    match sequel with
    | .text s => showText o s
    | .file path =>
      let bytes := ((← contents path).toOption).getD []
      if !bytes.isEmpty then
        showText o []
        emit bytes

/-- Sees to it that the next line is there, if there is one. There is a turn for each time that a
pipe gives something. -/
def fetch (o : EditRules) : Nat → Editing Unit
  | 0 => return
  | n + 1 => do
    let d ← get
    match d.ahead, d.more with
    | [], some (i, write) =>
      write
      match ← Shell.takeSome? i blockSize with
      | some (b :: rest) =>
        let (whole, begun) := wholeLines (d.begun ++ b :: rest) o.ending
        set { d with ahead := sourceLines o.ending "-" whole, begun }
        fetch o n
      | _ => set { d with ahead := sourceLines o.ending "-" d.begun, begun := [], more := none }
    | _, _ => return

/-- Takes the next line, if there is one. -/
def takeLine? (o : EditRules) : Editing (Option SourceLine) := do
  match (← get).ahead with
  | [] => return none
  | line :: ahead =>
    showSequels o
    modify fun d => { d with
      ahead, isEnded := line.isEnded, path := line.path, number := d.number + 1 }
    fetch o Shell.takeLimit
    return some line

/-! ### Selections -/

/-- Whether a regular expression, or the last one that was sought, stands in the line. -/
def seek (r? : Option Regex) : Editing Bool := do
  let d ← get
  match r? <|> d.sought with
  | none => return false
  | some r =>
    set { d with sought := some r }
    return (r.find? { rest := d.line }).isSome

/-- Whether an address tells this line. -/
def isAt (a : Address) : Editing Bool := do
  let d ← get
  match a with
  | .line n => return d.number == n
  | .last => return d.ahead.isEmpty
  | .every first step => return first ≤ d.number && (d.number - first) % step == 0
  | .found r => seek r
  | .later _ | .multiple _ => return false

/-- The line where a range ends that begins in this one, if that is known; or that it ends at
once. -/
def rangeEnd (a : Address) (number : Nat) : Option (Option Nat) :=
  match a with
  | .line n => if n ≤ number then none else some (some n)
  | .later n => if n == 0 then none else some (some (number + n))
  | .multiple n =>
    if n == 0 then none else some (some ((number / n + 1) * n))
  | _ => some none

/-- Ends the range of an edit. -/
def closeRange (i : Nat) : Editing Unit :=
  modify fun d => { d with ranges := d.ranges.filter (·.1 != i) }

/-- Whether the line is within the range of an edit. -/
def isWithin (i : Nat) (first final : Address) : Editing Bool := do
  let d ← get
  match d.ranges.lookup i with
  | some (some n) =>
    if n ≤ d.number then closeRange i
    return d.number ≤ n
  | some none =>
    if ← isAt final then closeRange i
    return true
  | none =>
    if !(← isAt first) then return false
    if let some stop := rangeEnd final d.number then
      modify fun d => { d with ranges := (i, stop) :: d.ranges }
    return true

/-- Whether an edit is meant for the line. -/
def isSelected (i : Nat) (s : Selection) : Editing Bool := do
  let found ← match s.first, s.last with
    | none, _ => pure true
    | some a, none => isAt a
    | some a, some b => isWithin i a b
  return found != s.negated

/-! ### Edits -/

/-- The first part of a line. -/
def firstPart (o : EditRules) (line : List Char) : List Char :=
  line.takeWhile (· != endChar o)

/-- Carries a substitution out. -/
def substitute (o : EditRules) (s : Substitution) : Editing Unit := do
  let d ← get
  if let some r := s.target <|> d.sought then
    let (line, replaced) := substituteFrom s r (d.line.length + 2) 0 none { rest := d.line }
    set { d with
      line := if replaced then line else d.line
      replaced := d.replaced || replaced
      sought := some r }
    if replaced then
      if s.shows then showLine o line
      if let some path := s.path then writeLine o path line

/-- Takes the next line of a file, to be shown after the line. -/
def takeFrom (o : EditRules) (path : String) : Editing Unit := do
  let left ← match (← get).takings.lookup path with
    | some left => pure left
    | none =>
      pure ((lineTexts (((← contents path).toOption).getD []) o.ending).map String.toList)
  modify fun d => { d with takings := (path, left.drop 1) :: d.takings.filter (·.1 != path) }
  if let some line := left.head? then
    modify fun d => { d with sequels := .text (line ++ [endChar o]) :: d.sequels }

/-- Carries out an edit; what follows it. -/
def perform (o : EditRules) (i : Nat) (edit : Edit) : Editing Sequence := do
  let d ← get
  let join (a b : List Char) : List Char := a ++ endChar o :: b
  match edit with
  | .insert text => showText o text
  | .append text => set { d with sequels := .text text :: d.sequels }
  | .change text =>
    if (d.ranges.lookup i).isNone then showText o text
    return .drop
  | .jump none stop => return .edit stop
  | .jump (some wanted) stop =>
    set { d with replaced := false }
    if d.replaced == wanted then return .edit stop
  | .drop => return .drop
  | .dropFirst =>
    if !d.line.contains (endChar o) then return .drop
    set { d with line := d.line.drop ((firstPart o d.line).length + 1) }
    return .again
  | .display => showLine o d.line
  | .displayFirst =>
    if d.line.contains (endChar o) then showText o (join (firstPart o d.line) [])
    else showLine o d.line
  | .next =>
    if d.ahead.isEmpty then return .quit true 0
    if !o.silent then showLine o d.line
    if let some line ← takeLine? o then modify ({ · with line := line.text })
  | .nextToo =>
    if d.ahead.isEmpty then return .quit true 0
    if let some line ← takeLine? o then modify ({ · with line := join d.line line.text })
  | .keep => set { d with kept := d.line, isKeptEnded := d.isEnded }
  | .keepToo => set { d with kept := join d.kept d.line, isKeptEnded := d.isEnded }
  | .recall => set { d with line := d.kept, isEnded := d.isKeptEnded }
  | .recallToo => set { d with line := join d.line d.kept, isEnded := d.isKeptEnded }
  | .swap =>
    set { d with
      line := d.kept, isEnded := d.isKeptEnded, kept := d.line, isKeptEnded := d.isEnded }
  | .count => showText o ((toString d.number).toList ++ ['\n'])
  | .name => showText o (join d.path.toList [])
  | .clear => set { d with line := [] }
  | .spell width => showText o (spelledLine (width.getD o.width) d.line)
  | .quit shows status => return .quit shows status
  | .readFile path => set { d with sequels := .file path :: d.sequels }
  | .readLine path => takeFrom o path
  | .writeFile path firstOnly =>
    if firstOnly then writeLine o path (firstPart o d.line) else writeLine o path d.line
  | .substitute s => substitute o s
  | .translate pairs => set { d with line := d.line.map fun c => (pairs.lookup c).getD c }
  | .block _ => pure ()
  return .edit (i + 1)

/-- Carries out the edits from one on; what follows the last of them. There is a turn for each
edit. -/
def editFrom (o : EditRules) : Nat → Nat → Editing Sequence
  | 0, _ => return .quit false 0
  | n + 1, i => do
    match o.script.edits[i]? with
    | none => return .finish
    | some (selection, edit) =>
      if ← isSelected i selection then
        match ← perform o i edit with
        | .edit j => editFrom o n j
        | other => return other
      else
        match edit with
        | .block stop => editFrom o n stop
        | _ => editFrom o n (i + 1)

/-- How many turns there are for a line. -/
def turns : Nat := 65536

/-- Edits the lines that follow; the status if the work ends before the last of them. There is a
step for each line and for each time that the edits begin anew. -/
def editLines (o : EditRules) : Nat → Bool → Editing (Option Nat)
  | 0, _ => return some 0
  | n + 1, takes => do
    if takes then
      match ← takeLine? o with
      | some line => modify ({ · with line := line.text, replaced := false })
      | none => return none
    match ← editFrom o turns 0 with
    | .quit shows status =>
      if shows then
        if !o.silent then showLine o (← get).line
        showSequels o
      return some status
    | .again =>
      showSequels o
      editLines o n false
    | .drop => editLines o n true
    | .finish | .edit _ =>
      if !o.silent then showLine o (← get).line
      editLines o n true

/-- The ranges that have begun before the first line. -/
def initialRanges (s : Script) : List (Nat × Option Nat) :=
  ((List.range s.edits.size).zip s.edits.toList).filterMap fun (i, selection, _) =>
    if selection.first == some (.line 0) then some (i, none) else none

/-- Edits the given lines; the status if the work ends before the last of them. -/
def edit (o : EditRules) (found : List SourceLine) : Editing (Option Nat) := do
  modify fun d => { d with
    ahead := found, number := 0, ranges := initialRanges o.script, isEnded := true }
  fetch o Shell.takeLimit
  let limit := if (← get).more.isSome then Shell.takeLimit else found.length
  let status ← editLines o (limit + turns) true
  showSequels o
  return status

end Desk

/-! ## The program -/

/-- A word with the option for work in place set apart: its value is a part of the word. -/
def apart (word : String) : List String :=
  match word.toList with
  | '-' :: c :: rest =>
    let letters := (c :: rest).takeWhile fun c => !"iefl-".contains c
    match (c :: rest).drop letters.length with
    | 'i' :: ending =>
      (if letters.isEmpty then [] else ["-" ++ String.ofList letters])
        ++ [if ending.isEmpty then "--in-place" else "--in-place=" ++ String.ofList ending]
    | _ => [word]
  | _ => [word]

/-- The options of the program. -/
def editGrammar : Grammar where
  flags := "nErsuzi~"
  valued := "efl"
  names := [("quiet", 'n'), ("silent", 'n'), ("debug", '~'), ("expression", 'e'), ("file", 'f'),
    ("follow-symlinks", '~'), ("in-place", 'i'), ("line-length", 'l'), ("null-data", 'z'),
    ("zero-terminated", 'z'), ("posix", '~'), ("regexp-extended", 'E'), ("separate", 's'),
    ("sandbox", '~'), ("unbuffered", 'u')]

/-- The texts of the script that options and words give; or what is wrong with a file. Where a text
ends with a backslash, the next one goes on with it. -/
def scriptTexts (p : Parsed) : Run (Except String (List ScriptText)) := do
  let given := p.options.filter fun (c, _) => c == 'e' || c == 'f'
  let given := if given.isEmpty then [('e', p.operands.headD "")] else given
  let mut found : List ScriptText := []
  let mut count := 0
  for (c, value) in given do
    if c == 'e' then
      match found with
      | t :: rest =>
        if !t.isFile && t.text.getLast? == some '\\' then
          found := { t with text := t.text ++ '\n' :: value.toList } :: rest
          continue
      | [] => pure ()
      count := count + 1
      found := ⟨"-e expression #" ++ toString count, false, value.toList⟩ :: found
    else
      match ← contents value with
      | .ok bytes => found := ⟨"file " ++ value, true, (octetsOf bytes).toList⟩ :: found
      | .error e => return .error ("couldn't open file " ++ plainly value e)
  return .ok found.reverse

/-- The files that a script writes to. -/
def outletPaths (s : Script) : List String :=
  (s.edits.toList.filterMap fun (_, edit) => match edit with
    | .writeFile path _ => some path
    | .substitute r => r.path
    | _ => none).eraseDups.filter (· != "/dev/stdout")

/-- Opens the files that a script writes to; or what is wrong with one. -/
def openOutlets (s : Script) : Run (Except String (List Outlet)) := do
  let mut found := []
  for path in outletPaths s do
    match ← Shell.openPath { writes := true, empties := true } path with
    | .ok channel => found := { path, channel } :: found
    | .error e => return .error ("couldn't open file " ++ plainly path e)
  return .ok found

/-- Whether a script seeks what was sought last although nothing can have been sought before. -/
def lacksSought (s : Script) : Bool :=
  let isNone (r : Option Regex) : Bool := r.isNone
  let ofAddress : Option Address → Option Bool
    | some (.found r) => some (isNone r)
    | _ => none
  let uses := s.edits.toList.flatMap fun (selection, edit) =>
    (ofAddress selection.first).toList ++ (ofAddress selection.last).toList ++ match edit with
      | .substitute r => [isNone r.target]
      | _ => []
  uses.head? == some true

/-- Works with what is written to a file in the end. -/
def editInPlace (o : EditRules) (ending path : String) (bytes : List UInt8) (d : Desk) :
    Run (Option Nat × Desk) := do
  let i ← Shell.addChannel (.sink .empty)
  let (status, d) ← Shell.withDescriptor 1 i
    ((Desk.edit o (sourceLines o.ending path bytes)).run d)
  let write (path : String) (bytes : List UInt8) : Run Unit := do
    if let .ok channel ← Shell.openPath { writes := true, empties := true } path then
      let _ ← Shell.writeTo channel bytes
  if !ending.isEmpty then
    write (if ending.contains '*' then ending.replace "*" path else path ++ ending) bytes
  if let some (.sink written) := (← get).channels[i]? then write path written.toList
  return (status, { d with isOpen := false })

/-- Edits files one by one, or all together. -/
def editFiles (o : EditRules) (name : String) (p : Parsed) (paths : List String) (d : Desk) :
    Run Nat := do
  if paths == ["-"] && !p.has 'i' && !p.has 's' then
    if let .ok i ← openGiven "-" then
      if ← isPipe i then
        let (status, _) ← heaping fun write =>
          (Desk.edit o []).run { d with more := some (i, write) }
        return status.getD 0
  let mut failed := 0
  let mut together := []
  let mut d := d
  for path in paths do
    match ← contents path with
    | .error .isADirectory =>
      if p.has 'i' then
        report name ("couldn't edit " ++ path ++ ": not a regular file")
        failed := 4
      else
        report name ("read error on " ++ path ++ ": Is a directory")
        failed := 4
        break
    | .error e =>
      report name ("can't read " ++ plainly path e)
      failed := 2
    | .ok bytes =>
      if p.has 'i' && path != "-" then
        let (status, after) ← editInPlace o ((p.value? 'i').getD "") path bytes d
        d := after
        if let some n := status then return if n == 0 then failed else n
      else if p.has 's' then
        let (status, after) ← (Desk.edit o (sourceLines o.ending path bytes)).run d
        d := after
        if let some n := status then return if n == 0 then failed else n
      else together := sourceLines o.ending path bytes :: together
  if p.has 'i' || p.has 's' then return failed
  let (status, _) ← (Desk.edit o together.reverse.flatten).run d
  return match status with
    | some n => if n == 0 then failed else n
    | none => failed

/-- Edits lines. -/
def sed : Program := fun name words => do
  match editGrammar.parse (words.flatMap apart) with
  | .error message => failWith 1 name message
  | .ok p =>
    let given := p.options.any fun (c, _) => c == 'e' || c == 'f'
    if !given && p.operands.isEmpty then
      say 2 "Usage: sed [OPTION]... \x7bscript-only-if-no-other-script\x7d [input-file]...\n"
      return 1
    match ← scriptTexts p with
    | .error message => failWith 4 name message
    | .ok texts =>
      match Script.read (p.has 'E' || p.has 'r') texts with
      | .error (status, message) => failWith status name message
      | .ok script =>
        if lacksSought script then
          return ← failWith 1 name "-e expression #1, char 0: no previous regular expression"
        match ← openOutlets script with
        | .error message => failWith 4 name message
        | .ok outlets =>
          let rules : EditRules :=
            { script, silent := p.has 'n' || script.silent, ending := lineEnd p
              width := ((p.value? 'l').bind String.toNat?).getD 70 }
          let paths := if given then p.operands else p.operands.drop 1
          editFiles rules name p (if paths.isEmpty then ["-"] else paths) { outlets }

end BuildingModel.Sandbox.Tool
