import BuildingModel.Sandbox.Shell.Format
import BuildingModel.Sandbox.Tool.Files

/-!
# Comparing files

The programs that compare files: byte by byte, and line by line. The lines that two files have in
common are a longest row of lines that is in both of them in the same order; what is between those
lines is a change.
-/

namespace BuildingModel.Sandbox.Tool

open Shell (Run say tree)

/-! ## Byte by byte -/

/-- The places where bytes differ, from one on, with the bytes. -/
def differences (a b : List UInt8) : List (Nat × UInt8 × UInt8) :=
  ((a.zip b).zip (List.range a.length)).filterMap fun ((x, y), i) =>
    if x == y then none else some (i + 1, x, y)

/-- An octal number of three digits at least. -/
def octalText (b : UInt8) : String :=
  String.ofList (Shell.pad [] 3 (Nat.toDigits 8 b.toNat))

/-- What a file that is the front of another one is said to lack. -/
def endText (path : String) (bytes : List UInt8) (withLine : Bool) : String :=
  if bytes.isEmpty then "EOF on " ++ path ++ " which is empty"
  else
    let ends := bytes.count 10
    let isEnded := bytes.getLast? == some 10
    "EOF on " ++ path ++ " after byte " ++ toString bytes.length
      ++ (if !withLine then ""
        else if isEnded then ", line " ++ toString ends
        else ", in line " ++ toString (ends + 1))

/-- Compares two files byte by byte. -/
def cmp : Program := fun name words =>
  withOptions { flags := "bls", names := [("print-bytes", 'b'), ("verbose", 'l'), ("quiet", 's'),
      ("silent", 's')] } 2 name words fun p => do
    let misused (message : String) : Run Nat := do
      report name message
      report name ("Try '" ++ name ++ " --help' for more information.")
      return 2
    match p.operands with
    | [] => misused ("missing operand after " ++ quoted name)
    | _ :: _ :: extra :: _ => misused ("extra operand " ++ quoted extra)
    | first :: rest =>
      let second := rest.headD "-"
      match ← contents first, ← contents second with
      | .error e, _ =>
        if !p.has 's' then report name (plainly first e)
        return 2
      | _, .error e =>
        if !p.has 's' then report name (plainly second e)
        return 2
      | .ok a, .ok b =>
        if a == b then return 0
        if p.has 's' then return 1
        let found := differences a b
        let width := (toString (min a.length b.length)).length
        let tellEnd : Run Unit := do
          if a.length < b.length then report name (endText first a (!p.has 'l'))
          if b.length < a.length then report name (endText second b (!p.has 'l'))
        if p.has 'l' then
          tellEnd
          for (i, x, y) in found do
            sayLine (String.ofList (Shell.pad [] width (toString i).toList) ++ " " ++ octalText x
              ++ " " ++ octalText y)
          return 1
        if let some (i, x, y) := found.head? then
          let line := ((a.take (i - 1)).count 10) + 1
          let shown (b : UInt8) : String := octalText b ++ " " ++ octetsOf [b]
          sayLine (first ++ " " ++ second ++ " differ: " ++ (if p.has 'b' then "byte " else "char ")
            ++ toString i ++ ", line " ++ toString line
            ++ (if p.has 'b' then " is " ++ shown x ++ " " ++ shown y else ""))
          return 1
        tellEnd
        return 1

/-! ## Line by line -/

/-- What becomes of a line. -/
inductive LineChange where
  /-- It is in both files. -/
  | kept (a b : List UInt8)
  /-- It is only in the first file. -/
  | dropped (line : List UInt8)
  /-- It is only in the second file. -/
  | added (line : List UInt8)

/-- A row of the lengths of the longest common rows, given a line and the row below: for each line
of the other file the length from there on. -/
def lengthsRow (key : String) (keys : Array String) (below : Array Nat) : Array Nat :=
  keys.size.fold (fun i _ row =>
    let j := keys.size - 1 - i
    let right := (row[j + 1]?).getD 0
    let down := (below[j]?).getD 0
    let n := if keys[j]? == some key then (below[j + 1]?).getD 0 + 1 else max right down
    row.setIfInBounds j n) (Array.replicate (keys.size + 1) 0)

/-- The lengths of the longest common rows from each line of the first file on. -/
def lengthRows (keys : List String) (others : Array String) : List (Array Nat) :=
  keys.foldr (fun key rows => lengthsRow key others (rows.headD #[]) :: rows)
    [Array.replicate (others.size + 1) 0]

/-- What becomes of the lines of two files, each given with what is compared of it. -/
def changesBetween : List (String × List UInt8) → List (String × List UInt8) → Nat →
    List (Array Nat) → List LineChange
  | [], bs, _, _ => bs.map fun (_, b) => .added b
  | as, [], _, _ => as.map fun (_, a) => .dropped a
  | (k, a) :: as, (l, b) :: bs, j, rows =>
    if k == l then .kept a b :: changesBetween as bs (j + 1) (rows.drop 1)
    else
      let down := (((rows.drop 1).headD #[])[j]?).getD 0
      let right := ((rows.headD #[])[j + 1]?).getD 0
      if right ≤ down then .dropped a :: changesBetween as ((l, b) :: bs) j (rows.drop 1)
      else .added b :: changesBetween ((k, a) :: as) bs (j + 1) rows
termination_by as bs => as.length + bs.length

/-- What is compared of a line under options. -/
def comparedText (p : Parsed) (line : List UInt8) : String :=
  let text := octetsOf line
  let text := if p.has 'i' then text.map Char.toLower else text
  let isBlank (c : Char) : Bool := " \t\n\x0b\x0c\r".contains c
  if p.has 'w' then String.ofList (text.toList.filter (!isBlank ·))
  else if p.has 'b' then
    let words := (text.toList.splitBy fun c d => isBlank c == isBlank d).map fun word =>
      if word.head?.any isBlank then [' '] else word
    String.ofList (words.flatten.reverse.dropWhile (· == ' ')).reverse
  else text

/-- What becomes of the lines of two files. -/
def lineChanges (p : Parsed) (a b : List UInt8) : List LineChange :=
  let keyed (bytes : List UInt8) := (lines bytes).map fun line => (comparedText p line, line)
  let as := keyed a
  let bs := keyed b
  changesBetween as bs 0 (lengthRows (as.map (·.1)) (bs.map (·.1)).toArray)

/-- A change: where it is in each file, what is dropped, and what is added. -/
structure Hunk where
  /-- How many lines are before it in the first file. -/
  first : Nat
  /-- How many lines are before it in the second file. -/
  second : Nat
  /-- The lines that are dropped. -/
  dropped : List (List UInt8) := []
  /-- The lines that are added. -/
  added : List (List UInt8) := []

/-- The changes, given how many lines are before them in each file. A change that is going on is
given, too. -/
def hunks (open_ : Option Hunk) : Nat → Nat → List LineChange → List Hunk
  | _, _, [] => open_.toList
  | m, n, change :: rest =>
    let hunk := open_.getD { first := m, second := n }
    match change with
    | .kept .. => open_.toList ++ hunks none (m + 1) (n + 1) rest
    | .dropped a => hunks (some { hunk with dropped := hunk.dropped ++ [a] }) (m + 1) n rest
    | .added b => hunks (some { hunk with added := hunk.added ++ [b] }) m (n + 1) rest

/-- Shows a line after a mark, and tells if it has no end. -/
def sayMarked (mark : String) (line : List UInt8) : Run Unit := do
  say 1 (mark ++ octetsOf line)
  if line.getLast? != some 10 then say 1 "\n\\ No newline at end of file\n"

/-- A range of lines after so many. -/
def rangeText (before count : Nat) : String :=
  if count == 0 then toString before
  else if count == 1 then toString (before + 1)
  else toString (before + 1) ++ "," ++ toString (before + count)

/-- Shows a change as an edit. -/
def Hunk.tell (h : Hunk) : Run Unit := do
  let letter := if h.added.isEmpty then "d" else if h.dropped.isEmpty then "a" else "c"
  sayLine (rangeText h.first h.dropped.length ++ letter ++ rangeText h.second h.added.length)
  for line in h.dropped do sayMarked "< " line
  if letter == "c" then sayLine "---"
  for line in h.added do sayMarked "> " line

/-- The changes that are shown together since not many lines are between them. -/
def nearby (around : Nat) : List Hunk → List (List Hunk)
  | [] => []
  | h :: rest =>
    match nearby around rest with
    | (next :: more) :: others =>
      if next.first - (h.first + h.dropped.length) ≤ 2 * around then (h :: next :: more) :: others
      else [h] :: (next :: more) :: others
    | others => [h] :: others

/-- A range of lines as it is shown where changes are shown together. -/
def togetherRange (before count : Nat) : String :=
  if count == 1 then toString (before + 1)
  else toString (if count == 0 then before else before + 1) ++ "," ++ toString count

/-- Shows changes together, with lines around them, given the lines of the first file. -/
def showTogether (around : Nat) (all : List (List UInt8)) (hs : List Hunk) : Run Unit := do
  match hs.head?, hs.getLast? with
  | some first, some last =>
    let start := first.first - around
    let stop := min all.length (last.first + last.dropped.length + around)
    let dropped := hs.foldl (fun n h => n + h.dropped.length) 0
    let added := hs.foldl (fun n h => n + h.added.length) 0
    let before := first.second - (first.first - start)
    let count := stop - start
    sayLine ("@@ -" ++ togetherRange start count ++ " +"
      ++ togetherRange before (count - dropped + added) ++ " @@")
    let mut at_ := start
    for h in hs do
      for line in (all.drop at_).take (h.first - at_) do sayMarked " " line
      for line in h.dropped do sayMarked "-" line
      for line in h.added do sayMarked "+" line
      at_ := h.first + h.dropped.length
    for line in (all.drop at_).take (stop - at_) do sayMarked " " line
  | _, _ => return

/-- The heading of a file: its label, or its path with the time of its last change. -/
def headingOf (labels : List String) (i : Nat) (path : String) : String :=
  (labels[i]?).getD (path ++ "\t1970-01-01 00:00:00.000000000 +0000")

/-- Shows how two files differ; whether they do. -/
def showDifferences (p : Parsed) (first second : String) (a b : List UInt8) : Run Bool := do
  let all := hunks none 0 0 (lineChanges p a b)
  if all.isEmpty then
    if p.has 's' then sayLine ("Files " ++ first ++ " and " ++ second ++ " are identical")
    return false
  let isBinary := a.contains 0 || b.contains 0
  if p.has 'q' || isBinary then
    sayLine ((if isBinary && !p.has 'q' then "Binary files " else "Files ") ++ first ++ " and "
      ++ second ++ " differ")
    return true
  let around := ((p.value? 'U').map fun s => (s.toNat?).getD 3) <|>
    (if p.has 'u' then some 3 else none)
  match around with
  | none => for h in all do h.tell
  | some n =>
    let labels := ((p.options.filter (·.1 == 'L')).map (·.2))
    sayLine ("--- " ++ headingOf labels 0 first)
    sayLine ("+++ " ++ headingOf labels 1 second)
    for hs in nearby n all do showTogether n (lines a) hs
  return true

/-- Compares two files line by line. -/
def diff : Program := fun name words =>
  withOptions { flags := "abBdiqrNstTuwy", valued := "LU", names := [("brief", 'q'),
      ("ignore-case", 'i'), ("ignore-all-space", 'w'), ("ignore-space-change", 'b'), ("label", 'L'),
      ("report-identical-files", 's'), ("unified", 'u'), ("text", 'a'), ("recursive", 'r')] } 2
      name words fun p => do
    let misused (message : String) : Run Nat := do
      report name message
      report name ("Try '" ++ name ++ " --help' for more information.")
      return 2
    match p.operands with
    | [] => misused ("missing operand after " ++ quoted name)
    | [one] => misused ("missing operand after " ++ quoted one)
    | _ :: _ :: extra :: _ => misused ("extra operand " ++ quoted extra)
    | [first, second] =>
      let t ← tree
      let isDirectory (path : String) : Bool := match t.find (textOf path) with
        | .ok .directory => true
        | _ => false
      let within (directory path : String) : String := directory ++ "/" ++ lastName path
      let (first, second) :=
        if isDirectory first && !isDirectory second then (within first second, second)
        else if isDirectory second && !isDirectory first then (first, within second first)
        else (first, second)
      if isDirectory first then return 0
      let a ← contents first
      let b ← if second == "-" && first == "-" then pure a else contents second
      for (path, read) in [(first, a), (second, b)] do
        if let .error e := read then report name (plainly path e)
      match a, b with
      | .ok a, .ok b => return if ← showDifferences p first second a b then 1 else 0
      | _, _ => return 2

end BuildingModel.Sandbox.Tool
