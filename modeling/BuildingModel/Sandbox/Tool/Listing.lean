import BuildingModel.Sandbox.Tool.Machine
import BuildingModel.Sandbox.Tool.Modes

/-!
# Listing

The program that lists files and what is in directories, in short or with their permissions, sizes
and times.
-/

namespace BuildingModel.Sandbox.Tool

open Shell (Run say tree)

/-- What is listed: its name, the place that it has, and what is there. -/
structure Listed where
  /-- How it is shown. -/
  title : String
  /-- The names that lead to it. -/
  names : List String
  /-- What it is. -/
  place : Place
  /-- What is seen of it. -/
  sight : Sight

namespace Listed

/-- Something in the way that options ask for. -/
def shown (p : Parsed) (x : Listed) : String :=
  let title := if p.has 'Q' then "\"" ++ x.title ++ "\"" else x.title
  let mark := match x.sight.kind with
    | 'd' => if p.has 'F' || p.has 'p' then "/" else ""
    | 'l' => if p.has 'F' && !p.has 'l' then "@" else ""
    | 'p' => if p.has 'F' then "|" else ""
    | _ => if p.has 'F' && x.sight.mode &&& 0o111 != 0 then "*" else ""
  title ++ mark

/-- Whether it is a directory, with what is in it. -/
def isDirectory (x : Listed) : Bool := x.sight.kind == 'd'

end Listed

/-- Things in the order that options ask for. -/
def inOrder (p : Parsed) (xs : List Listed) : List Listed :=
  let byName := xs.mergeSort fun a b => a.title ≤ b.title
  let ending (x : Listed) : String :=
    if x.title.contains '.' then ((x.title.splitOn ".").getLastD "") else ""
  let sorted :=
    if p.has 'U' || p.has 'f' then xs
    else if p.has 'S' then byName.mergeSort fun a b => a.sight.size ≥ b.sight.size
    else if p.has 't' then byName.mergeSort fun a b => a.sight.time ≥ b.sight.time
    else if p.has 'X' then byName.mergeSort fun a b => ending a ≤ ending b
    else byName
  if p.has 'r' then sorted.reverse else sorted

/-- What is in a directory, in order. -/
def listedIn (p : Parsed) (t : FileTree) (names : List String) : List Listed :=
  let all := p.has 'a' || p.has 'f'
  let directory (title : String) (names : List String) : Listed :=
    ⟨title, names, .directory, Sight.ofPlace t names .directory⟩
  let own := if all then [directory "." names, directory ".." names.dropLast] else []
  let found := (t.namesAt names).filterMap fun s =>
    let path := octets ("/" ++ "/".intercalate (names ++ [s]))
    match Sight.ofPath t (p.has 'L') path with
    | .ok sight =>
      let target := t.enter names s
      some (⟨octets s, target, (t.place? target).getD (.file {}), sight⟩ : Listed)
    | .error _ => none
  let kept := found.filter fun x =>
    (all || p.has 'A' || !x.title.startsWith ".") && !(p.has 'B' && x.title.endsWith "~")
  inOrder p (own ++ kept)

/-! ## Long lists -/

/-- A size in a form for readers: with a unit that leaves few digits. -/
def readableSize (n : Nat) : String :=
  let units := "KMGTPE".toList
  let rec go (left : List Char) (unit : Char) (whole tenths : Nat) : String :=
    match left with
    | next :: rest =>
      if whole < 1024 then shown unit whole tenths
      else go rest next ((whole + 1023) / 1024) ((10 * whole + 1023) / 1024)
    | [] => shown unit whole tenths
  if n < 1024 then toString n
  else go (units.drop 1) 'K' ((n + 1023) / 1024) ((10 * n + 1023) / 1024)
where
  /-- A number with its unit, with one digit after the point if it is small. -/
  shown (unit : Char) (whole tenths : Nat) : String :=
    (if tenths < 100 then toString (tenths / 10) ++ "." ++ toString (tenths % 10)
      else toString whole) ++ unit.toString

/-- How many blocks something takes, as options ask for. -/
def blockText (p : Parsed) (x : Listed) : String :=
  let n := x.sight.blocks
  if p.has 'h' && n != 0 then readableSize (1024 * n) else toString n

/-- The number of any file: files are not told apart by numbers. -/
def fileNumber : String := "1"

/-- A time in a long list. One that is long ago has its year. -/
def timeColumn (p : Parsed) (present seconds : Int) : String :=
  let isNear := seconds ≤ present && present - seconds < 15778476
  let usual := if isNear then "%b %e %H:%M" else "%b %e  %Y"
  let format := match p.value? '#' with
    | some "full-iso" => "%F %T.%N %z"
    | some "long-iso" => "%F %R"
    | some "iso" => if isNear then "%m-%d %R" else "%F "
    | some s => if s.startsWith "+" then (s.drop 1).toString else usual
    | none => usual
  String.ofList (timeText seconds 256 format.toList)

/-- The columns of a long list, those before the name, with whether each is on the left. -/
def longColumns (p : Parsed) (present : Int) (x : Listed) : List (Bool × String) :=
  let size := if p.has 'h' then readableSize x.sight.size else toString x.sight.size
  let owner := if p.has 'n' then "0" else "root"
  let number := if p.has 'i' then [(false, fileNumber)] else []
  let blocks := if p.has 's' then [(false, blockText p x)] else []
  number ++ blocks ++ [(true, x.sight.letters), (false, toString x.sight.names)]
    ++ (if p.has 'g' then [] else [(true, owner)])
    ++ (if p.has 'o' || p.has 'G' then [] else [(true, owner)])
    ++ [(false, size), (true, timeColumn p present (secondsOf x.sight.time))]

/-- The lines of a long list. -/
def longLines (p : Parsed) (present : Int) (xs : List Listed) : List String :=
  let rows := xs.map (longColumns p present)
  let widths := ((rows.headD []).zipIdx.map fun (_, i) =>
    (rows.map fun row => ((row[i]?).map (·.2.length)).getD 0).foldl max 0)
  (xs.zip rows).map fun (x, row) =>
    let cells := (row.zip widths).map fun ((left, text), width) =>
      String.ofList (Shell.pad (if left then ['-'] else []) width text.toList)
    let target := (x.sight.target.map (" -> " ++ ·)).getD ""
    " ".intercalate (cells ++ [x.shown p ++ target])

/-- Whether options ask for a long list. -/
def isLong (p : Parsed) : Bool := ['l', 'n', 'g', 'o'].any p.has

/-- How many blocks things take. -/
def totalText (p : Parsed) (xs : List Listed) : String :=
  let n := (xs.map (·.sight.blocks)).foldl (· + ·) 0
  "total " ++ if p.has 'h' && n != 0 then readableSize (1024 * n) else toString n

/-! ## Lists -/

/-- Writes a list of things. -/
def sayListed (p : Parsed) (xs : List Listed) : Run Unit := do
  if isLong p then
    for s in longLines p (← presentTime) xs do sayLine s
  else
    let width := (xs.map fun x => (blockText p x).length).foldl max 0
    let blocks (x : Listed) : String := if !p.has 's' then "" else
      String.ofList (Shell.pad [] width (blockText p x).toList) ++ " "
    let front (x : Listed) : String :=
      (if p.has 'i' then fileNumber ++ " " else "") ++ blocks x
    let titles := xs.map fun x => front x ++ x.shown p
    if p.has 'm' then
      if !titles.isEmpty then sayLine (", ".intercalate titles)
    else for s in titles do sayLine s

/-- Directories with what is in them, if that is asked for, and below them, but not too deep. -/
def directoriesBelow (p : Parsed) (t : FileTree) : Nat → Listed → List Listed
  | 0, x => [x]
  | n + 1, x =>
    if !p.has 'R' then [x]
    else
      let inner := (listedIn p t x.names).filter fun y =>
        y.isDirectory && !([".", ".."].contains y.title)
      let front := if x.title.endsWith "/" then x.title else x.title ++ "/"
      x :: (inner.map fun y => directoriesBelow p t n { y with title := front ++ y.title }).flatten

/-- Lists files and what is in directories. -/
def ls : Program := fun name words =>
  withOptions { flags := "1aAbBcCdfFgGhHiklLmnNopqQrRsStuUvxX", valued := "ITw#", names := [
      ("time-style", '#'),
      ("all", 'a'), ("almost-all", 'A'), ("directory", 'd'), ("reverse", 'r'), ("classify", 'F'),
      ("recursive", 'R'), ("ignore-backups", 'B'), ("quote-name", 'Q')] } 2
      name words fun p => do
    let t ← tree
    let mut found := []
    let mut fine := true
    for path in if p.operands.isEmpty then ["."] else p.operands do
      let failed (words : String) : Run Unit := do
        let _ ← complainOf name "cannot access" path words
      let follows := !(isLong p || p.has 'F' || p.has 'd') || p.has 'L' || p.has 'H'
      match t.locate (textOf path) with
      | .ok (names, some place) =>
        match Sight.ofPath t follows path with
        | .ok sight =>
          if place != .directory && path.endsWith "/" then
            failed FileError.notADirectory.words
            fine := false
          else found := (⟨path, names, place, sight⟩ : Listed) :: found
        | .error e =>
          failed e.words
          fine := false
      | .ok (_, none) =>
        failed FileError.notFound.words
        fine := false
      | .error e =>
        failed e.words
        fine := false
    let isFile (x : Listed) : Bool := !x.isDirectory || p.has 'd'
    let files := inOrder p (found.reverse.filter isFile)
    let directories := inOrder p (found.reverse.filter (!isFile ·))
    sayListed p files
    let titled := p.operands.length > 1 || p.has 'R'
    let mut first := files.isEmpty
    for x in (directories.map (directoriesBelow p t depthLimit)).flatten do
      if !first then say 1 "\n"
      first := false
      if titled then sayLine (x.title ++ ":")
      let inner := listedIn p t x.names
      if isLong p || p.has 's' then sayLine (totalText p inner)
      sayListed p inner
    return if fine then 0 else 2

end BuildingModel.Sandbox.Tool
