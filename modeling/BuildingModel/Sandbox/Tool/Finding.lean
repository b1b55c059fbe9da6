import BuildingModel.Sandbox.Regex
import BuildingModel.Sandbox.Shell.Condition
import BuildingModel.Sandbox.Shell.Format
import BuildingModel.Sandbox.Tool.Listing

/-!
# Seeking files

The program that seeks files below directories. What it seeks is told by an expression of tests and
deeds, which is worked out for each file, from the left and only as far as needed.
-/

namespace BuildingModel.Sandbox.Tool

open Shell (Run say tree changeTree)

/-! ## What is sought -/

/-- An expression that is worked out for a file. -/
inductive Quest where
  /-- Whether it always holds. -/
  | holds (always : Bool)
  /-- Whether a pattern stands for the name, or for the whole path. -/
  | named (whole fold : Bool) (pattern : String)
  /-- Whether a regular expression stands for the whole path. -/
  | written (r : Regex)
  /-- Whether it is of one of the kinds that letters tell. -/
  | kind (letters : List Char)
  /-- Whether it was changed after what a path leads to. -/
  | newer (path : String)
  /-- How long ago it was changed, in units of some seconds: a number, which may be the most or the
  least that is not meant. -/
  | aged (unit : Nat) (count : String)
  /-- Whether it is empty. -/
  | empty
  /-- Whether it may be run. -/
  | runs
  /-- Whether it has so many units of a size, rounded up; fewer or more of them. -/
  | size (order : Ordering) (count unit : Nat)
  /-- Whether its permissions are such. -/
  | mode (all : Bool) (bits : Nat)
  /-- Shows the path with an end. -/
  | tell (ending : String)
  /-- Shows it in a format. -/
  | format (text : List Char)
  /-- Removes it. -/
  | delete
  /-- Carries a command out for it. -/
  | command (words : List String)
  /-- Carries a command out for it and others together. -/
  | together (words : List String)
  /-- Does not go below it. -/
  | prune
  /-- Ends the search. -/
  | quit
  /-- Whether an expression does not hold. -/
  | denied (a : Quest)
  /-- Whether two expressions hold. -/
  | both (a b : Quest)
  /-- Whether one of two expressions holds. -/
  | either (a b : Quest)
  /-- The second of two expressions, after the first. -/
  | after (a b : Quest)

/-- Whether an expression does something that is seen, so that paths need not be shown. -/
def Quest.acts : Quest → Bool
  | .tell _ | .format _ | .delete | .command _ | .together _ | .quit => true
  | .denied a => a.acts
  | .both a b | .either a b | .after a b => a.acts || b.acts
  | _ => false

/-- What is told to the program besides the expression. -/
structure FindRules where
  /-- How deep files are at least. -/
  least : Nat := 0
  /-- How deep files are at most. -/
  most : Nat := 256
  /-- Whether what is in a directory comes before it. -/
  depthFirst : Bool := false

/-! ## Reading expressions -/

/-- Reading the words of an expression. -/
abbrev QuestReading := StateT (List String × FindRules) (Except String)

/-- The next word. -/
def nextWord? : QuestReading (Option String) := return (← get).1.head?

/-- Passes over a word. -/
def passWord : QuestReading Unit := modify fun (words, o) => (words.drop 1, o)

/-- The word that has to follow a test. -/
def argumentOf (test : String) : QuestReading String := do
  match ← nextWord? with
  | some s =>
    passWord
    return s
  | none => throw ("missing argument to \x60" ++ test ++ "'")

/-- The number that has to follow a test. -/
def numberOf (test : String) : QuestReading Nat := do
  let s ← argumentOf test
  match s.toNat? with
  | some n => return n
  | none =>
    throw ("Expected a positive decimal integer argument to " ++ test ++ ", but got " ++ quoted s)

/-- The order and the number of a text such as "+3". -/
def ordered? (s : List Char) : Option (Ordering × Nat) :=
  let (order, digits) : Ordering × List Char := match s with
    | '+' :: rest => (.gt, rest)
    | '-' :: rest => (.lt, rest)
    | rest => (.eq, rest)
  if digits.isEmpty || !digits.all Char.isDigit then none
  else some (order, Text.digitsValue digits)

/-- The size that a text tells. -/
def sizeQuest (s : String) : QuestReading Quest := do
  let units : List (Char × Nat) :=
    [('c', 1), ('w', 2), ('b', 512), ('k', 1024), ('M', 1048576), ('G', 1073741824)]
  let chars := s.toList
  let unit? := chars.getLast?.bind fun c => units.lookup c
  match ordered? (if unit?.isSome then chars.dropLast else chars) with
  | some (order, n) => return .size order n (unit?.getD 512)
  | none => throw ("Invalid argument \x60" ++ s ++ "' to -size")

/-- The words up to the end of a command, and whether files are taken together. -/
def commandWords (test : String) : QuestReading (List String × Bool) := do
  let (words, o) ← get
  let front := words.takeWhile fun s => s != ";" && s != "+"
  let ending := words[front.length]?
  if front.isEmpty || ending.isNone then throw ("missing argument to \x60" ++ test ++ "'")
  set (words.drop (front.length + 1), o)
  if ending == some "+" then return (front.filter (· != "\x7b\x7d"), true)
  return (front, false)

/-- The permissions that a text tells: whether all of them are needed, and their bits. -/
def modeQuest (s : String) : QuestReading Quest := do
  let (all, rest) : Bool × List Char := match s.toList with
    | '-' :: rest => (true, rest)
    | '/' :: rest => (true, rest)
    | rest => (false, rest)
  if !rest.isEmpty && rest.all (fun c => '0' ≤ c && c ≤ '7') then
    return .mode all (rest.foldl (fun n c => n * 8 + Text.digitValue c) 0)
  if rest.contains 'x' then return .mode true 0o100
  if rest.any fun c => "rw".contains c then return .mode true 0o400
  throw ("invalid mode " ++ quoted s)

/-- Reads a test or a deed. -/
def primary (word : String) : QuestReading Quest := do
  match word with
  | "-name" => return .named false false (← argumentOf word)
  | "-iname" => return .named false true (← argumentOf word)
  | "-path" | "-wholename" => return .named true false (← argumentOf word)
  | "-ipath" | "-iwholename" => return .named true true (← argumentOf word)
  | "-regex" =>
    match Regex.read false (← argumentOf word).toList with
    | .ok (r, _) => return .written r
    | .error message => throw message
  | "-type" =>
    let letters := (← argumentOf word).splitOn ","
    if let some s := letters.find? fun s => s.length != 1 || !"bcdpflsD".contains s then
      throw ("Unknown argument to -type: " ++ s)
    return .kind (letters.flatMap String.toList)
  | "-empty" => return .empty
  | "-executable" => return .runs
  | "-readable" | "-writable" | "-true" | "-daystart" | "-follow" | "-noleaf" | "-mount"
  | "-xdev" | "-warn" | "-nowarn" => return .holds true
  | "-false" => return .holds false
  | "-size" => sizeQuest (← argumentOf word)
  | "-perm" => modeQuest (← argumentOf word)
  | "-user" | "-group" =>
    let _ ← argumentOf word
    return .holds true
  | "-newer" => return .newer (← argumentOf word)
  | "-mtime" => return .aged 86400 (← argumentOf word)
  | "-mmin" => return .aged 60 (← argumentOf word)
  | "-print" => return .tell "\n"
  | "-print0" => return .tell "\x00"
  | "-printf" => return .format (← argumentOf word).toList
  | "-delete" =>
    modify fun (words, o) => (words, { o with depthFirst := true })
    return .delete
  | "-exec" | "-execdir" =>
    let (words, all) ← commandWords word
    return if all then .together words else .command words
  | "-prune" => return .prune
  | "-quit" => return .quit
  | "-depth" | "-d" =>
    modify fun (words, o) => (words, { o with depthFirst := true })
    return .holds true
  | "-maxdepth" =>
    let n ← numberOf word
    modify fun (words, o) => (words, { o with most := n })
    return .holds true
  | "-mindepth" =>
    let n ← numberOf word
    modify fun (words, o) => (words, { o with least := n })
    return .holds true
  | _ =>
    if word.startsWith "-" then throw ("unknown predicate \x60" ++ word ++ "'")
    throw ("paths must precede expression: \x60" ++ word ++ "'")

/-- Reads an expression on a level: 0 for one after another, 1 for alternatives, 2 for what holds
together, 3 for one that may be denied. -/
def questWithin : Nat → Nat → QuestReading Quest
  | 0, _ => throw "expression too deep"
  | n + 1, 0 => do
    let a ← questWithin n 1
    if (← nextWord?) != some "," then return a
    passWord
    return .after a (← questWithin n 0)
  | n + 1, 1 => do
    let a ← questWithin n 2
    let word? ← nextWord?
    if word? != some "-o" && word? != some "-or" then return a
    passWord
    return .either a (← questWithin n 1)
  | n + 1, 2 => do
    let a ← questWithin n 3
    match ← nextWord? with
    | none | some "," | some "-o" | some "-or" | some ")" => return a
    | some "-a" | some "-and" =>
      passWord
      return .both a (← questWithin n 2)
    | some _ => return .both a (← questWithin n 2)
  | n + 1, _ => do
    match ← nextWord? with
    | none => throw "invalid expression; expected to find more"
    | some "!" | some "-not" =>
      passWord
      return .denied (← questWithin n 3)
    | some "(" =>
      passWord
      let a ← questWithin n 0
      if (← nextWord?) != some ")" then
        throw "invalid expression; I was expecting to find a ')' somewhere but did not see one."
      passWord
      return a
    | some word =>
      passWord
      primary word

/-- Reads the words of an expression. Without a deed, paths are shown. -/
def readQuest (words : List String) : Except String (Quest × FindRules) := do
  if words.isEmpty then return (.tell "\n", {})
  let (quest, rest, o) ← (questWithin (4 * words.length + 4) 0).run (words, {})
  if let some word := rest.head? then
    throw (if word == ")" then
      "invalid expression; you have used a ')' operator without an opening '('"
      else "paths must precede expression: \x60" ++ word ++ "'")
  return (if quest.acts then quest else .both quest (.tell "\n"), o)

/-! ## The search -/

/-- A file that is tried. -/
structure Found where
  /-- The path where the search began. -/
  root : String
  /-- Its path. -/
  path : String
  /-- The names that lead to it. -/
  names : List String
  /-- What it is. -/
  place : Place
  /-- How deep it is. -/
  depth : Nat
  /-- Its permissions, if it is a directory. -/
  ownMode : Nat := FileTree.usualMode
  /-- Whether it only stands for another one. -/
  linked : Bool := false

/-- What a search has come to. -/
structure Hunt where
  /-- The files that commands take together, the last first, with the commands. -/
  together : List (List String × List String) := []
  /-- Whether what is below the file is left out. -/
  pruned : Bool := false
  /-- Whether the search has ended. -/
  ended : Bool := false
  /-- Whether something went wrong. -/
  failed : Bool := false

/-- Searching. -/
abbrev Hunting := StateT Hunt Run

/-- Whether a file is a directory, and does not only stand for one. -/
def Found.isDirectory (f : Found) : Bool :=
  match f.place with
  | .file _ => false
  | .directory => !f.linked

/-- Whether a file is a pipe. -/
def Found.isPipe (f : Found) : Bool :=
  match f.place with
  | .file g => g.isPipe
  | .directory => false

/-- The letter of the kind of a file. -/
def Found.kindLetter (f : Found) : Char :=
  if f.linked then 'l' else if f.isDirectory then 'd' else if f.isPipe then 'p' else 'f'

/-- How many bytes a file has. -/
def Found.size (f : Found) : Nat :=
  match f.place with
  | .file g => g.bytes.length
  | .directory => Sight.directorySize

/-- The permissions of a file. -/
def Found.mode (f : Found) : Nat :=
  match f.place with
  | .file g => if f.linked then 0o777 else g.mode
  | .directory => f.ownMode

/-- A file in a format. There is a step for each character. -/
def Found.inFormat (f : Found) : Nat → List Char → List Char
  | 0, s => s
  | _, [] => []
  | n + 1, '\\' :: s =>
    let (front, length) := Shell.escape { octal := true } s
    front ++ f.inFormat n (s.drop length)
  | n + 1, '%' :: c :: s =>
    let below := (f.path.drop f.root.length).toString
    let text := match c with
      | 'p' => f.path
      | 'f' => lastName f.path
      | 'h' => parentPath f.path
      | 'H' => f.root
      | 'P' => if below.startsWith "/" then (below.drop 1).toString else below
      | 's' => toString f.size
      | 'd' => toString f.depth
      | 'y' => f.kindLetter.toString
      | 'm' => String.ofList (Nat.toDigits 8 f.mode)
      | '%' => "%"
      | c => "%" ++ c.toString
    text.toList ++ f.inFormat n s
  | n + 1, c :: s => c :: f.inFormat n s

/-- The characters of a pattern, where a backslash lets the next one stand for itself. -/
def patternChars : List Char → List Shell.PatternChar
  | '\\' :: c :: rest => (c, true) :: patternChars rest
  | c :: rest => (c, false) :: patternChars rest
  | [] => []

/-- Whether a pattern stands for a text. -/
def fits (fold : Bool) (pattern text : String) : Bool :=
  let lower (s : String) : String := if fold then s.map Char.toLower else s
  Shell.stands (Shell.pieces true (patternChars (lower pattern).toList))
    (lower text).toList

/-- Works an expression out for a file, given how commands are carried out; whether it holds. -/
def Quest.work (run : List String → Run Nat) (f : Found) : Quest → Hunting Bool
  | holds always => return always
  | named whole fold pattern =>
    return fits fold pattern (if whole then f.path else lastName f.path)
  | written r =>
    return (r.find? { rest := f.path.toList } fun a b =>
      a.passed.isEmpty && b.rest.isEmpty).isSome
  | kind letters => return letters.contains f.kindLetter
  | newer path => return Shell.Condition.isNewer false (← tree) f.path path
  | aged unit count => do
    let age := (← presentTime) - secondsOf ((← tree).timeAt f.names f.place)
    let n : Int := (((count.dropWhile fun c => c == '+' || c == '-').toString).toNat?).getD 0
    let units := if unit == 60 then (age + 59) / 60 else age / unit
    return if count.startsWith "+" then n < units else if count.startsWith "-" then
      (if unit == 60 then age < n * 60 else units < n) else units == n
  | empty => do
    match f.place with
    | .file g => return !f.linked && g.bytes.isEmpty
    | .directory => return ((← tree).namesAt f.names).isEmpty
  | runs => return f.mode % 2 == 1
  | size order count unit => return compare ((f.size + unit - 1) / unit) count == order
  | mode all bits => return if all then f.mode &&& bits == bits else f.mode == bits
  | tell ending => do
    say 1 (f.path ++ ending)
    return true
  | format text => do
    say 1 (String.ofList (f.inFormat text.length text))
    return true
  | delete => do
    if f.isDirectory && !((← tree).namesAt f.names).isEmpty then
      report "find" ("cannot delete " ++ quoted f.path ++ ": Directory not empty")
      modify ({ · with failed := true })
      return false
    if f.linked then changeTree (·.withoutLink f.names) else changeTree (·.erase f.names)
    return true
  | command words => do
    return (← run (words.map (·.replace "\x7b\x7d" f.path))) == 0
  | together words => do
    modify fun h =>
      let paths := (h.together.lookup words).getD []
      { h with together := (words, f.path :: paths) :: h.together.filter (·.1 != words) }
    return true
  | prune => do
    modify ({ · with pruned := true })
    return true
  | quit => do
    modify ({ · with ended := true })
    return true
  | denied a => do return !(← a.work run f)
  | both a b => do
    if ← a.work run f then b.work run f else return false
  | either a b => do
    if ← a.work run f then return true else b.work run f
  | after a b => do
    let _ ← a.work run f
    b.work run f

/-- Tries a file and what is below it, down to so many levels. -/
def tryFile (run : List String → Run Nat) (o : FindRules) (quest : Quest) :
    Nat → Found → Hunting Unit
  | 0, _ => return
  | n + 1, f => do
    if (← get).ended then return
    let attempt : Hunting Unit := do
      modify ({ · with pruned := false })
      if o.least ≤ f.depth then
        let _ ← quest.work run f
    if !o.depthFirst then attempt
    let pruned := (← get).pruned && !o.depthFirst
    if f.isDirectory && !pruned && f.depth < o.most then
      let front := if f.path.endsWith "/" then f.path else f.path ++ "/"
      for child in ((← tree).namesAt f.names).mergeSort (· ≤ ·) do
        let t ← tree
        let names := FileTree.step f.names child
        let linked := (t.links.lookup names).isSome
        if let some place := if linked then some (.file {}) else t.place? names then
          tryFile run o quest n { f with
            path := front ++ octets child, names, place, depth := f.depth + 1
            ownMode := t.modeAt names place, linked }
    if o.depthFirst && !(← get).ended then attempt

/-- Seeks files, given how commands are carried out. -/
def find (run : List String → Run Nat) : Program := fun name words => do
  let words := words.dropWhile fun s => ["-H", "-L", "-P"].contains s
  let isPath (s : String) : Bool := !s.startsWith "-" && !(["(", "!", ")", ","].contains s)
  let paths := words.takeWhile isPath
  match readQuest (words.drop paths.length) with
  | .error message => failWith 1 name message
  | .ok (quest, o) =>
    let search : Hunting Unit := do
      for path in if paths.isEmpty then ["."] else paths do
        let t ← tree
        if let some names := t.linkAt? (textOf path) then
          tryFile run o quest 256
            { root := path, path, names, place := .file {}, depth := 0, linked := true }
          continue
        match t.locate (textOf path) with
        | .ok (names, some place) =>
          tryFile run o quest 256
            { root := path, path, names, place, depth := 0, ownMode := t.modeAt names place }
        | .ok (_, none) =>
          report name (quoted path ++ ": " ++ FileError.notFound.words)
          modify ({ · with failed := true })
        | .error e =>
          report name (quoted path ++ ": " ++ e.words)
          modify ({ · with failed := true })
    let (_, hunt) ← search.run {}
    let mut failed := hunt.failed
    for (words, paths) in hunt.together.reverse do
      if (← run (words ++ paths.reverse)) != 0 then failed := true
    return if failed then 1 else 0

end BuildingModel.Sandbox.Tool
