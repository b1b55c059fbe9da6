import BuildingModel.Sandbox.Tool.Files
import BuildingModel.Text.Digits

/-!
# Permissions

What files and directories may be used for is told by twelve bits, which are shown as letters and
are changed by clauses such as "u+x". Here are the programs that set them, and `Sight`, which is
what a program sees at a place without reading it.
-/

namespace BuildingModel.Sandbox.Tool

open Shell (Run say tree changeTree)

/-! ## Letters -/

/-- The three letters of some who have permissions, and the letter that stands for a bit of its
own. -/
def threeLetters (bits : Nat) (own : Bool) (mark : Char) : List Char :=
  let letter (bit : Nat) (c : Char) : Char := if bits &&& bit == 0 then '-' else c
  let last := letter 1 'x'
  [letter 4 'r', letter 2 'w', if !own then last else if last == 'x' then mark else mark.toUpper]

/-- Permissions in letters. -/
def permissionLetters (mode : Nat) : String :=
  String.ofList (threeLetters (mode / 64 % 8) (mode &&& 0o4000 != 0) 's'
    ++ threeLetters (mode / 8 % 8) (mode &&& 0o2000 != 0) 's'
    ++ threeLetters (mode % 8) (mode &&& 0o1000 != 0) 't')

/-- Permissions in digits. -/
def permissionDigits (mode : Nat) : String := String.ofList (Nat.toDigits 8 mode)

/-! ## Clauses -/

/-- All bits of permissions. -/
def allBits : Nat := 0o7777

/-- The bits of those who are named by a letter. -/
def holdersOf : Char → Nat
  | 'u' => 0o4700
  | 'g' => 0o2070
  | 'o' => 0o1007
  | _ => allBits

/-- The permissions that one of those who have some has, for all of them. -/
def spread (mode : Nat) (c : Char) : Nat :=
  let shift := if c == 'u' then 64 else if c == 'g' then 8 else 1
  mode / shift % 8 * 0o111

/-- The bits that letters ask for, given the permissions that there are. -/
def askedBits (isDirectory : Bool) (mode : Nat) (letters : List Char) : Nat :=
  letters.foldl (fun bits c => bits ||| match c with
    | 'r' => 0o444
    | 'w' => 0o222
    | 'x' => 0o111
    | 'X' => if isDirectory || mode &&& 0o111 != 0 then 0o111 else 0
    | 's' => 0o6000
    | 't' => 0o1000
    | c => spread mode c) 0

/-- Permissions after the changes of a clause, each a sign with letters; none if it is no clause. A
clause that names nobody leaves out the bits of a mask. There is a step for each change. -/
def afterModeChanges (isDirectory : Bool) (mask : Nat) (holders : Option Nat) :
    Nat → List Char → Nat → Option Nat
  | 0, _, mode | _, [], mode => some mode
  | n + 1, sign :: rest, mode =>
    let letters := rest.takeWhile fun c => !(['+', '-', '='].contains c)
    let known := letters.all ("rwxXst".contains ·)
      || (letters.length == 1 && letters.all ("ugo".contains ·))
    if !known || !(['+', '-', '='].contains sign) then none
    else
      let bits := askedBits isDirectory mode letters &&& holders.getD (allBits - mask)
      let changed := match sign with
        | '+' => mode ||| bits
        | '-' => mode - (mode &&& bits)
        | _ => (match holders with
          | some h => mode - (mode &&& h)
          | none => 0) ||| bits
      afterModeChanges isDirectory mask holders n (rest.drop letters.length) changed

/-- Permissions after a clause such as "u+x". -/
def afterModeClause (isDirectory : Bool) (mask : Nat) (mode : Nat) (clause : List Char) :
    Option Nat :=
  let names := clause.takeWhile ("ugoa".contains ·)
  let changes := clause.drop names.length
  let holders := if names.isEmpty then none
    else some (names.foldl (fun bits c => bits ||| holdersOf c) 0)
  if changes.isEmpty then none
  else afterModeChanges isDirectory mask holders changes.length changes mode

/-- Permissions after a mode, in digits or in clauses, has changed them; none if it is no mode. -/
def afterMode (isDirectory : Bool) (mask : Nat) (change : String) (mode : Nat) : Option Nat :=
  let digits := change.toList
  if !digits.isEmpty && digits.all fun c => '0' ≤ c && c ≤ '7' then
    let bits := digits.foldl (fun n c => n * 8 + Text.digitValue c) 0
    if allBits < bits then none else some bits
  else
    (change.splitOn ",").foldlM
      (fun mode clause => afterModeClause isDirectory mask mode clause.toList) mode

/-! ## Changing permissions -/

/-- Whether a word is a mode although a dash is in front. -/
def isDashMode (word : String) : Bool :=
  let letters := word.toList.drop 1
  word.startsWith "-" && !word.startsWith "--" && !letters.isEmpty
    && letters.all ("rwxXst,ugo+-=".contains ·)

/-- The names of what is at a place and below it, each before what is in it, down to so many
levels. -/
def namesBelow (t : FileTree) : Nat → List String → List (List String)
  | 0, names => [names]
  | n + 1, names =>
    names :: (((t.namesAt names).mergeSort (· ≤ ·)).map fun s =>
      namesBelow t n (names ++ [s])).flatten

/-- What is told of permissions that were changed, or not. -/
def modeText (path : String) (old new : Nat) : String :=
  let shown (mode : Nat) : String :=
    let digits := permissionDigits mode
    String.ofList (List.replicate (4 - digits.length) '0') ++ digits
      ++ " (" ++ permissionLetters mode ++ ")"
  "mode of " ++ quoted path ++
    if old == new then " retained as " ++ shown old
    else " changed from " ++ shown old ++ " to " ++ shown new

/-- Changes the permissions of files. -/
def chmod : Program := fun name words =>
  let mode := words.find? isDashMode
  let others := match mode with
    | some m => words.erase m
    | none => words
  withOptions { flags := "cfRv", valued := "#", names := [("recursive", 'R'), ("silent", 'f'),
      ("quiet", 'f'), ("changes", 'c'), ("verbose", 'v'), ("reference", '#')] } 1 name others
      fun p => do
    let mask := (← Shell.context).mask
    let t ← tree
    let reference := (p.value? '#').bind fun path =>
      match t.locate (textOf path) with
      | .ok (names, some place) => some (permissionDigits (t.modeAt names place))
      | _ => none
    match (reference.orElse fun _ => mode).toList ++ p.operands with
    | [] => misuse 1 name "missing operand"
    | [only] => misuse 1 name ("missing operand after " ++ quoted only)
    | mode :: paths =>
      if (afterMode false mask mode 0).isNone then
        return ← misuse 1 name ("invalid mode: " ++ quoted mode)
      onEach paths fun path => do
        let failed (words : String) : Run Bool := do
          if !p.has 'f' then report name ("cannot access " ++ quoted path ++ ": " ++ words)
          return false
        match (← tree).locate (textOf path) with
        | .ok (names, some _) =>
          let t ← tree
          for found in if p.has 'R' then namesBelow t depthLimit names else [names] do
            if let some place := t.place? found then
              let old := t.modeAt found place
              let new := (afterMode (place == .directory) mask mode old).getD old
              let below := found.drop names.length
              let front := if path.endsWith "/" || below.isEmpty then path else path ++ "/"
              if p.has 'v' || (p.has 'c' && old != new) then
                sayLine (modeText (front ++ octets ("/".intercalate below)) old new)
              changeTree (·.withMode found new)
          return true
        | .ok (_, none) => failed FileError.notFound.words
        | .error e => failed e.words

/-! ## Making directories -/

/-- Makes the directory at a path with those above it, from the given one on. -/
def makeParents (name path : String) (tells : Bool) : String → List String → Run Bool
  | _, [] => return true
  | front, part :: rest => do
    let here := front ++ part
    match (← tree).locate (textOf here) with
    | .ok (_, some .directory) => makeParents name path tells (here ++ "/") rest
    | .ok (names, none) =>
      let mode ← Shell.newMode 0o777
      let time ← Shell.now
      changeTree (·.makeDirectory names mode time)
      if tells then sayLine (name ++ ": created directory " ++ quoted here)
      makeParents name path tells (here ++ "/") rest
    | .ok (_, some (.file _)) =>
      complainOf name "cannot create directory" here
        (if rest.isEmpty then "File exists" else FileError.notADirectory.words)
    | .error e => complainOf name "cannot create directory" here e.words

/-- Makes directories. -/
def mkdir : Program := fun name words =>
  withOptions { flags := "pvZ", valued := "m", names := [("parents", 'p'), ("mode", 'm'),
      ("verbose", 'v')] } 1 name words fun p => do
    if p.operands.isEmpty then return ← misuse 1 name "missing operand"
    let usual ← Shell.newMode 0o777
    let asked := p.value? 'm'
    let mask := allBits - 0o7000 - usual
    let some mode := (asked.map fun s => afterMode true mask s 0o777).getD usual
      | failWith 1 name ("invalid mode " ++ quoted (asked.getD ""))
    onEach p.operands fun path => do
      let stripped := String.ofList (dropSlashes path.toList)
      if p.has 'p' && !path.isEmpty then
        let front := if path.startsWith "/" then "/" else ""
        let isNew := ((← tree).find (textOf path)).toOption.isNone
        let fine ← makeParents name path (p.has 'v') front
          ((stripped.splitOn "/").filter fun part => !part.isEmpty)
        if let .ok (names, some .directory) := (← tree).locate (textOf path) then
          if isNew then changeTree (·.withMode names mode)
        return fine
      else
        match (← tree).locate (textOf (if stripped.isEmpty then path else stripped)) with
        | .ok (names, none) =>
          let time ← Shell.now
          changeTree (·.makeDirectory names mode time)
          if p.has 'v' then sayLine (name ++ ": created directory " ++ quoted path)
          return true
        | .ok (_, some _) => complainOf name "cannot create directory" path "File exists"
        | .error e => complainOf name "cannot create directory" path e.words

/-- Makes pipes that have names. -/
def mkfifo : Program := fun name words =>
  withOptions { flags := "Z", valued := "m", names := [("mode", 'm')] } 1 name words fun p => do
    if p.operands.isEmpty then return ← misuse 1 name "missing operand"
    let usual ← Shell.newMode 0o666
    let asked := p.value? 'm'
    let mask := allBits - 0o7000 - usual
    let some mode := (asked.map fun s => afterMode false mask s 0o666).getD usual
      | failWith 1 name "invalid mode"
    onEach p.operands fun path => do
      let failed := complainOf name "cannot create fifo" path
      match (← tree).locate (textOf path) with
      | .ok (names, none) =>
        if path.endsWith "/" then return ← failed FileError.notFound.words
        Shell.putFile names { mode, isPipe := true }
        return true
      | .ok (_, some _) => failed "File exists"
      | .error e => failed e.words

/-! ## Seeing -/

/-- What is seen at a place. -/
structure Sight where
  /-- The letter of its kind. -/
  kind : Char
  /-- Its permissions. -/
  mode : Nat
  /-- How many names it has. -/
  names : Nat := 1
  /-- How many bytes it has. -/
  size : Nat
  /-- What it stands for, if it is a link. -/
  target : Option String := none
  /-- When it was changed last. -/
  time : Int := 0

namespace Sight

/-- How many bytes a directory has. -/
def directorySize : Nat := 4096

/-- What is seen at a place. -/
def ofPlace (t : FileTree) (names : List String) (place : Place) : Sight :=
  let mode := t.modeAt names place
  match place with
  | .file f =>
    if names.head? == some "dev" then { kind := 'c', mode := 0o666, size := 0 }
    else
      { kind := if f.isPipe then 'p' else '-', mode, size := f.bytes.length, time := f.time }
  | .directory =>
    let inner := (t.namesAt names).filter fun s => t.place? (names ++ [s]) == some .directory
    { kind := 'd', mode, names := 2 + inner.length, size := directorySize
      time := t.timeAt names place }

/-- What is seen of a link. -/
def ofLink (target : String) : Sight :=
  { kind := 'l', mode := 0o777, size := target.length, target := some target }

/-- What is seen at the end of a path; a link is not followed unless that is asked for. -/
def ofPath (t : FileTree) (follows : Bool) (path : String) : Except FileError Sight := do
  if !follows && !path.endsWith "/" then
    if let some target := linkText? t path then return ofLink target
  match ← t.locate (textOf path) with
  | (names, some place) => return ofPlace t names place
  | (_, none) => throw .notFound

/-- The letters that show its kind and its permissions. -/
def letters (s : Sight) : String := s.kind.toString ++ permissionLetters s.mode

/-- How many blocks of 1024 bytes it takes. -/
def blocks (s : Sight) : Nat := if s.kind == 'l' then 0 else (s.size + 4095) / 4096 * 4

/-- What its kind is called. -/
def kindText (s : Sight) : String :=
  match s.kind with
  | 'd' => "directory"
  | 'p' => "fifo"
  | 'l' => "symbolic link"
  | 'c' => "character special file"
  | _ => if s.size == 0 then "regular empty file" else "regular file"

end Sight

end BuildingModel.Sandbox.Tool
