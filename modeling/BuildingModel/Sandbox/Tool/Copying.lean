import BuildingModel.Sandbox.Shell.Format
import BuildingModel.Sandbox.Tool.Basic

/-!
# Programs that copy

The programs that copy what they read, as it is, with marks, from behind, in part, or to several
files.
-/

namespace BuildingModel.Sandbox.Tool

open Shell (Run say)

/-! ## Whole files -/

/-- Shows control characters, tabs and the ends of lines. -/
def showByte (ends tabs controls : Bool) (b : UInt8) : List UInt8 :=
  if b == 10 then (if ends then [36, 10] else [10])
  else if b == 9 then (if tabs then [94, 73] else [9])
  else if !controls then [b]
  else
    let low (b : UInt8) : List UInt8 :=
      if b < 32 then [94, b + 64] else if b == 127 then [94, 63] else [b]
    if b < 128 then low b else [77, 45] ++ low (b - 128)

/-- Whether a line is empty. -/
def isEmptyLine (line : List UInt8) : Bool := line == [10]

/-- Lines without all but the first of several empty ones. -/
def squeeze : List (List UInt8) → List (List UInt8)
  | a :: b :: rest =>
    if isEmptyLine a && isEmptyLine b then squeeze (b :: rest) else a :: squeeze (b :: rest)
  | rest => rest

/-- A number before its line. -/
def numbered (width n : Nat) (line : List UInt8) : List UInt8 :=
  bytesOf (String.ofList (Shell.pad [] width (toString n).toList)) ++ 9 :: line

/-- Lines with their numbers, where empty ones may have none. -/
def numberLines (skipEmpty : Bool) : Nat → List (List UInt8) → List (List UInt8)
  | _, [] => []
  | n, line :: rest =>
    if skipEmpty && isEmptyLine line then line :: numberLines skipEmpty n rest
    else numbered 6 n line :: numberLines skipEmpty (n + 1) rest

/-- Bytes with the marks that options ask for. -/
def marked (p : Parsed) (bytes : List UInt8) : List UInt8 :=
  let found := lines bytes
  let found := if p.has 's' then squeeze found else found
  let found := if p.has 'n' || p.has 'b' then numberLines (p.has 'b') 1 found else found
  let ends := p.has 'A' || p.has 'e' || p.has 'E'
  let tabs := p.has 'A' || p.has 't' || p.has 'T'
  let controls := p.has 'A' || p.has 'e' || p.has 't' || p.has 'v'
  found.flatten.flatMap (showByte ends tabs controls)

/-- Whether a path leads to the file that output goes to, with something left to read there. -/
def feedsItself (path : String) : Run Bool := do
  match ← sourceAt path, ← Shell.channel 1 with
  | .ok (.file names offset ..), .file target .. =>
    return names == target && offset < (← fileSize names)
  | _, _ => return false

/-- What is copied of a file, or what is wrong with it. -/
def copyOf (path : String) : Run (Except String (List UInt8)) := do
  if ← feedsItself path then return .error (path ++ ": input file is output file")
  return (← contents path).mapError (plainly path)

/-- Copies what a channel gives as it comes, in so many turns at most; whether that is possible. -/
def pour (i : Nat) (put : List UInt8 → Run Bool) : Nat → Run Bool
  | 0 => return true
  | n + 1 => do
    match ← Shell.takeSome? i blockSize with
    | some (b :: rest) => if ← put (b :: rest) then pour i put n else return false
    | _ => return true

/-- How often zeros are copied. -/
def endlessTurns : Nat := 1024

/-- How often something is taken off a channel that is copied as it comes: not if it gives all at
once, or if nobody breaks off what has no end. -/
def pourTurns? (i : Nat) : Run (Option Nat) := do
  match ← channelAt i, ← Shell.channel 1 with
  | .pipe .., _ => return some Shell.takeLimit
  | .zeros, .inlet _ | .full, .inlet _ => return some endlessTurns
  | _, _ => return none

/-- Copies a file as it comes; whether there is such a file. -/
def isPoured (name path : String) : Run Bool := do
  let .ok i ← openGiven path | return false
  let some turns ← pourTurns? i | return false
  if !(← pour i (Shell.write 1 ·) turns) then report name "write error: Broken pipe"
  return true

/-- Copies files. -/
def cat : Program := fun name words =>
  withOptions { flags := "AbeEnstTuv", names := [("show-all", 'A'), ("number-nonblank", 'b'),
      ("show-ends", 'E'), ("number", 'n'), ("squeeze-blank", 's'), ("show-tabs", 'T'),
      ("show-nonprinting", 'v')] } 1 name words fun p => do
    let paths := pathsOf p
    let plain := p.options.all (·.1 == 'u')
    let mut fine := true
    let mut found := #[]
    for path in paths do
      let isDone ← if plain then isPoured name path else pure false
      if isDone then continue
      match ← copyOf path with
      | .ok bytes => if plain then emit bytes else found := found.push bytes
      | .error message =>
        report name message
        fine := false
    if !plain then emit (marked p found.toList.flatten)
    if paths.contains "-" && (← Shell.channelOf? 0).isNone then
      return ← failWith 1 name "closing standard input: Bad file descriptor"
    return statusOf fine

/-- The pieces of a text between places where another text stands, each with that text at its end
or, if it is said so, at its front. The piece that is being read is given from behind. There is a
step for each character. -/
def piecesAround (separator : List UInt8) (atFront : Bool) :
    Nat → List UInt8 → List UInt8 → List (List UInt8)
  | 0, piece, rest => [piece.reverse ++ rest]
  | _, piece, [] => if piece.isEmpty then [] else [piece.reverse]
  | n + 1, piece, b :: rest =>
    if separator.isPrefixOf (b :: rest) then
      let rest := (b :: rest).drop separator.length
      if atFront then piece.reverse :: piecesAround separator atFront n separator.reverse rest
      else (piece.reverse ++ separator) :: piecesAround separator atFront n [] rest
    else piecesAround separator atFront n (b :: piece) rest

/-- The pieces of a text, the last first. Separators are sought from the end on. -/
def piecesFromEnd (separator : List UInt8) (atFront : Bool) (bytes : List UInt8) :
    List (List UInt8) :=
  (piecesAround separator.reverse (!atFront) (bytes.length + 1) [] bytes.reverse).map List.reverse

/-- Copies the lines of files, the last ones first. -/
def tac : Program := fun name words =>
  withOptions { flags := "br", valued := "s", names := [("before", 'b'), ("separator", 's')] } 1
      name words fun p => do
    let separator := match p.value? 's' with
      | some s => if s.isEmpty then [0] else bytesOf s
      | none => [10]
    onEach (pathsOf p) fun path => do
      match ← contents path with
      | .ok bytes =>
        emit (piecesFromEnd separator (p.has 'b') bytes).flatten
        return true
      | .error .isADirectory =>
        report name (path ++ ": read error: Invalid argument")
        return false
      | .error e =>
        report name ("failed to open " ++ quoted path ++ " for reading: " ++ e.words)
        return false

/-- Copies what it reads to files, too. -/
def tee : Program := fun name words =>
  withOptions { flags := "aip", names := [("append", 'a'), ("ignore-interrupts", 'i')] } 1
      name words fun p => do
    let mut targets := #[]
    let mut fine := true
    for path in p.operands do
      let appends := p.has 'a'
      match ← Shell.openPath { writes := true, appends, empties := !appends } path with
      | .ok i => targets := targets.push i
      | .error e =>
        report name (plainly path e)
        fine := false
    let put (bytes : List UInt8) : Run Bool := do
      let heard ← Shell.write 1 bytes
      for i in targets do
        let _ ← Shell.writeTo i bytes
      return heard
    match ← openGiven "-" with
    | .ok i =>
      if ← isPipe i then
        let _ ← pour i put Shell.takeLimit
      else
        let _ ← put (((← readAll i).toOption).getD [])
    | .error _ => pure ()
    return statusOf fine

/-! ## Parts of files -/

/-- The factors of counts, by their names. -/
def countFactors : List (String × Nat) :=
  [("", 1), ("b", 512), ("kB", 1000), ("KB", 1000), ("k", 1024), ("K", 1024), ("KiB", 1024),
   ("MB", 1000000), ("m", 1048576), ("M", 1048576), ("MiB", 1048576), ("GB", 1000000000),
   ("G", 1073741824), ("GiB", 1073741824)]

/-- A count with a factor. -/
def count? (s : String) : Option Nat :=
  let digits := s.toList.takeWhile Char.isDigit
  if digits.isEmpty then none
  else (countFactors.lookup (s.drop digits.length).toString).map (Text.digitsValue digits * ·)

/-- A part of files that is asked for. -/
structure Portion where
  /-- Whether it is counted in bytes. -/
  bytes : Bool
  /-- The sign of the count. -/
  sign : Option Char
  /-- The count. -/
  count : Nat

/-- The pieces of bytes that are counted. -/
def Portion.pieces (o : Portion) (ending : UInt8) (bytes : List UInt8) : List (List UInt8) :=
  if o.bytes then bytes.map ([·]) else lines bytes ending

/-- The part that options ask for, or what is wrong with them. -/
def portion (p : Parsed) : Except String Portion :=
  let asked := p.options.reverse.find? fun (c, _) => c == 'c' || c == 'n'
  let (unit, number) := asked.getD ('n', "10")
  let sign := number.toList.head?.filter fun c => c == '-' || c == '+'
  let digits := if sign.isSome then (number.drop 1).toString else number
  match count? digits with
  | some count => .ok ⟨unit == 'c', sign, count⟩
  | none =>
    .error ("invalid number of " ++ (if unit == 'c' then "bytes" else "lines") ++ ": "
      ++ quoted digits)

/-- Copies parts of files, as a function does it for a channel. -/
def copyParts (name : String) (p : Parsed) (copy : Portion → Nat → Run Unit) : Run Nat := do
  match portion p with
  | .error message => failWith 1 name message
  | .ok portion =>
    let paths := pathsOf p
    let titles := p.has 'v' || (paths.length > 1 && !p.has 'q')
    let mut fine := true
    let mut first := true
    for path in paths do
      let opened ← openGiven path
      let fault? ← match opened with
        | .ok i => pure (readFault? (← channelAt i))
        | .error e => pure (some e)
      let isOpen := fault?.all (· == .isADirectory)
      if titles && isOpen then
        say 1 ((if first then "" else "\n") ++ "==> "
          ++ (if path == "-" then "standard input" else path) ++ " <==\n")
        first := false
      match fault?, opened with
      | none, .ok i => copy portion i
      | fault?, _ =>
        let words := (fault?.map FileError.words).getD ""
        report name
          (if isOpen then "error reading " ++ quoted path ++ ": " ++ words
           else "cannot open " ++ quoted path ++ " for reading: " ++ words)
        fine := false
    return statusOf fine

/-- The first lines of bytes, so many at most, with what is after them and how many more lines are
wanted. What has been passed is given from behind. -/
def frontLines (ending : UInt8) : List UInt8 → Nat → List UInt8 → List UInt8 × List UInt8 × Nat
  | passed, 0, rest => (passed.reverse, rest, 0)
  | passed, n, [] => (passed.reverse, [], n)
  | passed, n + 1, b :: rest =>
    frontLines ending (b :: passed) (if b == ending then n else n + 1) rest

/-- How many bytes of a channel are read at once where lines are counted. -/
def frontSize (i : Nat) : Run Nat :=
  return if ← isPipe i then 8192 else Shell.togetherLimit

/-- Copies the front of what a channel gives, as long as a portion lasts. What has been read beyond
it is given back if that is possible. -/
def copyFront (ending : UInt8) (bytes : Bool) (i : Nat) (write : Run Unit) : Nat → Nat → Run Unit
  | 0, _ => return
  | n + 1, wanted => do
    if wanted == 0 then return
    let size ← if bytes then pure (min wanted Shell.togetherLimit) else frontSize i
    match ← Shell.takeSome? i size with
    | some (b :: rest) =>
      let found := b :: rest
      let (front, rest, wanted) :=
        if bytes then (found, [], wanted - found.length) else frontLines ending [] wanted found
      emit front
      write
      Shell.giveBack i rest
      copyFront ending bytes i write n wanted
    | _ => return

/-- The options of programs that copy parts of files. -/
def partGrammar : Grammar where
  flags := "qvzfF"
  valued := "nc"
  names := [("lines", 'n'), ("bytes", 'c'), ("quiet", 'q'), ("silent", 'q'), ("verbose", 'v'),
    ("zero-terminated", 'z'), ("follow", 'f')]

/-- The options that a number with letters after it stands for. -/
def numberOptions? (digits letters : List Char) : Option (List String) :=
  if digits.isEmpty || !letters.all ("bckmlqv".contains ·) then none
  else
    let factors := letters.filter ("bkm".contains ·)
    let unit := if letters.contains 'c' || !factors.isEmpty then "-c" else "-n"
    some ((unit ++ String.ofList (digits ++ factors.take 1))
      :: (letters.filter ("qv".contains ·)).map fun c => "-" ++ c.toString)

/-- Copies the front of files. -/
def head : Program := fun name words =>
  let words := match words with
    | word :: rest =>
      let digits := (word.toList.drop 1).takeWhile Char.isDigit
      if word.startsWith "-" then
        match numberOptions? digits (word.toList.drop (1 + digits.length)) with
        | some options => options ++ rest
        | none => words
      else words
    | [] => []
  withOptions partGrammar 1 name words fun p => heaping fun write =>
    copyParts name p fun portion i => do
      if portion.sign == some '-' then
        let pieces := portion.pieces (lineEnd p) (((← readAll i).toOption).getD [])
        emit (pieces.take (pieces.length - portion.count)).flatten
      else copyFront (lineEnd p) portion.bytes i write Shell.takeLimit portion.count

/-- The options that an old form stands for, in which a sign and a number come first and at most one
file follows. -/
def oldTail? (words : List String) : Option (List String) :=
  match words with
  | word :: rest =>
    let body := word.toList.drop 1
    let digits := body.takeWhile Char.isDigit
    let letters := body.drop digits.length
    let fits := match rest with
      | [] => true
      | [path] => !path.startsWith "-" || path == "-"
      | [dashes, _] => dashes == "--"
      | _ => false
    let unit := letters.head?.filter ("bcl".contains ·)
    let after := if unit.isSome then letters.drop 1 else letters
    let number := if digits.isEmpty then ['1', '0'] else digits
    let factor := if unit == some 'b' then ['b'] else []
    let sign := if word.startsWith "+" then ['+'] else []
    if fits && (word.startsWith "+" || (word.startsWith "-" && !(["", "c"].contains
        (word.drop 1).toString))) && (after.isEmpty || after == ['f']) then
      some ((if unit.any (· != 'l') then "-c" else "-n")
        :: String.ofList (sign ++ number ++ factor) :: rest)
    else none
  | [] => none

/-- Whether a word is a dash before a number. -/
def isDashNumber (word : String) : Bool :=
  let digits := word.toList.drop 1
  word.startsWith "-" && !digits.isEmpty && digits.all Char.isDigit

/-- Copies the end of files. -/
def tail : Program := fun name words =>
  match oldTail? words, words.head?.filter isDashNumber with
  | none, some word =>
    failWith 1 name ("option used in invalid context -- " ++ (word.drop 1).toString)
  | old, _ => withOptions partGrammar 1 name (old.getD words) (ends name)
where
  /-- Copies the ends that options ask for. -/
  ends (name : String) (p : Parsed) : Run Nat :=
    copyParts name p fun portion i => do
      let pieces := portion.pieces (lineEnd p) (((← readAll i).toOption).getD [])
      emit (if portion.sign == some '+' then pieces.drop (portion.count - 1)
        else pieces.drop (pieces.length - portion.count)).flatten

end BuildingModel.Sandbox.Tool
