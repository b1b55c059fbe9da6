import BuildingModel.Sandbox.Shell.Format
import BuildingModel.Sandbox.Shell.Pattern
import BuildingModel.Sandbox.Tool.Basic

/-!
# Sorting

The program that sorts lines. Lines are ordered by keys, which are parts of them, each in a way of
its own; where no key tells lines apart, they are ordered by their bytes.
-/

namespace BuildingModel.Sandbox.Tool

open Shell (Run)

/-! ## Keys -/

/-- A place within a line. -/
structure KeyPlace where
  /-- How many fields are before it. -/
  fields : Nat
  /-- How many characters of its field are before it. -/
  offset : Nat := 0
  /-- Whether the blanks at the front of its field are not counted. -/
  passesBlanks : Bool := false
deriving DecidableEq, Repr

/-- A part of a line by which lines are ordered. -/
structure Key where
  /-- Where it begins. -/
  first : KeyPlace := { fields := 0 }
  /-- Where it ends, if that is not the end of the line. -/
  last : Option KeyPlace := none
  /-- The letters that tell how it is ordered. -/
  letters : List Char := []
deriving DecidableEq, Repr

/-- The letters that tell how keys are ordered, in the order in which they are shown. -/
def orderingLetters : List Char := "bdfghiMnRrV".toList

/-- A number at the front of a text that a key asks for, and the text after it. -/
def keyNumber (place : String) (s : List Char) : Except String (Nat × List Char) :=
  let digits := s.takeWhile Char.isDigit
  if digits.isEmpty then
    .error ("invalid number " ++ place ++ ": invalid count at start of "
      ++ quoted (String.ofList s))
  else .ok (Text.digitsValue digits, s.drop digits.length)

/-- The number of characters after a point, if there is one, and the text after it. -/
def keyOffset (s : List Char) : Except String (Option Nat × List Char) := do
  match s with
  | '.' :: rest =>
    let (n, rest) ← keyNumber "after '.'" rest
    return (some n, rest)
  | _ => return (none, s)

/-- The key in words, or what is wrong with it. -/
def keyOf (spec : String) : Except String Key := do
  let wrong {α : Type} (cause : String) : Except String α :=
    .error (cause ++ ": invalid field specification " ++ quoted spec)
  let letters (s : List Char) : List Char := s.takeWhile orderingLetters.contains
  let (field, rest) ← keyNumber "at field start" spec.toList
  if field == 0 then wrong "field number is zero"
  let (offset, rest) ← keyOffset rest
  if offset == some 0 then wrong "character offset is zero"
  let front := letters rest
  let first : KeyPlace := ⟨field - 1, offset.getD 1 - 1, front.contains 'b'⟩
  match rest.drop front.length with
  | [] => return { first, letters := front.filter (· != 'b') }
  | ',' :: rest =>
    let (field, rest) ← keyNumber "after ','" rest
    if field == 0 then wrong "field number is zero"
    let (offset, rest) ← keyOffset rest
    let back := letters rest
    if !(rest.drop back.length).isEmpty then wrong "stray character in field spec"
    let offset := offset.getD 0
    let last : KeyPlace := ⟨if offset == 0 then field else field - 1, offset, back.contains 'b'⟩
    return { first, last := some last, letters := (front ++ back).filter (· != 'b') }
  | _ => wrong "stray character in field spec"

/-- Whether a character is a blank. -/
def isKeyBlank (c : Char) : Bool := c == ' ' || c == '\t' || c == '\n'

/-- How many characters of a line the first fields have. Where a character separates the fields, it
counts with the field before it, but for the last one if that is told. -/
def fieldsLength (separator : Option Char) (withLast : Bool) : Nat → List Char → Nat
  | 0, _ => 0
  | _, [] => 0
  | n + 1, s =>
    match separator with
    | some c =>
      let length := (s.takeWhile (· != c)).length
      let rest := s.drop length
      if rest.isEmpty then length
      else if n == 0 && !withLast then length
      else length + 1 + fieldsLength separator withLast n (rest.drop 1)
    | none =>
      let blanks := s.takeWhile isKeyBlank
      let field := (s.drop blanks.length).takeWhile fun c => !isKeyBlank c
      let length := blanks.length + field.length
      length + fieldsLength separator withLast n (s.drop length)

/-- How many characters of a line are before a place. -/
def KeyPlace.position (separator : Option Char) (withLast : Bool) (place : KeyPlace)
    (line : List Char) : Nat :=
  let n := fieldsLength separator withLast place.fields line
  let blanks := if place.passesBlanks then ((line.drop n).takeWhile isKeyBlank).length else 0
  min line.length (n + blanks + place.offset)

/-- What a key is in a line. -/
def Key.part (separator : Option Char) (k : Key) (line : List Char) : List Char :=
  let first := k.first.position separator true line
  let last := match k.last with
    | none => line.length
    | some place =>
      let place := if place.offset == 0 then { place with passesBlanks := false } else place
      place.position separator (place.offset != 0) line
  (line.take last).drop first

/-! ## Orders -/

/-- The number at the front of a text: its digits as an integer, how many of them are decimal
places, and the text after it. -/
def leadingNumber (s : List Char) : Int × Nat × List Char :=
  let s := s.dropWhile isKeyBlank
  let (sign, s) : Int × List Char := match s with
    | '-' :: rest => (-1, rest)
    | _ => (1, s)
  let whole := s.takeWhile Char.isDigit
  let after := s.drop whole.length
  let fraction := if after.head? == some '.' then (after.drop 1).takeWhile Char.isDigit else []
  let rest := if after.head? == some '.' then after.drop (fraction.length + 1) else after
  (sign * Text.digitsValue (whole ++ fraction), fraction.length, rest)

/-- The order of numbers at the front of texts. -/
def compareNumbers (a b : List Char) : Ordering :=
  let (m, p, _) := leadingNumber a
  let (n, q, _) := leadingNumber b
  compare (m * Nat.pow 10 q) (n * Nat.pow 10 p)

/-- The rank of the unit after a number. -/
def unitRank (s : List Char) : Int :=
  let (m, _, rest) := leadingNumber s
  let rank : Nat := match rest with
    | c :: _ => if c == 'k' then 1 else (("KMGTPEZY".toList.idxOf? c).map (· + 1)).getD 0
    | [] => 0
  if m < 0 then -rank else rank

/-- The order of numbers with units. -/
def compareSizes (a b : List Char) : Ordering :=
  let sign (s : List Char) : Int := (leadingNumber s).1.sign
  (compare (sign a) (sign b)).then ((compare (unitRank a) (unitRank b)).then (compareNumbers a b))

/-- The names of months. -/
def monthNames : List (List Char) :=
  ["JAN", "FEB", "MAR", "APR", "MAY", "JUN", "JUL", "AUG", "SEP", "OCT", "NOV", "DEC"].map
    String.toList

/-- The number of the month at the front of a text; zero for none. -/
def monthNumber (s : List Char) : Nat :=
  let front := ((s.dropWhile isKeyBlank).take 3).map Char.toUpper
  ((monthNames.idxOf? front).map (· + 1)).getD 0

/-- The order of floating numbers. What is no number is first. -/
def compareFloats (a b : List Char) : Ordering :=
  let (x, fault) := Shell.floatOf (a.dropWhile isKeyBlank)
  let (y, other) := Shell.floatOf (b.dropWhile isKeyBlank)
  let isNumber (s : List Char) (f : Option Shell.NumberFault) : Bool :=
    !s.isEmpty && f != some .none
  match isNumber a fault, isNumber b other with
  | true, true => if x < y then .lt else if y < x then .gt else .eq
  | false, true => .lt
  | true, false => .gt
  | false, false => .eq

/-- The order of bytes. -/
def compareTexts (a b : List Char) : Ordering :=
  compare (String.ofList a) (String.ofList b)

/-- The rank of what a version name has outside its numbers. Its end is before a number and a tilde
before its end; letters are before other characters. -/
def versionRank : Option Char → Int
  | none => -1
  | some c =>
    if c == '~' then -2
    else if c.isDigit then 0
    else if c.isAlpha then c.toNat
    else c.toNat + 256

/-- The order of version names, where numbers are compared as such. Each step takes a character at
least. -/
def compareVersionParts : Nat → List Char → List Char → Ordering
  | 0, _, _ => .eq
  | steps + 1, a, b =>
    if a.isEmpty && b.isEmpty then .eq
    else if (a.take 1 ++ b.take 1).any (!·.isDigit) then
      (compare (versionRank a.head?) (versionRank b.head?)).then
        (compareVersionParts steps (a.drop 1) (b.drop 1))
    else
      let m := a.takeWhile Char.isDigit
      let n := b.takeWhile Char.isDigit
      (compare (Text.digitsValue m) (Text.digitsValue n)).then
        (compareVersionParts steps (a.drop m.length) (b.drop n.length))

/-- A version name without the endings of a file name, which are letters and digits after a
point. -/
def versionStem (s : List Char) : List Char :=
  let isEnding (part : List Char) : Bool :=
    part.head?.any (fun c => c.isAlpha || c == '~')
      && part.all fun c => c.isAlphanum || c == '~'
  let endings := ((s.splitOn '.').drop 1).reverse.takeWhile isEnding
  s.take (max 1 (endings.foldl (fun n part => n - (part.length + 1)) s.length))

/-- The order of version names. Nothing is first, then what begins with a point. Endings of file
names count where nothing else tells names apart. -/
def compareVersions (a b : List Char) : Ordering :=
  let place (s : List Char) : Nat :=
    if s.isEmpty then 0
    else if s == ['.'] then 1
    else if s == ['.', '.'] then 2
    else if s.head? == some '.' then 3
    else 4
  let steps := a.length + b.length
  (compare (place a) (place b)).then
    ((compareVersionParts steps (versionStem a) (versionStem b)).then
      (compareVersionParts steps a b))

/-- The order of parts of lines under letters. -/
def compareUnder (letters : List Char) (a b : List Char) : Ordering :=
  let has (c : Char) : Bool := letters.contains c
  let plain (s : List Char) : List Char :=
    let s := if has 'd' then s.filter fun c => isKeyBlank c || c.isAlphanum else s
    let s := if has 'i' then s.filter (Shell.isKind "print") else s
    if has 'f' then s.map Char.toUpper else s
  let order :=
    if has 'n' then compareNumbers a b
    else if has 'g' then compareFloats a b
    else if has 'h' then compareSizes a b
    else if has 'M' then compare (monthNumber a) (monthNumber b)
    else if has 'V' then compareVersions (plain a) (plain b)
    else compareTexts (plain a) (plain b)
  if has 'r' then order.swap else order

/-- How lines are ordered. -/
structure LineOrder where
  /-- The keys, the first of which counts most. -/
  keys : List Key
  /-- What separates fields. -/
  separator : Option Char
  /-- Whether lines without a difference in their keys stay as they are. -/
  keysOnly : Bool
  /-- Whether lines that the keys do not tell apart are ordered from behind. -/
  reversed : Bool

/-- The order of lines by their keys. -/
def LineOrder.byKeys (o : LineOrder) (a b : String) : Ordering :=
  o.keys.foldl (fun order k =>
    order.then (compareUnder k.letters (k.part o.separator a.toList) (k.part o.separator b.toList)))
    .eq

/-- The order of lines. -/
def LineOrder.compare (o : LineOrder) (a b : String) : Ordering :=
  let order := o.byKeys a b
  if o.keysOnly && !o.keys.isEmpty then order
  else order.then (if o.reversed then (Ord.compare a b).swap else Ord.compare a b)

/-! ## The program -/

/-- Whether letters ask for orders that exclude each other. -/
def areIncompatible (letters : List Char) : Bool :=
  let ways := ['n', 'g', 'h', 'M'].filter letters.contains
  let plain := ['V', 'R', 'd', 'i'].any letters.contains
  ways.length + (if plain then 1 else 0) > 1

/-- The letters of an order as an option shows them. -/
def shownLetters (letters : List Char) : String :=
  String.ofList (orderingLetters.filter fun c => c != 'b' && c != 'r' && letters.contains c)

/-- How options ask lines to be ordered, or what is wrong with them. -/
def lineOrder (p : Parsed) : Except String LineOrder := do
  let letters := orderingLetters.filter p.has
  let separator ← match p.value? 't' with
    | none => pure none
    | some "" => throw "empty tab"
    | some "\\0" => pure (some '\x00')
    | some s =>
      if s.length > 1 then throw ("multi-character tab " ++ quoted s)
      pure s.toList.head?
  let keys ← (p.options.filter (·.1 == 'k')).mapM fun (_, spec) => keyOf spec
  let isPlain (k : Key) : Bool :=
    k.letters.isEmpty && !k.first.passesBlanks && k.last.all (!·.passesBlanks)
  let passes := letters.contains 'b'
  let general (k : Key) : Key :=
    { first := { k.first with passesBlanks := passes }
      last := k.last.map fun place => { place with passesBlanks := passes }
      letters := letters.filter (· != 'b') }
  let keys := if keys.isEmpty && letters.any (· != 'r') then [general {}]
    else keys.map fun k => if isPlain k then general k else k
  for k in keys do
    if areIncompatible k.letters then
      throw ("options '-" ++ shownLetters k.letters ++ "' are incompatible")
  return ⟨keys, separator, p.has 's' || p.has 'u', letters.contains 'r'⟩

/-- The first line that is not in order, with its number. -/
def disorder? (inOrder : String → String → Bool) : Nat → List String → Option (Nat × String)
  | n, a :: b :: rest =>
    if inOrder a b then disorder? inOrder (n + 1) (b :: rest) else some (n + 1, b)
  | _, _ => none

/-- Lines without those that are the same as the line before. -/
def distinct (same : String → String → Bool) (texts : List String) : List String :=
  (texts.foldl (fun kept s => if kept.head?.any (same s) then kept else s :: kept) []).reverse

/-- Tells whether the lines of a file are in order. -/
def checkOrder (name : String) (p : Parsed) (order : LineOrder) : Run Nat := do
  match p.operands with
  | _ :: extra :: _ =>
    failWith 2 name ("extra operand " ++ quoted extra ++ " not allowed with -"
      ++ (if p.has 'C' then "C" else "c"))
  | _ =>
    let path := p.operands.headD "-"
    match ← contents path with
    | .error e => failWith 2 name ("cannot read: " ++ plainly path e)
    | .ok bytes =>
      let inOrder (a b : String) : Bool :=
        let o := order.compare a b
        o == .lt || (o == .eq && !p.has 'u')
      match disorder? inOrder 1 (lineTexts bytes (lineEnd p)) with
      | none => return 0
      | some (n, s) =>
        if !p.has 'C' then report name (path ++ ":" ++ toString n ++ ": disorder: " ++ s)
        return 1

/-- Sorts the lines of files. -/
def sort : Program := fun name words =>
  withOptions { flags := "bcCdfghiMmnRrsuVz", valued := "kotST", names := [("reverse", 'r'),
      ("unique", 'u'), ("numeric-sort", 'n'), ("key", 'k'), ("field-separator", 't'),
      ("output", 'o'), ("stable", 's'), ("check", 'c'), ("ignore-case", 'f'),
      ("ignore-leading-blanks", 'b'), ("dictionary-order", 'd'), ("human-numeric-sort", 'h'),
      ("general-numeric-sort", 'g'), ("month-sort", 'M'), ("version-sort", 'V'), ("merge", 'm'),
      ("zero-terminated", 'z')] } 2 name words fun p => do
    match lineOrder p with
    | .error message => failWith 2 name message
    | .ok order =>
      if p.has 'c' || p.has 'C' then return ← checkOrder name p order
      let ending := lineEnd p
      let mut found := #[]
      for path in pathsOf p do
        match ← contents path with
        | .ok bytes => found := found.push (lineTexts bytes ending)
        | .error .isADirectory =>
          return ← failWith 2 name ("read failed: " ++ path ++ ": Is a directory")
        | .error e => return ← failWith 2 name ("cannot read: " ++ plainly path e)
      let before (a b : String) : Bool := order.compare a b != .gt
      let sorted := if p.has 'm' then found.toList.foldl (List.merge · · before) []
        else found.toList.flatten.mergeSort before
      let same (a b : String) : Bool := order.compare a b == .eq
      let kept := if p.has 'u' then distinct same sorted else sorted
      let work : Run Unit := do
        for s in kept do sayLine s ending
      match p.value? 'o' with
      | none => work
      | some target =>
        if let .error e ← writingTo target work then
          return ← failWith 2 name ("open failed: " ++ plainly target e)
      return 0

end BuildingModel.Sandbox.Tool
