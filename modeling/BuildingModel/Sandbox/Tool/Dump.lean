import BuildingModel.Sandbox.Shell.Format
import BuildingModel.Sandbox.Tool.Copying

/-!
# Dumps

The program that shows bytes as numbers or by their names, in blocks, each with its address.
-/

namespace BuildingModel.Sandbox.Tool

open Shell (Run say)

/-- How bytes are shown. -/
inductive DumpKind where
  /-- By names. -/
  | named
  /-- As characters. -/
  | character
  /-- As integers with a sign. -/
  | integer
  /-- As numbers in a base. -/
  | natural (base : Nat)
deriving DecidableEq, Repr

/-- How the bytes of a block are shown in a row. -/
structure DumpStyle where
  /-- How they are shown. -/
  kind : DumpKind
  /-- How many bytes are one number. -/
  size : Nat
  /-- Whether the characters follow. -/
  hasTrailer : Bool := false
deriving DecidableEq, Repr

namespace DumpStyle

/-- How many characters a number takes at most. -/
def width (s : DumpStyle) : Nat :=
  match s.kind with
  | .named | .character => 3
  | .natural 8 => (s.size * 8 + 2) / 3
  | .natural 16 => s.size * 2
  | .natural _ => ([(1, 3), (2, 5), (4, 10)].lookup s.size).getD 20
  | .integer => ([(1, 4), (2, 6), (4, 11)].lookup s.size).getD 20

/-- The names of the bytes that are no characters. -/
def byteNames : List String :=
  ["nul", "soh", "stx", "etx", "eot", "enq", "ack", "bel", "bs", "ht", "nl", "vt", "ff", "cr", "so",
   "si", "dle", "dc1", "dc2", "dc3", "dc4", "nak", "syn", "etb", "can", "em", "sub", "esc", "fs",
   "gs", "rs", "us", "sp"]

/-- Bytes, the least significant first, as a number. -/
def valueOf (bytes : List UInt8) : Nat := bytes.foldr (fun b n => n * 256 + b.toNat) 0

/-- A number with digits of a base, as long as given. -/
def inBase (base length n : Nat) : String :=
  String.ofList (Shell.padNumber ['0'] length true [] (Nat.toDigits base n))

/-- The bytes of one number as they are shown. -/
def shown (s : DumpStyle) (bytes : List UInt8) : String :=
  let n := valueOf (bytes ++ List.replicate (s.size - bytes.length) 0)
  match s.kind with
  | .named =>
    let n := n % 128
    if n == 127 then "del" else (byteNames[n]?).getD (Char.ofNat n).toString
  | .character =>
    match ([(0, "\\0"), (7, "\\a"), (8, "\\b"), (12, "\\f"), (10, "\\n"), (13, "\\r"), (9, "\\t"),
        (11, "\\v")] : List (Nat × String)).lookup n with
    | some name => name
    | none => if 32 ≤ n && n < 127 then (Char.ofNat n).toString else inBase 8 3 n
  | .integer =>
    let count := Nat.pow 256 s.size
    toString (if 2 * n < count then (n : Int) else (n : Int) - count)
  | .natural 10 => toString n
  | .natural base => inBase base s.width n

/-- The bytes of a block in a row, whose numbers share out so many blanks. -/
def row (s : DumpStyle) (blockSize blanks : Nat) (block : List UInt8) : String :=
  let count := blockSize / s.size
  let left := (blockSize - block.length) / s.size
  let fields := (List.range (count - left)).map fun i =>
    let pad := blanks * (count - i) / count - blanks * (count - i - 1) / count
    String.ofList (Shell.pad [] (pad + s.width)
      (s.shown ((block.drop (i * s.size)).take s.size)).toList)
  let trailer :=
    if s.hasTrailer then
      let gap := List.replicate (left * s.width + blanks * left / count) ' '
      let text := block.map fun b =>
        if 32 ≤ b && b < 127 then Char.ofNat b.toNat else '.'
      String.ofList gap ++ "  >" ++ String.ofList text ++ "<"
    else ""
  String.join fields ++ trailer

end DumpStyle

/-- The styles of the letters that stand for one each. -/
def letterStyles : List (Char × DumpStyle) :=
  [('a', ⟨.named, 1, false⟩), ('b', ⟨.natural 8, 1, false⟩), ('c', ⟨.character, 1, false⟩),
   ('d', ⟨.natural 10, 2, false⟩), ('D', ⟨.natural 10, 4, false⟩), ('h', ⟨.natural 16, 2, false⟩),
   ('H', ⟨.natural 16, 4, false⟩), ('i', ⟨.integer, 4, false⟩), ('I', ⟨.integer, 8, false⟩),
   ('l', ⟨.integer, 8, false⟩), ('L', ⟨.integer, 8, false⟩), ('o', ⟨.natural 8, 2, false⟩),
   ('O', ⟨.natural 8, 4, false⟩), ('s', ⟨.integer, 2, false⟩), ('x', ⟨.natural 16, 2, false⟩),
   ('X', ⟨.natural 16, 4, false⟩)]

/-- The styles that a text asks for, or what is wrong with it. There is a step for each
character. -/
def stylesIn (whole : String) : Nat → List Char → Except String (List DumpStyle)
  | 0, _ | _, [] => .ok []
  | n + 1, c :: rest => do
    let kind? : Option DumpKind := [('a', .named), ('c', .character), ('d', .integer),
      ('o', .natural 8), ('u', .natural 10), ('x', .natural 16)].lookup c
    let some kind := kind?
      | throw ("invalid character '" ++ c.toString ++ "' in type string " ++ quoted whole)
    let isSized := kind != .named && kind != .character
    let digits := rest.takeWhile Char.isDigit
    let lettered := ([('C', 1), ('S', 2), ('I', 4), ('L', 8)] : List (Char × Nat)).lookup
      (rest.headD ' ')
    let (size, taken) :=
      if !isSized then (1, 0)
      else if !digits.isEmpty then (Text.digitsValue digits, digits.length)
      else match lettered with
        | some size => (size, 1)
        | none => (4, 0)
    if !([1, 2, 4, 8] : List Nat).contains size then
      throw ("invalid type string " ++ quoted whole ++ ";\nthis system doesn't provide a "
        ++ toString size ++ "-byte integral type")
    let rest := rest.drop taken
    let hasTrailer := rest.head? == some 'z'
    return { kind, size, hasTrailer : DumpStyle }
      :: (← stylesIn whole n (if hasTrailer then rest.drop 1 else rest))

/-- How bytes are dumped. -/
structure DumpRules where
  /-- The rows of a block. -/
  styles : List DumpStyle
  /-- How many bytes a block has. -/
  blockSize : Nat
  /-- The base of addresses with their length; none if they are not shown. -/
  addresses : Option (Nat × Nat)
  /-- Whether blocks that are the same as the one before are shown. -/
  showsAll : Bool

namespace DumpRules

/-- An address. -/
def address (o : DumpRules) (n : Nat) : String :=
  match o.addresses with
  | some (base, length) => DumpStyle.inBase base length n
  | none => ""

/-- The rows of a block. -/
def rows (o : DumpRules) (at_ : Nat) (block : List UInt8) : String :=
  let widest := (o.styles.map fun s => (s.width + 1) * (o.blockSize / s.size)).foldl max 0
  let front := match o.addresses with
    | some (_, length) => String.ofList (List.replicate length ' ')
    | none => ""
  String.join (o.styles.zipIdx.map fun (s, i) =>
    let blanks := widest - s.width * (o.blockSize / s.size)
    (if i == 0 then o.address at_ else front) ++ s.row o.blockSize blanks block ++ "\n")

/-- The dump of bytes from an address on, after a block, of which it is told whether the same ones
have been left out. There is a step for each block. -/
def dump (o : DumpRules) : Nat → Nat → Option (List UInt8) → Bool → List UInt8 → List String
  | 0, _, _, _, _ => []
  | n + 1, at_, last, leftOut, bytes =>
    if bytes.isEmpty then (if o.addresses.isSome then [o.address at_ ++ "\n"] else [])
    else
      let block := bytes.take o.blockSize
      let rest := bytes.drop o.blockSize
      let isSame := !o.showsAll && last == some block && block.length == o.blockSize
      let text := if !isSame then [o.rows at_ block] else if leftOut then [] else ["*\n"]
      text ++ o.dump n (at_ + block.length) (some block) isSame rest

end DumpRules

/-- The rules that options ask for, or what is wrong with them. -/
def dumpRules (p : Parsed) : Except String DumpRules := do
  let styles ← p.options.mapM fun (c, value) =>
    if c == 't' then stylesIn value value.length value.toList
    else .ok (letterStyles.lookup c).toList
  let styles := if styles.flatten.isEmpty then [⟨.natural 8, 2, false⟩] else styles.flatten
  let addresses ← match p.value? 'A' with
    | none => pure (some (8, 7))
    | some s => match s.toList.head? with
      | some 'o' => pure (some (8, 7))
      | some 'd' => pure (some (10, 7))
      | some 'x' => pure (some (16, 6))
      | some 'n' => pure none
      | _ => throw ("invalid output address radix '" ++ s
          ++ "'; it must be one character from [doxn]")
  let least := (styles.map (·.size)).foldl max 1
  let blockSize ← match p.value? 'w' with
    | none => pure 16
    | some "" => pure 32
    | some s => match count? s with
      | some n => pure (if n == 0 || n % least != 0 then least else n)
      | none => throw ("invalid -w argument " ++ quoted s)
  return { styles, blockSize, addresses, showsAll := p.has 'v' }

/-- A word whose option for the size of blocks is set apart, as its value is a part of the word. -/
def withBlockSize (word : String) : String :=
  if word.startsWith "-w" then "--width=" ++ (word.drop 2).toString
  else if word == "--width" then "--width=" else word

/-- Dumps bytes. -/
def od : Program := fun name words =>
  withOptions { flags := "abcdDhHiIlLoOsxXvw", valued := "AjNt", names := [("address-radix", 'A'),
      ("skip-bytes", 'j'), ("read-bytes", 'N'), ("format", 't'), ("output-duplicates", 'v'),
      ("width", 'w')] } 1 name (words.map withBlockSize) fun p => do
    match dumpRules p with
    | .error message => failWith 1 name message
    | .ok o =>
      let number (c : Char) : Option (Option Nat) := (p.value? c).map count?
      for c in ['j', 'N'] do
        if number c == some none then
          return ← failWith 1 name ("invalid -" ++ c.toString ++ " argument "
            ++ quoted ((p.value? c).getD ""))
      let mut found := []
      let mut opened := false
      let mut fine := true
      for path in pathsOf p do
        match ← contents path with
        | .ok bytes =>
          found := bytes :: found
          opened := true
        | .error e =>
          report name (plainly path e)
          fine := false
          if e == .isADirectory then opened := true
      if !opened then return 1
      let bytes := found.reverse.flatten
      let skipped := ((number 'j').bind id).getD 0
      if bytes.length < skipped then
        return ← failWith 1 name "cannot skip past end of combined input"
      let bytes := bytes.drop skipped
      let bytes := match (number 'N').bind id with
        | some n => bytes.take n
        | none => bytes
      say 1 (String.join (o.dump (bytes.length + 2) skipped none false bytes))
      return statusOf fine

end BuildingModel.Sandbox.Tool
