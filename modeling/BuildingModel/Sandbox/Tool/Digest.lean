import BuildingModel.Sandbox.Shell.Format
import BuildingModel.Sandbox.Tool.Basic

/-!
# Digests

The programs that tell short texts by which contents can be known again, and those that write bytes
in 64 letters. A digest works on blocks of 64 bytes, to which contents are filled up with their
length at the end.
-/

namespace BuildingModel.Sandbox.Tool

open Shell (Run)

/-! ## Words of 32 bits -/

/-- The four bytes of a word, the highest first. -/
def highFirst (w : UInt32) : List UInt8 :=
  [(w >>> 24).toUInt8, (w >>> 16).toUInt8, (w >>> 8).toUInt8, w.toUInt8]

/-- The word of four bytes, the highest first. -/
def ofHighFirst (bytes : List UInt8) : UInt32 :=
  bytes.foldl (fun w b => (w <<< 8) ||| b.toUInt32) 0

/-- A word turned to the left. -/
def turnLeft (w : UInt32) (n : UInt32) : UInt32 := (w <<< n) ||| (w >>> (32 - n))

/-- A word turned to the right. -/
def turnRight (w : UInt32) (n : UInt32) : UInt32 := turnLeft w (32 - n)

/-- The pieces of a list, of so many elements each. -/
def piecesOf {α : Type} (size : Nat) (xs : List α) : List (List α) :=
  let (done, last) := xs.foldl
    (fun ((done, piece) : List (List α) × List α) x =>
      if piece.length + 1 < size then (done, x :: piece) else ((x :: piece).reverse :: done, []))
    ([], [])
  (if last.isEmpty then done else last.reverse :: done).reverse

/-- Contents filled up to blocks: a bit that is set, zeros, and the number of bits in eight bytes,
the highest byte first or last. -/
def filled (isHighFirst : Bool) (bytes : List UInt8) : List (List UInt8) :=
  let bits := UInt64.ofNat (8 * bytes.length)
  let length := highFirst (bits >>> 32).toUInt32 ++ highFirst bits.toUInt32
  let zeros := (119 - bytes.length % 64) % 64
  piecesOf 64 (bytes ++ 0x80 :: List.replicate zeros 0
    ++ (if isHighFirst then length else length.reverse))

/-- Hexadecimal digits of bytes. -/
def hexadecimalText (bytes : List UInt8) : String :=
  String.ofList (bytes.flatMap fun b =>
    [Nat.digitChar (b.toNat / 16), Nat.digitChar (b.toNat % 16)])

/-! ## Digests of 128 bits -/

/-- How far each step turns a word, for each of the four rounds. -/
def fiveTurns : List (List UInt32) :=
  [[7, 12, 17, 22], [5, 9, 14, 20], [4, 11, 16, 23], [6, 10, 15, 21]]

/-- The word that is added in a step: the fraction of the sine of its number. -/
def sineWord (i : Nat) : UInt32 :=
  (Float.floor (4294967296 * (Float.sin (Float.ofNat (i + 1))).abs)).toUInt64.toUInt32

/-- One step on four words, given the words of a block. -/
def fiveStep (block : Array UInt32) (state : UInt32 × UInt32 × UInt32 × UInt32) (i : Nat) :
    UInt32 × UInt32 × UInt32 × UInt32 :=
  let (a, b, c, d) := state
  let (f, g) : UInt32 × Nat := match i / 16 with
    | 0 => ((b &&& c) ||| (~~~b &&& d), i)
    | 1 => ((d &&& b) ||| (~~~d &&& c), 5 * i + 1)
    | 2 => (b ^^^ c ^^^ d, 3 * i + 5)
    | _ => (c ^^^ (b ||| ~~~d), 7 * i)
  let turn := (((fiveTurns[i / 16]?).getD [])[i % 4]?).getD 0
  let sum := a + f + sineWord i + (block[g % 16]?).getD 0
  (d, b + turnLeft sum turn, b, c)

/-- The digest of 128 bits. -/
def digest5 (bytes : List UInt8) : List UInt8 :=
  let start : UInt32 × UInt32 × UInt32 × UInt32 :=
    (0x67452301, 0xefcdab89, 0x98badcfe, 0x10325476)
  let (a, b, c, d) := (filled false bytes).foldl (fun (a, b, c, d) block =>
      let words := ((piecesOf 4 block).map fun w => ofHighFirst w.reverse).toArray
      let (e, f, g, h) := (List.range 64).foldl (fiveStep words) (a, b, c, d)
      (a + e, b + f, c + g, d + h)) start
  [a, b, c, d].flatMap fun w => (highFirst w).reverse

/-! ## Digests of 160 bits -/

/-- One step on five words, given a word that is added. -/
def oneStep (state : List UInt32) (i : Nat) (word : UInt32) : List UInt32 :=
  match state with
  | [a, b, c, d, e] =>
    let (f, k) : UInt32 × UInt32 := match i / 20 with
      | 0 => ((b &&& c) ||| (~~~b &&& d), 0x5a827999)
      | 1 => (b ^^^ c ^^^ d, 0x6ed9eba1)
      | 2 => ((b &&& c) ||| (b &&& d) ||| (c &&& d), 0x8f1bbcdc)
      | _ => (b ^^^ c ^^^ d, 0xca62c1d6)
    [turnLeft a 5 + f + e + k + word, a, turnLeft b 30, c, d]
  | other => other

/-- The words of a block with those that follow from them, the last first. -/
def extended (count : Nat) (next : List UInt32 → UInt32) (block : List UInt8) : List UInt32 :=
  let words := ((piecesOf 4 block).map ofHighFirst).reverse
  (List.range (count - 16)).foldl (fun words _ => next words :: words) words

/-- A word that came so many words before the next one. -/
def before (words : List UInt32) (n : Nat) : UInt32 := (words[n - 1]?).getD 0

/-- The digest of 160 bits. -/
def digest1 (bytes : List UInt8) : List UInt8 :=
  let next (ws : List UInt32) : UInt32 :=
    turnLeft (before ws 3 ^^^ before ws 8 ^^^ before ws 14 ^^^ before ws 16) 1
  let state := (filled true bytes).foldl (fun state block =>
      let words := (extended 80 next block).reverse
      let after := ((List.range 80).zip words).foldl (fun s (i, w) => oneStep s i w) state
      (state.zip after).map fun (a, b) => a + b)
    [0x67452301, 0xefcdab89, 0x98badcfe, 0x10325476, 0xc3d2e1f0]
  state.flatMap highFirst

/-! ## Digests of 256 bits -/

/-- The first primes, so many at most below a number. -/
def primes (limit : Nat) : List Nat :=
  (List.range limit).filter fun n =>
    2 ≤ n && (List.range n).all fun d => d < 2 || n % d != 0

/-- The largest number whose power is no more than a number. There is a step for each of its
bits. -/
def root (power n : Nat) : Nat → Nat → Nat
  | 0, found => found
  | bit + 1, found =>
    let more := found + Nat.pow 2 bit
    root power n bit (if Nat.pow more power ≤ n then more else found)

/-- The first 32 bits of the fraction of a root. -/
def rootWord (power n : Nat) : UInt32 :=
  UInt32.ofNat (root power (n * Nat.pow 2 (32 * power)) 40 0 % 4294967296)

/-- The words that are added in the steps: the fractions of the cube roots of primes. -/
def cubeWords : List UInt32 := ((primes 312).take 64).map (rootWord 3)

/-- One step on eight words, given two words that are added. -/
def twoStep (state : List UInt32) (k word : UInt32) : List UInt32 :=
  match state with
  | [a, b, c, d, e, f, g, h] =>
    let s := turnRight e 6 ^^^ turnRight e 11 ^^^ turnRight e 25
    let first := h + s + ((e &&& f) ^^^ (~~~e &&& g)) + k + word
    let t := turnRight a 2 ^^^ turnRight a 13 ^^^ turnRight a 22
    let second := t + ((a &&& b) ^^^ (a &&& c) ^^^ (b &&& c))
    [first + second, a, b, c, d + first, e, f, g]
  | other => other

/-- The digest of 256 bits. -/
def digest256 (bytes : List UInt8) : List UInt8 :=
  let next (ws : List UInt32) : UInt32 :=
    let u := before ws 15
    let v := before ws 2
    before ws 16 + (turnRight u 7 ^^^ turnRight u 18 ^^^ (u >>> 3)) + before ws 7
      + (turnRight v 17 ^^^ turnRight v 19 ^^^ (v >>> 10))
  let added := cubeWords
  let start := ((primes 20).take 8).map (rootWord 2)
  let state := (filled true bytes).foldl (fun state block =>
      let words := (extended 64 next block).reverse
      let after := (added.zip words).foldl (fun s (k, w) => twoStep s k w) state
      (state.zip after).map fun (a, b) => a + b) start
  state.flatMap highFirst

/-! ## The programs that tell digests -/

/-- A line that tells a digest and its file, if it is one. -/
def digestLine? (s : String) : Option (String × String) :=
  let digits := s.toList.takeWhile Shell.isHexadecimal
  let rest := s.toList.drop digits.length
  match rest with
  | ' ' :: c :: name =>
    if digits.isEmpty || name.isEmpty || !(c == ' ' || c == '*') then none
    else some (String.ofList digits, String.ofList name)
  | _ => none

/-- Tells whether files have the digests that lines tell; whether all do. -/
def checkDigests (digest : List UInt8 → List UInt8) (name : String) (p : Parsed) (path : String) :
    Run Bool := do
  match ← contents path with
  | .error e =>
    report name (plainly path e)
    return false
  | .ok bytes =>
    let found := (lineTexts bytes).filterMap digestLine?
    if found.isEmpty then
      report name (path ++ ": no properly formatted checksum lines found")
      return false
    let mut wrong := 0
    let mut unread := 0
    for (digits, file) in found do
      match ← contents file with
      | .error e =>
        report name (plainly file e)
        sayLine (file ++ ": FAILED open or read")
        unread := unread + 1
      | .ok bytes =>
        if hexadecimalText (digest bytes) == digits.map Char.toLower then
          if !p.has 'q' && !p.has '#' then sayLine (file ++ ": OK")
        else
          if !p.has '#' then sayLine (file ++ ": FAILED")
          wrong := wrong + 1
    let told (n : Nat) (one several : String) : Run Unit := do
      if n != 0 && !p.has '#' then
        report name ("WARNING: " ++ toString n ++ (if n == 1 then one else several))
    told unread " listed file could not be read" " listed files could not be read"
    told wrong " computed checksum did NOT match" " computed checksums did NOT match"
    return wrong + unread == 0

/-- Tells the digests of files. -/
def digestProgram (title : String) (digest : List UInt8 → List UInt8) : Program :=
  fun name words =>
    withOptions { flags := "bctwzq#~", names := [("binary", 'b'), ("check", 'c'), ("text", 't'),
        ("zero", 'z'), ("quiet", 'q'), ("status", '#'), ("tag", '~'), ("warn", 'w')] } 1 name words
        fun p => do
      onEach (pathsOf p) fun path => do
        if p.has 'c' then return ← checkDigests digest name p path
        match ← contents path with
        | .error e =>
          report name (plainly path e)
          return false
        | .ok bytes =>
          let digits := hexadecimalText (digest bytes)
          sayLine (if p.has '~' then title ++ " (" ++ path ++ ") = " ++ digits
            else digits ++ (if p.has 'b' then " *" else "  ") ++ path) (lineEnd p)
          return true

/-- The remainder of bits after division by the polynomial of 32 bits, with one more byte. -/
def withByte (crc : UInt32) (b : UInt8) : UInt32 :=
  (List.range 8).foldl
    (fun (crc : UInt32) _ => if crc >>> 31 == 1 then (crc <<< 1) ^^^ 0x04c11db7 else crc <<< 1)
    (crc ^^^ (b.toUInt32 <<< 24))

/-- The bytes of a number, the lowest first, without zeros at the end. -/
def lowFirst : Nat → Nat → List UInt8
  | 0, _ => []
  | steps + 1, n => if n == 0 then [] else n.toUInt8 :: lowFirst steps (n / 256)

/-- Tells the remainders and the lengths of files. -/
def cksum : Program := fun name words =>
  withOptions {} 1 name words fun p => do
    onEach (pathsOf p) fun path => do
      match ← contents path with
      | .error e =>
        report name (plainly path e)
        return false
      | .ok bytes =>
        let crc := (bytes ++ lowFirst 8 bytes.length).foldl withByte 0
        sayLine (toString (~~~crc).toNat ++ " " ++ toString bytes.length
          ++ (if p.operands.isEmpty then "" else " " ++ path))
        return true

/-! ## 64 letters -/

/-- The letters, each for six bits. -/
def sixBitLetters : List Char :=
  "ABCDEFGHIJKLMNOPQRSTUVWXYZabcdefghijklmnopqrstuvwxyz0123456789+/".toList

/-- Three bytes or less in letters. -/
def letters64 (bytes : List UInt8) : List Char :=
  let filled := bytes ++ List.replicate (3 - bytes.length) 0
  let n := filled.foldl (fun n (b : UInt8) => n * 256 + b.toNat) 0
  let all := [n / 262144, n / 4096 % 64, n / 64 % 64, n % 64].map fun i =>
    (sixBitLetters[i]?).getD '='
  all.take (bytes.length + 1) ++ List.replicate (3 - bytes.length) '='

/-- The bytes of four letters, with signs at the end that stand for none. -/
def bytes64? (letters : List Char) : Option (List UInt8) := do
  let shown := letters.takeWhile (· != '=')
  let isRight := letters.length == 4 && 2 ≤ shown.length
    && (letters.drop shown.length).all (· == '=')
  if !isRight then none
  let values ← shown.mapM fun c => sixBitLetters.idxOf? c
  let n := (values ++ List.replicate (4 - values.length) 0).foldl (fun n v => n * 64 + v) 0
  return ([n / 65536, n / 256 % 256, n % 256].map Nat.toUInt8).take (shown.length - 1)

/-- The bytes of letters up to what makes no sense, and whether there is something like that. -/
def decoded64 (letters : List Char) : List UInt8 × Bool :=
  let (found, fine) := (piecesOf 4 letters).foldl
    (fun ((found, fine) : List (List UInt8) × Bool) piece =>
      if !fine then (found, false)
      else match bytes64? piece with
        | some bytes => (bytes :: found, true)
        | none =>
          let front := piece.takeWhile sixBitLetters.contains
          let whole := front ++ List.replicate (4 - front.length) '='
          (((bytes64? whole).getD []) :: found, false)) ([], true)
  (found.reverse.flatten, !fine)

/-- Writes bytes in 64 letters, or the bytes of such letters. -/
def base64 : Program := fun name words =>
  withOptions { flags := "di", valued := "w", names := [("decode", 'd'), ("ignore-garbage", 'i'),
      ("wrap", 'w')] } 1 name words fun p => do
    if let some extra := (p.operands.drop 1).head? then
      return ← misuse 1 name ("extra operand " ++ quoted extra)
    let width := ((p.value? 'w').map String.toNat?).getD (some 76)
    let some width := width
      | failWith 1 name ("invalid wrap size: " ++ quoted ((p.value? 'w').getD ""))
    let path := p.operands.headD "-"
    match ← contents path with
    | .error .isADirectory => failWith 1 name "read error: Is a directory"
    | .error e => failWith 1 name (plainly path e)
    | .ok bytes =>
      if p.has 'd' then
        let letters := (octetsOf bytes).toList.filter fun c =>
          if p.has 'i' then sixBitLetters.contains c || c == '=' else c != '\n'
        let (found, isWrong) := decoded64 letters
        emit found
        if isWrong then return ← failWith 1 name "invalid input"
      else
        let letters := (piecesOf 3 bytes).flatMap letters64
        let rows := if width == 0 then [letters] else piecesOf width letters
        for row in rows do
          Shell.say 1 (String.ofList row ++ (if width == 0 then "" else "\n"))
      return 0

end BuildingModel.Sandbox.Tool
