import BuildingModel.Sandbox.Shell.Format
import BuildingModel.Sandbox.Tool.Basic

/-!
# Programs on numbers

The programs that count and that wait.
-/

namespace BuildingModel.Sandbox.Tool

open Shell (Run say)

/-! ## Numbers -/

/-- A decimal number: an integer, and how many of its digits are decimal places. -/
structure DecimalNumber where
  /-- All its digits. -/
  digits : Int
  /-- How many of them are decimal places. -/
  places : Nat
deriving DecidableEq, Repr, Inhabited

/-- A number in hexadecimal digits. -/
def hexadecimal? (s : List Char) : Option Nat :=
  match s with
  | '0' :: x :: rest =>
    if (x == 'x' || x == 'X') && !rest.isEmpty && rest.all Shell.isHexadecimal then
      some (Shell.ofHexadecimal rest)
    else none
  | _ => none

/-- A decimal number in words. -/
def decimal? (s : String) : Option DecimalNumber :=
  let (sign, rest) := Shell.signed s.toList
  let whole := rest.takeWhile Char.isDigit
  let after := rest.drop whole.length
  let fraction := if after.head? == some '.' then (after.drop 1).takeWhile Char.isDigit else []
  let after := if after.head? == some '.' then after.drop (fraction.length + 1) else after
  let number (exponent : Int) : DecimalNumber :=
    let digits := sign * Text.digitsValue (whole ++ fraction)
    let places := (fraction.length : Int) - exponent
    if places < 0 then ⟨digits * Nat.pow 10 places.natAbs, 0⟩ else ⟨digits, places.toNat⟩
  match hexadecimal? rest with
  | some n => some ⟨sign * n, 0⟩
  | none =>
    if whole.isEmpty && fraction.isEmpty then none
    else
      match after with
      | [] => some (number 0)
      | e :: tail =>
        let (sign, digits) := Shell.signed tail
        if (e == 'e' || e == 'E') && !digits.isEmpty && digits.all Char.isDigit then
          some (number (sign * Text.digitsValue digits))
        else none

/-- The digits of a number with so many decimal places. -/
def decimalText (n : Int) (places : Nat) : String :=
  let s := Shell.fixedText n.natAbs (Nat.pow 10 places) places false
  String.ofList (if n < 0 then '-' :: s else s)

/-! ## Sequences -/

/-- Whether a word is a negative number rather than an option. -/
def isNegative (s : String) : Bool :=
  match s.toList with
  | '-' :: c :: _ => c == '.' || c.isDigit
  | _ => false

/-- A sequence of numbers, all with so many decimal places. -/
structure Steps where
  /-- The first one. -/
  first : Int
  /-- How far apart they are. -/
  step : Int
  /-- How many there are. -/
  count : Nat
  /-- How many of their digits are decimal places. -/
  scale : Nat
  /-- How many decimal places are shown. -/
  places : Nat

/-- The numbers from one to another. -/
def stepsOf (first step last : DecimalNumber) : Steps :=
  let places := max first.places step.places
  let scale := max places last.places
  let scaled (x : DecimalNumber) : Int := x.digits * Nat.pow 10 (scale - x.places)
  let (a, s, b) := (scaled first, scaled step, scaled last)
  let count := if s > 0 then Int.fdiv (b - a) s + 1 else Int.fdiv (a - b) (-s) + 1
  ⟨a, s, count.toNat, scale, places⟩

/-- The number with a place in a sequence. -/
def Steps.at (x : Steps) (k : Nat) : Int := x.first + k * x.step

/-- A format with a directive for a number: what is before it, the directive, and what is after
it. -/
structure NumberFormat where
  /-- What is before the number. -/
  front : List Char
  /-- The flags. -/
  flags : List Char
  /-- The least width. -/
  width : Nat
  /-- The precision. -/
  precision : Option Nat
  /-- The conversion. -/
  conversion : Char
  /-- What is after the number. -/
  back : List Char

/-- The text in front of the first directive of a format, with what follows its percent sign. There
is a step for each character. -/
def beforeDirective : Nat → List Char → List Char × Option (List Char)
  | 0, _ | _, [] => ([], none)
  | n + 1, '%' :: '%' :: s =>
    let (front, rest) := beforeDirective n s
    ('%' :: front, rest)
  | _, '%' :: s => ([], some s)
  | n + 1, c :: s =>
    let (front, rest) := beforeDirective n s
    (c :: front, rest)

/-- The format of a number in words, or what is wrong with it. -/
def numberFormat (s : String) : Except String NumberFormat := do
  let wrong {α : Type} (cause : String) : Except String α :=
    .error ("format " ++ quoted s ++ " " ++ cause)
  match beforeDirective s.length s.toList with
  | (_, none) => wrong "has no % directive"
  | (front, some rest) =>
    let flags := rest.takeWhile ("-+#0 '".contains ·)
    let width := (rest.drop flags.length).takeWhile Char.isDigit
    let rest := rest.drop (flags.length + width.length)
    let precision := if rest.head? == some '.' then
      some ((rest.drop 1).takeWhile Char.isDigit) else none
    let rest := match precision with
      | some digits => rest.drop (digits.length + 1)
      | none => rest
    let rest := if rest.head? == some 'L' then rest.drop 1 else rest
    match rest with
    | [] => wrong "ends in %"
    | c :: rest =>
      if !"efgEFG".contains c then wrong ("has unknown %" ++ c.toString ++ " directive")
      match beforeDirective rest.length rest with
      | (_, some _) => wrong "has too many % directives"
      | (back, none) =>
        return ⟨front, flags, Text.digitsValue width, precision.map Text.digitsValue, c, back⟩

/-- A number in a format. -/
def NumberFormat.text (f : NumberFormat) (n : Int) (scale : Nat) : String :=
  String.ofList (f.front
    ++ Shell.ratioText f.flags f.width f.precision f.conversion (n < 0) n.natAbs (Nat.pow 10 scale)
    ++ f.back)

/-- The numbers of a sequence in words, all as wide as the widest end if that is asked for. -/
def Steps.texts (x : Steps) (format : Option NumberFormat) (wide : Bool) : List String :=
  let text (k : Nat) : String := match format with
    | some f => f.text (x.at k) x.scale
    | none => decimalText (x.at k / Nat.pow 10 (x.scale - x.places)) x.places
  let width := if wide then max (text 0).length (text (x.count - 1)).length else 0
  let padded (s : String) : String :=
    let sign := if s.startsWith "-" then ['-'] else []
    String.ofList (Shell.padNumber ['0'] width true sign (s.toList.drop sign.length))
  (List.range x.count).map fun k => padded (text k)

/-- Writes the numbers from one to another. -/
def seq : Program := fun name words =>
  withOptions { flags := "w", valued := "fs", early := true, takes := isNegative, names := [
      ("separator", 's'), ("format", 'f'), ("equal-width", 'w')] } 1 name words fun p => do
    if p.operands.isEmpty then return ← misuse 1 name "missing operand"
    if let some extra := (p.operands.drop 3).head? then
      return ← misuse 1 name ("extra operand " ++ quoted extra)
    match (p.value? 'f').mapM numberFormat with
    | .error message => failWith 1 name message
    | .ok format =>
      if format.isSome && p.has 'w' then
        return ← misuse 1 name
          "format string may not be specified when printing equal width strings"
      if let some wrong := p.operands.find? fun s => (decimal? s).isNone then
        return ← misuse 1 name ("invalid floating point argument: " ++ quoted wrong)
      let one : DecimalNumber := ⟨1, 0⟩
      let (first, step, last) := match p.operands.filterMap decimal? with
        | [b] => (one, one, b)
        | [a, b] => (a, one, b)
        | a :: s :: b :: _ => (a, s, b)
        | [] => (one, one, one)
      if step.digits == 0 then
        return ← misuse 1 name ("invalid Zero increment value: " ++ quoted (p.operands.getD 1 ""))
      let x := stepsOf first step last
      let separator := (p.value? 's').getD "\n"
      if x.count != 0 then
        say 1 (separator.intercalate (x.texts format (p.has 'w')) ++ "\n")
      return 0

/-- How often a block is written where there is no end. -/
def endlessBlocks : Nat := 65536

/-- How often a block is written where nothing is done with it before the end. -/
def drainedBlocks : Nat := 64

/-- How many bytes a block has at least. -/
def yesSize : Nat := 8192

/-- Writes a block again and again. -/
def writeAgain (name : String) (block : List UInt8) : Nat → Run Nat
  | 0 => return 1
  | n + 1 => do
    if n + drainedBlocks < endlessBlocks then
      match ← Shell.channel 1 with
      | .inlet pipe => if (← get).drained.contains pipe then return 1
      | .sink _ => return 1
      | _ => Shell.pause []
    if !(← Shell.write 1 block) then return ← failWith 1 name "standard output: Broken pipe"
    writeAgain name block n

/-- Writes a line again and again. -/
def yes : Program := fun name words =>
  withOptions {} 1 name words fun p => do
    let line := (if p.operands.isEmpty then "y" else " ".intercalate p.operands) ++ "\n"
    let count := max 1 (yesSize / line.length)
    let block := bytesOf (String.join (List.replicate count line))
    writeAgain name block endlessBlocks

/-! ## Waiting -/

/-- The letters of units of time, with their seconds. -/
def timeUnits : List (Char × Float) := [('s', 1), ('m', 60), ('h', 3600), ('d', 86400)]

/-- The seconds that a text tells, which may have a unit. -/
def seconds? (s : String) : Option Float :=
  let unit? := s.toList.getLast?.bind fun c => timeUnits.lookup c
  let number := if unit?.isSome then (s.dropEnd 1).toString else s
  if ["inf", "infinity"].contains number.toLower then some (1 / 0)
  else if (decimal? number).any (0 ≤ ·.digits) then
    some ((Shell.floatOf number.toList).1 * unit?.getD 1)
  else none

/-- Seconds in millionths. -/
def ticks (seconds : Float) : Nat := (seconds * 1000000).toUInt64.toNat

/-- Waits for some time. -/
def sleep : Program := fun name words =>
  withOptions {} 1 name words fun p => do
    if p.operands.isEmpty then return ← misuse 1 name "missing operand"
    let wrong := p.operands.filter fun s => (seconds? s).isNone
    if wrong.isEmpty then
      Shell.rest (ticks ((p.operands.filterMap seconds?).foldl (· + ·) 0))
      return 0
    for s in wrong.dropLast do report name ("invalid time interval " ++ quoted s)
    misuse 1 name ("invalid time interval " ++ quoted (wrong.getLastD ""))

end BuildingModel.Sandbox.Tool
