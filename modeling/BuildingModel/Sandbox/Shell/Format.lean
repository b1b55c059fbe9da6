import BuildingModel.Decimal.Binary
import BuildingModel.Sandbox.Shell.Sum

/-!
# Formats

A format is a text with escapes and directives. It is used again as long as there are arguments for
its directives. `Format.write` gives what is written, and what is wrong with the arguments.
-/

namespace BuildingModel.Sandbox.Shell

/-! ## Escapes -/

/-- The characters after a backslash that stand for others, and these. -/
def namedEscapes : List (Char × Char) :=
  [('a', '\x07'), ('b', '\x08'), ('e', '\x1b'), ('f', '\x0c'), ('n', '\n'), ('r', '\r'),
   ('t', '\t'), ('v', '\x0b'), ('\\', '\\')]

/-- Whether a character is an octal digit. -/
def isOctal (c : Char) : Bool := '0' ≤ c && c ≤ '7'

/-- The character of octal digits. -/
def ofOctal (ds : List Char) : Char :=
  Char.ofNat (ds.foldl (fun n d => n * 8 + Text.digitValue d) 0 % 256)

/-- What escapes are known besides the named ones. -/
structure EscapeRules where
  /-- A zero may stand before octal digits. -/
  zero : Bool := false
  /-- Octal digits stand for a character without a zero, too. -/
  octal : Bool := true
  /-- Hexadecimal digits stand for a character after an x. -/
  hexadecimal : Bool := false
  /-- Hexadecimal digits stand for a character after a u. -/
  unicode : Bool := false
  /-- Which characters stand for themselves. -/
  quotes : String := ""

/-- The value of a hexadecimal digit. -/
def hexadecimalValue (c : Char) : Nat :=
  if c.isDigit then c.toNat - '0'.toNat else c.toLower.toNat - 'a'.toNat + 10

/-- The value of hexadecimal digits. -/
def ofHexadecimal (ds : List Char) : Nat := ds.foldl (fun n d => n * 16 + hexadecimalValue d) 0

/-- Whether a character is a hexadecimal digit. -/
def isHexadecimal (c : Char) : Bool := c.isDigit || ('a' ≤ c.toLower && c.toLower ≤ 'f')

/-- A character by its number. One beyond the simple ones is shown by the number. -/
def numberedChar (n : Nat) : List Char :=
  if n < 128 then [Char.ofNat n]
  else
    let digits := (Nat.toDigits 16 n).map Char.toUpper
    let (mark, width) := if n < 65536 then ('u', 4) else ('U', 8)
    '\\' :: mark :: List.replicate (width - digits.length) '0' ++ digits

/-- What the text after a backslash stands for, and how many characters do. -/
def escape (rules : EscapeRules) (s : List Char) : List Char × Nat :=
  match s with
  | [] => (['\\'], 0)
  | c :: rest =>
    let digits (limit : Nat) : List Char := (rest.takeWhile isHexadecimal).take limit
    let octal := (s.takeWhile isOctal).take 3
    match namedEscapes.lookup c with
    | some d => ([d], 1)
    | none =>
      if rules.zero && c == '0' then
        let octal := (rest.takeWhile isOctal).take 3
        ([ofOctal octal], octal.length + 1)
      else if rules.octal && !octal.isEmpty then ([ofOctal octal], octal.length)
      else if rules.hexadecimal && c == 'x' && !(digits 2).isEmpty then
        ([Char.ofNat (ofHexadecimal (digits 2))], (digits 2).length + 1)
      else if rules.unicode && c == 'u' && !(digits 4).isEmpty then
        (numberedChar (ofHexadecimal (digits 4)), (digits 4).length + 1)
      else if rules.unicode && c == 'U' && !(digits 8).isEmpty then
        (numberedChar (ofHexadecimal (digits 8)), (digits 8).length + 1)
      else if rules.quotes.contains c then ([c], 1)
      else (['\\', c], 1)

/-- A text whose escapes are carried out, and whether one ends all that is written. There is a step
for each character. -/
def unescape (rules : EscapeRules) : Nat → List Char → List Char × Bool
  | 0, s => (s, false)
  | _, [] => ([], false)
  | n + 1, '\\' :: s =>
    if s.head? == some 'c' then ([], true)
    else
      let (front, length) := escape rules s
      let (rest, ended) := unescape rules n (s.drop length)
      (front ++ rest, ended)
  | n + 1, c :: s =>
    let run := c :: s.takeWhile (· != '\\')
    let (rest, ended) := unescape rules n (s.drop (run.length - 1))
    (run ++ rest, ended)

/-! ## Rules -/

/-- How a format is read, which not all programs do alike. -/
structure FormatRules where
  /-- The escapes of the format itself. -/
  own : EscapeRules := {}
  /-- The escapes of arguments. -/
  argument : EscapeRules := { zero := true }
  /-- Whether an escape ends all that is written. -/
  stops : Bool := false
  /-- The letters that may stand before a conversion and mean nothing. -/
  modifiers : String := ""
  /-- How an argument is quoted, if there is a conversion for that. -/
  quote : Option (List Char → List Char) := none

/-- Characters that do not show, as escapes of a shell. -/
def controlEscape (c : Char) : List Char :=
  match (namedEscapes.filter (·.2 != '\\')).find? (·.2 == c) with
  | some (name, _) => ['\\', if name == 'e' then 'E' else name]
  | none =>
    let digits := Nat.toDigits 8 c.toNat
    '\\' :: List.replicate (3 - digits.length) '0' ++ digits

/-- Whether a character does not show. -/
def isControl (c : Char) : Bool := c < ' ' || '~' < c

/-- A text in the quotes of a shell in which escapes are carried out, or with backslashes where it
has only characters that show. -/
def backslashed (s : List Char) : List Char :=
  if s.isEmpty then ['\'', '\'']
  else if s.any isControl then
    "$'".toList ++ (s.map fun c =>
      if isControl c then controlEscape c
      else if c == '\'' || c == '\\' then ['\\', c] else [c]).flatten ++ ['\'']
  else
    let special (c : Char) : Bool := " '\"\\|&;()<>!\x7b\x7d*[]?^$\x60,".contains c
    let front := if s.head?.any fun c => c == '~' || c == '#' then ['\\'] else []
    front ++ (s.map fun c => if special c then ['\\', c] else [c]).flatten

/-- A text between the quotes of a shell, if it needs them. -/
def betweenQuotes (s : List Char) : List Char :=
  let special (c : Char) : Bool := " !\"$&()*;<=>[^\x60|?\\'".contains c
  let isSafe := !s.isEmpty && !s.any special && !s.any isControl
    && !s.head?.any (fun c => c == '~' || c == '#') && s != ['\x7b'] && s != ['\x7d']
  if isSafe then s
  else if s.contains '\'' && !s.any (fun c => "\"$\x60\\!".contains c) && !s.any isControl then
    '"' :: s ++ ['"']
  else
    let inner := (s.map fun c =>
      if c == '\'' then "'\\''".toList
      else if isControl c then "'$'".toList ++ controlEscape c ++ "''".toList
      else [c]).flatten
    '\'' :: inner ++ ['\'']

/-! ## Pieces -/

/-- A number in a directive, which may be taken from the arguments. -/
inductive Size where
  /-- There is none. -/
  | none
  /-- The number itself. -/
  | some (n : Nat)
  /-- The next argument. -/
  | argument
deriving DecidableEq, Repr

/-- A piece of a format. -/
inductive FormatPiece where
  /-- A text. -/
  | text (s : List Char)
  /-- The end of all that is written. -/
  | stop
  /-- A directive: its flags, the least width, the precision and the conversion. -/
  | directive (flags : List Char) (width precision : Size) (conversion : Char)
  /-- A directive that makes no sense. It may lack its conversion. -/
  | invalid (s : List Char) (lacking : Bool)
deriving DecidableEq, Repr

/-- A size in front of a text, and how many characters it has. -/
def size (s : List Char) : Size × Nat :=
  if s.head? == Option.some '*' then (.argument, 1)
  else
    let ds := s.takeWhile Char.isDigit
    if ds.isEmpty then (.none, 0) else (.some (Text.digitsValue ds), ds.length)

/-- The directive after a percent sign, and how many characters it has. -/
def directive (rules : FormatRules) (s : List Char) : FormatPiece × Nat :=
  let flags := s.takeWhile fun c =>
    "#-+ 0".contains c || (!rules.modifiers.isEmpty && "'I".contains c)
  let (width, widthLength) := size (s.drop flags.length)
  let rest := s.drop (flags.length + widthLength)
  let (precision, precisionLength) : Size × Nat :=
    if rest.head? == Option.some '.' then
      match size (rest.drop 1) with
      | (.none, _) => (.some 0, 1)
      | (p, n) => (p, n + 1)
    else (.none, 0)
  let length := flags.length + widthLength + precisionLength
  let length := length + ((s.drop length).takeWhile (rules.modifiers.contains ·)).length
  match s.drop length with
  | c :: _ =>
    if "diouxXcsbfFeEgG".contains c || (c == 'q' && rules.quote.isSome) then
      (.directive flags width precision c, length + 1)
    else (.invalid (s.take (length + 1)) false, length + 1)
  | [] => (.invalid s true, length)

/-- The pieces of a format. There is a step for each character. -/
def formatPieces (rules : FormatRules) : Nat → List Char → List FormatPiece
  | 0, _ | _, [] => []
  | n + 1, '%' :: '%' :: s => .text ['%'] :: formatPieces rules n s
  | n + 1, '%' :: s =>
    let (piece, length) := directive rules s
    piece :: formatPieces rules n (s.drop length)
  | n + 1, '\\' :: s =>
    if rules.stops && s.head? == some 'c' then [.stop]
    else
      let (front, length) := escape rules.own s
      .text front :: formatPieces rules n (s.drop length)
  | n + 1, c :: s =>
    let run := c :: s.takeWhile fun c => c != '\\' && c != '%'
    .text run :: formatPieces rules n (s.drop (run.length - 1))

/-! ## Conversions -/

/-- A text between blanks that make it as wide as asked for. -/
def pad (flags : List Char) (width : Nat) (s : List Char) : List Char :=
  let blanks := List.replicate (width - s.length) ' '
  if flags.contains '-' then s ++ blanks else blanks ++ s

/-- A number with a sign or a base in front, as wide as asked for. -/
def padNumber (flags : List Char) (width : Nat) (zeros : Bool) (front s : List Char) : List Char :=
  if zeros && flags.contains '0' && !flags.contains '-' then
    front ++ List.replicate (width - front.length - s.length) '0' ++ s
  else pad flags width (front ++ s)

/-- The sign of a number. -/
def signOf (flags : List Char) (negative : Bool) : List Char :=
  if negative then ['-'] else if flags.contains '+' then ['+']
  else if flags.contains ' ' then [' '] else []

/-- An integer under a conversion. -/
def integerText (flags : List Char) (width : Nat) (precision : Option Nat) (conversion : Char)
    (n : Int) : List Char :=
  let signed := conversion == 'd' || conversion == 'i'
  let magnitude := if signed then n.natAbs else (n % integerCount).toNat
  let digits := match conversion with
    | 'o' => Nat.toDigits 8 magnitude
    | 'x' => Nat.toDigits 16 magnitude
    | 'X' => (Nat.toDigits 16 magnitude).map Char.toUpper
    | _ => Nat.toDigits 10 magnitude
  let digits := if precision == some 0 && magnitude == 0 then [] else digits
  let digits := List.replicate (precision.getD 0 - digits.length) '0' ++ digits
  let front :=
    if signed then signOf flags (n < 0)
    else if flags.contains '#' && magnitude != 0 then
      match conversion with
      | 'o' => ['0']
      | 'x' => ['0', 'x']
      | 'X' => ['0', 'X']
      | _ => []
    else []
  padNumber flags width precision.isNone front digits

/-- A ratio with so many decimal places. -/
def fixedText (num den places : Nat) (point : Bool) : List Char :=
  let digits := Nat.toDigits 10 (Decimal.roundDiv (num * Nat.pow 10 places) den)
  let digits := List.replicate (places + 1 - digits.length) '0' ++ digits
  let whole := digits.take (digits.length - places)
  if places == 0 then (if point then whole ++ ['.'] else whole)
  else whole ++ '.' :: digits.drop (digits.length - places)

/-- The decimal exponent of a ratio that is rounded to one digit and so many more. -/
def exponentOf (num den places : Nat) : Int :=
  if num == 0 then 0
  else
    let estimate : Int := (Nat.toDigits 10 num).length - (Nat.toDigits 10 den).length
    let reaches (e : Int) : Bool :=
      let t := Decimal.tenPow e
      let p := Decimal.tenPow ((places : Int) - e)
      den * t.1 ≤ num * t.2 || Decimal.roundDiv (num * p.1) (den * p.2) ≥ Nat.pow 10 places
    if reaches (estimate + 1) then estimate + 1 else if reaches estimate then estimate
    else estimate - 1

/-- A ratio with a digit, so many decimal places, and an exponent. -/
def scientificText (num den places : Nat) (point : Bool) (mark : Char) : List Char :=
  let e := exponentOf num den places
  let t := Decimal.tenPow e
  let digits := Nat.toDigits 10 e.natAbs
  fixedText (num * t.2) (den * t.1) places point ++ [mark, if e < 0 then '-' else '+']
    ++ List.replicate (2 - digits.length) '0' ++ digits

/-- A decimal text without the zeros at the end of its fraction. -/
def trimZeros (s : List Char) : List Char :=
  if !s.contains '.' then s
  else ((s.reverse.dropWhile (· == '0')).dropWhile (· == '.')).reverse

/-- A ratio under a conversion. -/
def ratioText (flags : List Char) (width : Nat) (precision : Option Nat) (conversion : Char)
    (negative : Bool) (num den : Nat) : List Char :=
  let places := precision.getD 6
  let point := flags.contains '#'
  let mark := if conversion.isUpper then 'E' else 'e'
  let s := match conversion.toLower with
    | 'f' => fixedText num den places point
    | 'e' => scientificText num den places point mark
    | _ =>
      let digits := max places 1
      let e := exponentOf num den (digits - 1)
      let trim (s : List Char) := if point then s else trimZeros s
      if e < -4 || (digits : Int) ≤ e then
        let s := scientificText num den (digits - 1) point mark
        trim (s.takeWhile (· != mark)) ++ s.dropWhile (· != mark)
      else trim (fixedText num den ((digits : Int) - 1 - e).toNat point)
  padNumber flags width true (signOf flags negative) s

/-- A floating number under a conversion. -/
def floatText (flags : List Char) (width : Nat) (precision : Option Nat) (conversion : Char)
    (x : Float) : List Char :=
  let negative := Decimal.isNegative x && !x.isNaN
  if !x.isFinite then
    let s := if x.isNaN then "nan" else "inf"
    pad flags width (signOf flags negative
      ++ (if conversion.isUpper then s.toUpper else s).toList)
  else
    let b := Decimal.Binary.ofFloat x
    let (p, q) := Decimal.twoPow b.exponent
    ratioText flags width precision conversion negative (b.significand * p) q

/-! ## Arguments -/

/-- What is wrong with a number. -/
inductive NumberFault where
  /-- It is no number. -/
  | none
  /-- Something follows it. -/
  | more
  /-- It is too large. -/
  | large
deriving DecidableEq, Repr

/-- The sign in front of a text, and the text after it. -/
def signed (s : List Char) : Int × List Char :=
  match s.dropWhile (" \t\n\x0b\x0c\r".contains ·) with
  | '-' :: rest => (-1, rest)
  | '+' :: rest => (1, rest)
  | rest => (1, rest)

/-- The integer that an argument is. A quote in front stands for the code of the character after
it. -/
def integerOf (s : List Char) : Int × Option NumberFault :=
  match s with
  | [] => (0, none)
  | '"' :: c :: rest | '\'' :: c :: rest => (c.toNat, if rest.isEmpty then none else some .more)
  | _ =>
    let (sign, rest) := signed s
    match Sum.natural? rest with
    | some (n, length) =>
      let value := max leastInteger (min (sign * n) greatestInteger)
      (value, if !(rest.drop length).isEmpty then some .more
        else if value != sign * n then some .large else none)
    | none => (0, some .none)

/-- The floating number that an argument is. -/
def floatOf (s : List Char) : Float × Option NumberFault :=
  if s.isEmpty then (0, none)
  else
    let (sign, rest) := signed s
    let whole := rest.takeWhile Char.isDigit
    let after := rest.drop whole.length
    let fraction := if after.head? == some '.' then (after.drop 1).takeWhile Char.isDigit else []
    let after := if after.head? == some '.' then after.drop (fraction.length + 1) else after
    let exponent : Option (Int × Nat) := match after with
      | e :: tail =>
        if e == 'e' || e == 'E' then
          let (sign, ds) := signed tail
          let ds := ds.takeWhile Char.isDigit
          if ds.isEmpty then none else some (sign * Text.digitsValue ds, ds.length)
        else none
      | [] => none
    let sized (x : Float) : Float := if sign < 0 then -x else x
    let word := (String.ofList rest).toLower
    if word == "inf" || word == "infinity" then (sized (1 / 0), none)
    else if word == "nan" then (sized (0 / 0), none)
    else if whole.isEmpty && fraction.isEmpty then (0, some .none)
    else
      let value := Text.digitsValue (whole ++ fraction)
      let scale := ((exponent.map (·.1)).getD 0) - fraction.length
      let (p, q) := Decimal.tenPow scale
      let x := if value == 0 then 0 else Decimal.nearest (value * p) q
      let left := match exponent with
        | some (_, length) =>
          after.drop (length + 1 + (if ((after.drop 1).head?.any ("+-".contains ·)) then 1 else 0))
        | none => after
      (sized x, if left.isEmpty then none else some .more)

/-! ## Writing -/

/-- What a format has written so far. -/
structure Written where
  /-- The pieces of text, the last first. -/
  texts : List (List Char) := []
  /-- The arguments that are left. -/
  arguments : List String
  /-- The arguments that are wrong, the last first. -/
  faults : List (String × NumberFault) := []
  /-- A directive that makes no sense. -/
  invalid : Option String := none
  /-- Whether that one lacks its conversion. -/
  lacking : Bool := false
  /-- Whether no more is written. -/
  ended : Bool := false

namespace Format

/-- Takes a size. A size below zero is a flag. -/
def takeSize (w : Written) : Size → Option Int × Written
  | .none => (none, w)
  | .some n => (some n, w)
  | .argument =>
    let (n, _) := integerOf ((w.arguments.headD "").toList)
    (some n, { w with arguments := w.arguments.drop 1 })

/-- Writes a piece. -/
def writePiece (rules : FormatRules) (w : Written) (piece : FormatPiece) : Written :=
  if w.ended || w.invalid.isSome then w
  else
    match piece with
    | .text s => { w with texts := s :: w.texts }
    | .stop => { w with ended := true }
    | .invalid s lacking => { w with invalid := some (String.ofList ('%' :: s)), lacking }
    | .directive flags width precision conversion =>
      let (width, w) := takeSize w width
      let (precision, w) := takeSize w precision
      let flags := if width.any (· < 0) then '-' :: flags else flags
      let width := (width.getD 0).natAbs
      let precision := precision.bind fun n => if n < 0 then none else some n.toNat
      let argument := w.arguments.headD ""
      let w := { w with arguments := w.arguments.drop 1 }
      let cut (s : List Char) := match precision with
        | some n => s.take n
        | none => s
      let noted (fault : Option NumberFault) : List (String × NumberFault) :=
        match fault with
        | some f => (argument, f) :: w.faults
        | none => w.faults
      match conversion with
      | 's' => { w with texts := pad flags width (cut argument.toList) :: w.texts }
      | 'c' =>
        { w with texts := pad flags width [argument.toList.headD '\x00'] :: w.texts }
      | 'q' =>
        let quoted := (rules.quote.getD id) argument.toList
        { w with texts := pad flags width (cut quoted) :: w.texts }
      | 'b' =>
        let (s, ended) := unescape rules.argument argument.length argument.toList
        { w with texts := pad flags width (cut s) :: w.texts, ended }
      | 'f' | 'F' | 'e' | 'E' | 'g' | 'G' =>
        let (x, fault) := floatOf argument.toList
        { w with
          texts := floatText flags width precision conversion x :: w.texts
          faults := noted fault }
      | _ =>
        let (n, fault) := integerOf argument.toList
        { w with
          texts := integerText flags width precision conversion n :: w.texts
          faults := noted fault }

/-- Writes the pieces as often as there are arguments for them, if so many times are enough. -/
def writePieces (rules : FormatRules) (pieces : List FormatPiece) : Nat → Written → Written
  | 0, w => w
  | n + 1, w =>
    let next := pieces.foldl (writePiece rules) w
    if next.arguments.isEmpty || next.ended || next.invalid.isSome
        || next.arguments.length == w.arguments.length then next
    else writePieces rules pieces n next

/-- Writes a format with arguments. -/
def write (rules : FormatRules) (format : String) (arguments : List String) : Written :=
  let pieces := formatPieces rules format.length format.toList
  writePieces rules pieces (arguments.length + 1) { arguments }

/-- What has been written. -/
def output (w : Written) : String :=
  String.ofList w.texts.reverse.flatten

end Format

end BuildingModel.Sandbox.Shell
