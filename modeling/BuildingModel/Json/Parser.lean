import BuildingModel.Decimal.Shortest
import BuildingModel.Json.Basic
import BuildingModel.Text.Digits
import BuildingModel.Text.Search

/-!
# Reading JSON

A reader takes its value off the front of the text and returns it with the rest, or tells what is
wrong and where. Texts nested 128 levels deep or more are refused, as are lone surrogates and
numbers beyond the largest double. Whole numbers of 64 bits, signed or not, stay whole; all others
become doubles.
-/

namespace BuildingModel.Json

open Text (byteLength digitValue hexDigit?)

/-- What is wrong with a text that is not JSON. -/
inductive Defect where
  /-- The text ends where a value, or the rest of one, has to follow. -/
  | endInValue
  /-- The text ends in an array. -/
  | endInArray
  /-- The text ends in an object. -/
  | endInObject
  /-- The text ends in a string. -/
  | endInString
  /-- No value starts here. -/
  | noValue
  /-- A word other than `null`, `true` and `false`. -/
  | unknownWord
  /-- Neither a comma nor the end of the array. -/
  | noCommaInArray
  /-- Neither a comma nor the end of the object. -/
  | noCommaInObject
  /-- No colon after a key. -/
  | noColon
  /-- A key that is not a string. -/
  | badKey
  /-- Nothing after a comma. -/
  | trailingComma
  /-- Text after the value. -/
  | trailingText
  /-- A number that is badly written. -/
  | badNumber
  /-- A number beyond the largest double. -/
  | hugeNumber
  /-- A control character in a string. -/
  | controlCharacter
  /-- An escape that does not exist. -/
  | badEscape
  /-- A surrogate that is not the second of two. -/
  | loneSurrogate
  /-- No escape after the first of two surrogates. -/
  | unpairedSurrogate
  /-- Too many levels. -/
  | tooDeep
deriving DecidableEq, Repr

/-- The text of a defect. -/
def Defect.message : Defect → String
  | .endInValue => "EOF while parsing a value"
  | .endInArray => "EOF while parsing a list"
  | .endInObject => "EOF while parsing an object"
  | .endInString => "EOF while parsing a string"
  | .noValue => "expected value"
  | .unknownWord => "expected ident"
  | .noCommaInArray => "expected `,` or `]`"
  | .noCommaInObject => "expected `,` or `\x7d`"
  | .noColon => "expected `:`"
  | .badKey => "key must be a string"
  | .trailingComma => "trailing comma"
  | .trailingText => "trailing characters"
  | .badNumber => "invalid number"
  | .hugeNumber => "number out of range"
  | .controlCharacter => "control character (\\u0000-\\u001F) found while parsing a string"
  | .badEscape => "invalid escape"
  | .loneSurrogate => "lone leading surrogate in hex escape"
  | .unpairedSurrogate => "unexpected end of hex escape"
  | .tooDeep => "recursion limit exceeded"

namespace Parser

/-- A defect at some place of a text. -/
structure Fault where
  /-- What is wrong. -/
  defect : Defect
  /-- The text from the place on. -/
  rest : List Char
  /-- How many bytes of the rest belong to what is wrong. -/
  width : Nat
deriving DecidableEq, Repr

/-- What a reader returns: a value and the rest of the text. -/
abbrev Reading (α : Type) := Except Fault (α × List Char)

/-- The white space of JSON. -/
def isSpace (c : Char) : Bool :=
  c == ' ' || c == '\n' || c == '\t' || c == '\r'

/-- The text without its leading white space. -/
def dropSpace (s : List Char) : List Char :=
  s.dropWhile isSpace

/-! ## Numbers -/

/-- A significand of at most 64 bits that is being read digit by digit. -/
structure Significand where
  /-- The digits taken so far. -/
  value : Nat
  /-- The power of ten of the next digit. -/
  exponent : Int
  /-- Whether a digit was left out because it would not fit. -/
  full : Bool

/-- Takes the next digit before the point. Digits that do not fit count as zeros. -/
def Significand.pushWhole (s : Significand) (c : Char) : Significand :=
  let value := s.value * 10 + digitValue c
  if s.full || UInt64.size ≤ value then { s with exponent := s.exponent + 1, full := true }
  else { s with value := value }

/-- Takes the next digit after the point. Digits that do not fit are left out. -/
def Significand.pushFraction (s : Significand) (c : Char) : Significand :=
  let value := s.value * 10 + digitValue c
  if s.full || UInt64.size ≤ value then { s with full := true }
  else { s with value := value, exponent := s.exponent - 1 }

/-- A double scaled by a power of ten, `none` when it grows beyond the largest double. Powers below
those of doubles are divided out in steps. -/
def scale? : (steps : Nat) → Float → Int → Option Float
  | 0, _, _ => some 0
  | steps + 1, x, e =>
    if 308 < e then if x == 0 then some x else none
    else if 0 ≤ e then
      let y := x * Decimal.toFloat ⟨1, e⟩
      if y.isInf then none else some y
    else if -308 ≤ e then some (x / Decimal.toFloat ⟨1, -e⟩)
    else if x == 0 then some x
    else scale? steps (x / Decimal.toFloat ⟨1, 308⟩) (e + 308)

/-- The double of a significand and an exponent, with its sign. -/
def real? (negative : Bool) (significand : Nat) (exponent : Int) : Option Json :=
  (scale? 4 (Decimal.toFloat ⟨significand, 0⟩) exponent).map fun x =>
    .real (if negative then -x else x)

/-- A number without point and exponent. -/
def whole? (negative : Bool) (s : Significand) : Option Json :=
  if s.full then real? negative s.value s.exponent
  else if !negative then some (.int s.value)
  else if s.value == 0 || Int64.maxValue.toInt + 1 < s.value then real? true s.value 0
  else some (.int (-s.value))

/-- The greatest exponent that is read to its end. -/
def exponentLimit : Nat := Int32.maxValue.toInt.toNat

/-- Takes digits onto an exponent while it is within the limit. -/
def exponentDigits (n : Nat) : List Char → Nat × List Char
  | [] => (n, [])
  | c :: r =>
    if c.isDigit && n ≤ exponentLimit then exponentDigits (n * 10 + digitValue c) r
    else (n, c :: r)

/-- The exponent of a number after its letter. Its digits need not all be taken. -/
def exponent (s : List Char) : Reading Int :=
  let (negative, s) := match s with
    | '-' :: r => (true, r)
    | '+' :: r => (false, r)
    | r => (false, r)
  match s with
  | [] => .error ⟨.endInValue, [], 1⟩
  | c :: r =>
    if c.isDigit then
      let (n, r) := exponentDigits (digitValue c) r
      .ok (if negative then -n else n, r)
    else .error ⟨.badNumber, c :: r, 1⟩

/-- A double of a number, at the end of what decides its value. -/
def finish (negative : Bool) (s : Significand) (e : Int) (rest : List Char) : Reading Json :=
  match real? negative s.value (s.exponent + e) with
  | some v => .ok (v, rest.dropWhile Char.isDigit)
  | none => .error ⟨.hugeNumber, rest, 0⟩

/-- The rest of a number after the digits of its significand; `fractional` tells whether some of
them follow a point. -/
def afterDigits (negative fractional : Bool) (s : Significand) (rest : List Char) : Reading Json :=
  match rest with
  | 'e' :: r | 'E' :: r =>
    match exponent r with
    | .ok (e, r) => finish negative s e r
    | .error f => .error f
  | _ =>
    if fractional then finish negative s 0 rest
    else
      match whole? negative s with
      | some v => .ok (v, rest)
      | none => .error ⟨.hugeNumber, rest, 0⟩

/-- The rest of a number after the digits before its point. -/
def afterWhole (negative : Bool) (s : Significand) (rest : List Char) : Reading Json :=
  match rest with
  | '.' :: r =>
    let ds := r.takeWhile Char.isDigit
    let after := r.dropWhile Char.isDigit
    if ds.isEmpty then .error ⟨if r.isEmpty then .endInValue else .badNumber, r, 1⟩
    else
      let s := ds.foldl Significand.pushFraction { s with full := false }
      afterDigits negative true s after
  | _ => afterDigits negative false s rest

/-- A number after its sign. -/
def unsigned (negative : Bool) (s : List Char) : Reading Json :=
  match s with
  | [] => .error ⟨.endInValue, [], 1⟩
  | '0' :: r =>
    if (r.head?.map Char.isDigit).getD false then .error ⟨.badNumber, r, 1⟩
    else afterWhole negative ⟨0, 0, false⟩ r
  | s =>
    let ds := s.takeWhile Char.isDigit
    if ds.isEmpty then .error ⟨.badNumber, s, 1⟩
    else
      let significand := ds.foldl Significand.pushWhole ⟨0, 0, false⟩
      afterWhole negative significand (s.dropWhile Char.isDigit)

/-- A number. -/
def number (s : List Char) : Reading Json :=
  match s with
  | [] => .error ⟨.endInValue, [], 1⟩
  | '-' :: r => unsigned true r
  | c :: r => if c.isDigit then unsigned false (c :: r) else .error ⟨.noValue, c :: r, 1⟩

/-! ## Strings -/

/-- The value of four hexadecimal digits. -/
def hexUnit? (a b c d : Char) : Option Nat := do
  let a ← hexDigit? a
  let b ← hexDigit? b
  let c ← hexDigit? c
  let d ← hexDigit? d
  return ((a * 16 + b) * 16 + c) * 16 + d

/-- The character of a letter after a backslash. -/
def escaped? : Char → Option Char
  | '"' => some '"'
  | '\\' => some '\\'
  | '/' => some '/'
  | 'b' => some '\x08'
  | 'f' => some '\x0c'
  | 'n' => some '\n'
  | 'r' => some '\r'
  | 't' => some '\t'
  | _ => none

/-- What is wrong with text that should be four hexadecimal digits. -/
def hexFault (s : List Char) : Fault :=
  if byteLength s < 4 then ⟨.endInString, [], 0⟩ else ⟨.badEscape, s, 4⟩

/-- The characters of a string after its opening quote, with the rest after the closing one. The
characters before are passed along in reverse. -/
def stringBody (before : List Char) : List Char → Reading (List Char)
  | [] => .error ⟨.endInString, [], 1⟩
  | '"' :: r => .ok (before.reverse, r)
  | '\\' :: 'u' :: a :: b :: c :: d :: r =>
    match hexUnit? a b c d with
    | none => .error (hexFault (a :: b :: c :: d :: r))
    | some n =>
      if n < 0xD800 || 0xE000 ≤ n then stringBody (Char.ofNat n :: before) r
      else if 0xDC00 ≤ n then .error ⟨.loneSurrogate, r, 0⟩
      else
        match r with
        | '\\' :: 'u' :: a :: b :: c :: d :: r =>
          match hexUnit? a b c d with
          | none => .error (hexFault (a :: b :: c :: d :: r))
          | some m =>
            if m < 0xDC00 || 0xE000 ≤ m then .error ⟨.loneSurrogate, r, 0⟩
            else
              let code := 0x10000 + (n - 0xD800) * 0x400 + (m - 0xDC00)
              stringBody (Char.ofNat code :: before) r
        | '\\' :: 'u' :: r => .error (hexFault r)
        | '\\' :: r | r => .error ⟨if r.isEmpty then .endInString else .unpairedSurrogate, r, 1⟩
  | '\\' :: 'u' :: r => .error (hexFault r)
  | '\\' :: c :: r =>
    match escaped? c with
    | none => .error ⟨.badEscape, c :: r, 1⟩
    | some c => stringBody (c :: before) r
  | c :: r =>
    if c == '\\' then .error ⟨.endInString, r, 1⟩
    else if c.toNat < 0x20 then .error ⟨.controlCharacter, c :: r, 1⟩
    else stringBody (c :: before) r

/-! ## Values -/

/-- A value that is written as a word, of which letters are left. -/
def word (v : Json) : (letters : List Char) → List Char → Reading Json
  | [], s => .ok (v, s)
  | _ :: _, [] => .error ⟨.endInValue, [], 1⟩
  | c :: letters, d :: r =>
    if c == d then word v letters r else .error ⟨.unknownWord, d :: r, 1⟩

mutual

/-- A value after white space. `fuel` bounds the number of steps, `levels` the nesting. -/
def value : (fuel : Nat) → (levels : Nat) → List Char → Reading Json
  | 0, _, s => .error ⟨.endInValue, s, 0⟩
  | fuel + 1, levels, s =>
    match dropSpace s with
    | 'n' :: r => word .null ['u', 'l', 'l'] r
    | 't' :: r => word (.bool true) ['r', 'u', 'e'] r
    | 'f' :: r => word (.bool false) ['a', 'l', 's', 'e'] r
    | '"' :: r => (stringBody [] r).map fun p => (.text (String.ofList p.1), p.2)
    | '[' :: r =>
      if levels ≤ 1 then .error ⟨.tooDeep, '[' :: r, 1⟩
      else
        match dropSpace r with
        | [] => .error ⟨.endInArray, [], 1⟩
        | ']' :: r => .ok (.array [], r)
        | r => (items fuel (levels - 1) r).map fun p => (.array p.1, p.2)
    | '{' :: r =>
      if levels ≤ 1 then .error ⟨.tooDeep, '{' :: r, 1⟩
      else
        match dropSpace r with
        | [] => .error ⟨.endInObject, [], 1⟩
        | '}' :: r => .ok (.object [], r)
        | r => (fields fuel (levels - 1) r).map fun p => (.object p.1, p.2)
    | s => number s

/-- The items of an array up to its closing bracket. -/
def items : (fuel : Nat) → (levels : Nat) → List Char → Reading (List Json)
  | 0, _, s => .error ⟨.endInValue, s, 0⟩
  | fuel + 1, levels, s =>
    match value fuel levels s with
    | .error e => .error e
    | .ok (v, r) =>
      match dropSpace r with
      | [] => .error ⟨.endInArray, [], 1⟩
      | ']' :: r => .ok ([v], r)
      | ',' :: r =>
        match dropSpace r with
        | [] => .error ⟨.endInValue, [], 1⟩
        | ']' :: r => .error ⟨.trailingComma, ']' :: r, 1⟩
        | r => (items fuel levels r).map fun p => (v :: p.1, p.2)
      | r => .error ⟨.noCommaInArray, r, 1⟩

/-- The fields of an object up to its closing brace. -/
def fields : (fuel : Nat) → (levels : Nat) → List Char → Reading (List (String × Json))
  | 0, _, s => .error ⟨.endInValue, s, 0⟩
  | fuel + 1, levels, s =>
    match s with
    | '"' :: r =>
      match stringBody [] r with
      | .error e => .error e
      | .ok (k, r) =>
        match dropSpace r with
        | [] => .error ⟨.endInObject, [], 1⟩
        | ':' :: r =>
          match value fuel levels r with
          | .error e => .error e
          | .ok (v, r) =>
            match dropSpace r with
            | [] => .error ⟨.endInObject, [], 1⟩
            | '}' :: r => .ok ([(String.ofList k, v)], r)
            | ',' :: r =>
              match dropSpace r with
              | [] => .error ⟨.endInValue, [], 1⟩
              | '}' :: r => .error ⟨.trailingComma, '}' :: r, 1⟩
              | r => (fields fuel levels r).map fun p => ((String.ofList k, v) :: p.1, p.2)
            | r => .error ⟨.noCommaInObject, r, 1⟩
        | r => .error ⟨.noColon, r, 1⟩
    | s => .error ⟨.badKey, s, 1⟩

end

/-! ## Texts -/

/-- The nesting at which a text is refused. -/
def levelLimit : Nat := 128

/-- The value of a whole text. -/
def whole (s : List Char) : Except Fault Json :=
  match value (2 * s.length + 2) levelLimit s with
  | .error f => .error f
  | .ok (v, r) =>
    match dropSpace r with
    | [] => .ok v
    | r => .error ⟨.trailingText, r, 1⟩

end Parser

/-- Why a text is not JSON: a defect and the position of its end. -/
structure ParseError where
  /-- What is wrong. -/
  defect : Defect
  /-- The line, counted from one. -/
  line : Nat
  /-- The number of bytes of the line up to there. -/
  column : Nat
deriving DecidableEq, Repr

/-- The text of a parse error. -/
def ParseError.message (e : ParseError) : String :=
  e.defect.message ++ " at line " ++ toString e.line ++ " column " ++ toString e.column

/-- The position of a fault in the whole text. -/
def Parser.Fault.locate (f : Parser.Fault) (whole : List Char) : ParseError :=
  let bytes := (String.ofList whole).toUTF8.toList
  let before := bytes.take (byteLength whole - byteLength f.rest + f.width)
  { defect := f.defect
    line := 1 + before.count 10
    column := (before.reverse.takeWhile (· != 10)).length }

/-- The value of a whole text, in canonical form. -/
def parse (s : String) : Except ParseError Json :=
  match Parser.whole s.toList with
  | .ok v => .ok v.sorted
  | .error f => .error (f.locate s.toList)

end BuildingModel.Json
