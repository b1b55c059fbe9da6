import BuildingModel.Sandbox.Shell.Format
import BuildingModel.Sandbox.Tool.Rules.KeyOrder
import Std.Data.TreeMap

/-!
# Values

The values that rules work with are numbers and texts. Each may be taken for the other: a text for
the number at its front, a number for its digits. What is read is a text that counts as a number
where it looks like one.
-/

namespace BuildingModel.Sandbox.Tool.Rules

/-- A value. -/
inductive Value where
  /-- What a variable has before it is set: no text, and zero. -/
  | nothing
  /-- A number. -/
  | number (x : Float)
  /-- A text. -/
  | text (s : String)
  /-- A text that looks like a number, and the number. -/
  | numeral (s : String) (x : Float)
deriving Inhabited

/-! ## Numbers in texts -/

/-- Whether a character is a blank. -/
def isBlank (c : Char) : Bool := " \t\n\x0b\x0c\r".contains c

/-- The decimal number at the front of a text, and the text after it. -/
def decimalFront? (s : List Char) : Option (Float × List Char) :=
  let whole := s.takeWhile Char.isDigit
  let after := s.drop whole.length
  let hasPoint := after.head? == some '.'
  let fraction := if hasPoint then (after.drop 1).takeWhile Char.isDigit else []
  let after := if hasPoint then after.drop (fraction.length + 1) else after
  if whole.isEmpty && fraction.isEmpty then none
  else
    let sign : List Char := (after.drop 1).take 1
    let isSigned := sign == ['+'] || sign == ['-']
    let digits := (after.drop (if isSigned then 2 else 1)).takeWhile Char.isDigit
    let hasExponent := after.head?.any (fun c => c == 'e' || c == 'E') && !digits.isEmpty
    let power : Int := if hasExponent then Text.digitsValue digits else 0
    let power : Int := (if sign == ['-'] then -power else power) - fraction.length
    let value := Text.digitsValue (whole ++ fraction)
    -- beyond these powers a number is infinite or zero whatever its digits are
    let bound : Int := 400 + value.log2
    let (p, q) := Decimal.tenPow (max (-bound) (min bound power))
    let x := if value == 0 then 0 else Decimal.nearest (value * p) q
    let length := if hasExponent then digits.length + (if isSigned then 2 else 1) else 0
    some (x, after.drop length)

/-- The number at the front of a text. Zero if there is none. -/
def numberAt (s : String) : Float :=
  let s := s.toList.dropWhile isBlank
  let isNegative := s.head? == some '-'
  let s := if isNegative || s.head? == some '+' then s.drop 1 else s
  let word := s.map Char.toLower
  let x : Float :=
    if "inf".toList.isPrefixOf word then 1 / 0
    else if "nan".toList.isPrefixOf word then 0 / 0
    else if "0x".toList.isPrefixOf word && (word.drop 2).head?.any Shell.isHexadecimal then
      Float.ofNat (Shell.ofHexadecimal ((word.drop 2).takeWhile Shell.isHexadecimal))
    else ((decimalFront? s).map (·.1)).getD 0
  if isNegative then -x else x

/-- The number that a text looks like. -/
def numeral? (s : String) : Option Float :=
  let s := s.toList.dropWhile isBlank
  let isNegative := s.head? == some '-'
  let s := if isNegative || s.head? == some '+' then s.drop 1 else s
  match decimalFront? s with
  | some (x, rest) => if rest.all isBlank then some (if isNegative then -x else x) else none
  | none => none

/-! ## Numbers as texts -/

/-- The integer that a number is, if it can be told in 64 bits. -/
def integer? (x : Float) : Option Int :=
  if !x.isFinite || x != x.floor then none
  else if 0 ≤ x && x ≤ 18446744073709551616 then some x.toUInt64.toNat
  else if -9223372036854775808 ≤ x && x < 0 then some x.toInt64.toInt
  else none

/-- The integer part of a number, as far as it can be told. -/
def integerPart (x : Float) : Int :=
  if x.isNaN then -9223372036854775808
  else (integer? (if x < 0 then x.ceil else x.floor)).getD
    (if x < 0 then -9223372036854775808 else 9223372036854775807)

/-- A floating number under a conversion. What is not a number has the sign that arithmetic gives
it. -/
def realText (flags : List Char) (width : Nat) (precision : Option Nat) (conversion : Char)
    (x : Float) : List Char :=
  if x.isNaN then
    Shell.pad flags width (if conversion.isUpper then "-NAN" else "-nan").toList
  else Shell.floatText flags width precision conversion x

/-- A number in a format with one directive. -/
def numberIn (format : String) (x : Float) : String :=
  let front := format.toList.takeWhile (· != '%')
  let (piece, length) := Shell.directive {} (format.toList.drop (front.length + 1))
  let size : Shell.Size → Option Nat
    | .some n => some n
    | _ => none
  let middle := match piece with
    | .directive flags width precision conversion =>
      let width := (size width).getD 0
      if "feEgGF".contains conversion then realText flags width (size precision) conversion x
      else Shell.integerText flags width (size precision) conversion (integerPart x)
    | _ => []
  String.ofList (front ++ middle ++ format.toList.drop (front.length + 1 + length))

/-- A number as a text: its digits if it is an integer, else in a format. -/
def numberText (format : String) (x : Float) : String :=
  match integer? x with
  | some i => toString i
  | none => numberIn format x

namespace Value

/-- What is read. -/
def ofInput (s : String) : Value :=
  match numeral? s with
  | some x => .numeral s x
  | none => .text s

/-- A truth value. -/
def ofBool (b : Bool) : Value := .number (if b then 1 else 0)

/-- A number of things. -/
def ofNat (n : Nat) : Value := .number (Float.ofNat n)

/-- A value as a number. -/
def toNumber : Value → Float
  | nothing => 0
  | number x => x
  | text s => numberAt s
  | numeral _ x => x

/-- A value as a text, given the format of numbers. -/
def toText (format : String) : Value → String
  | nothing => ""
  | number x => numberText format x
  | text s => s
  | numeral s _ => s

/-- Whether a value counts as true. -/
def isTrue : Value → Bool
  | nothing => false
  | number x => x != 0
  | text s => !s.isEmpty
  | numeral _ x => x != 0

/-- Whether a value is compared as a text. -/
def isText : Value → Bool
  | text _ => true
  | _ => false

end Value

/-! ## Relations -/

/-- A relation between values. -/
inductive Relation where
  /-- The first is less. -/
  | less
  /-- The first is not greater. -/
  | atMost
  /-- They are equal. -/
  | equal
  /-- They differ. -/
  | unequal
  /-- The first is greater. -/
  | greater
  /-- The first is not less. -/
  | atLeast
deriving DecidableEq, Repr

/-- Whether two values are in a relation, as texts if one of them is a text. -/
def Relation.holds (r : Relation) (format : String) (a b : Value) : Bool :=
  if a.isText || b.isText then
    let a := a.toText format
    let b := b.toText format
    match r with
    | .less => a < b
    | .atMost => a ≤ b
    | .equal => a == b
    | .unequal => a != b
    | .greater => b < a
    | .atLeast => b ≤ a
  else
    let a := a.toNumber
    let b := b.toNumber
    match r with
    | .less => a < b
    | .atMost => a ≤ b
    | .equal => a == b
    | .unequal => a != b
    | .greater => b < a
    | .atLeast => b ≤ a

/-! ## Arithmetic -/

/-- How two numbers are joined. -/
inductive Operation where
  /-- By addition. -/
  | add
  /-- By subtraction. -/
  | subtract
  /-- By multiplication. -/
  | multiply
  /-- By division. -/
  | divide
  /-- By what is left after division. -/
  | remainder
  /-- By raising the first to a power. -/
  | power
deriving DecidableEq, Repr

/-- What is left of a number after division by another, with the sign of the first. It is exact. -/
def leftOver (x y : Float) : Float :=
  if !x.isFinite || y.isNaN || y == 0 then 0 / 0
  else if !y.isFinite then x
  else
    let a := Decimal.Binary.ofFloat x
    let b := Decimal.Binary.ofFloat y
    let e := min a.exponent b.exponent
    let m := a.significand * Nat.pow 2 (a.exponent - e).toNat
    let n := b.significand * Nat.pow 2 (b.exponent - e).toNat
    let left := m % n
    let (p, q) := Decimal.twoPow e
    let size := if left == 0 then 0 else Decimal.nearest (left * p) q
    if Decimal.isNegative x then -size else size

/-- Two numbers joined. -/
def Operation.apply (o : Operation) (x y : Float) : Float :=
  match o with
  | .add => x + y
  | .subtract => x - y
  | .multiply => x * y
  | .divide => x / y
  | .remainder => leftOver x y
  | .power => Float.pow x y

/-! ## Tables -/

/-- What a value of a table is found by. -/
inductive Key where
  /-- A text. -/
  | text (s : String)
  /-- An integer. -/
  | number (i : Int)
deriving DecidableEq, Repr

/-- The key that a value is, given the format of numbers. -/
def Key.ofValue (format : String) : Value → Key
  | .number x =>
    match integer? x with
    | some i => .number i
    | none => .text (numberIn format x)
  | v => .text (v.toText format)

/-- The text of a key. -/
def Key.name : Key → String
  | .text s => s
  | .number i => toString i

/-- Values by their keys. -/
structure Table where
  /-- The values. -/
  values : Std.TreeMap String Value := {}
  /-- The order of the keys. -/
  order : KeyOrder := {}

namespace Table

/-- After a key is sought, which may be added. -/
def seek (adds : Bool) (key : Key) (t : Table) : Table :=
  { t with order := match key with
      | .text s => t.order.seek adds s
      | .number i => t.order.seekNumber adds i }

/-- A value with the table after the key is sought. One that is not there is added. -/
def get (key : Key) (t : Table) : Value × Table :=
  let t := t.seek true key
  match t.values[key.name]? with
  | some v => (v, t)
  | none => (.nothing, { t with values := t.values.insert key.name .nothing })

/-- With a value. -/
def put (key : Key) (v : Value) (t : Table) : Table :=
  let t := t.seek true key
  { t with values := t.values.insert key.name v }

/-- Whether there is a value, with the table after the key is sought. -/
def has (key : Key) (t : Table) : Bool × Table :=
  if t.values.isEmpty then (false, t)
  else (t.values.contains key.name, t.seek false key)

/-- Without a value. -/
def erase (key : Key) (t : Table) : Table :=
  if !t.values.contains key.name then t
  else ⟨t.values.erase key.name, t.order.erase key.name⟩

/-- How many values there are. -/
def size (t : Table) : Nat := t.values.size

/-- The keys in the order in which they are visited. -/
def keys (t : Table) : List String := t.order.keys

/-- With the lists of the order made that visiting needs. -/
def visited (t : Table) : Table := { t with order := t.order.hashed }

/-- Values by their places from one on. -/
def ofList (vs : List Value) : Table where
  values := (vs.zip (List.range vs.length)).foldl
    (fun t (v, i) => t.insert (toString (i + 1)) v) {}
  order := .row vs.length

end Table

end BuildingModel.Sandbox.Tool.Rules
