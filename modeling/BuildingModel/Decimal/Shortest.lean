import BuildingModel.Decimal.Binary

/-!
# Shortest decimals

The decimal of a double is the one with the fewest digits among those that read back as it, and of
these the nearest to it. `Decimal.ofFloat` tries one digit, then two, and so on: on each grid of
decimals only the two neighbours of the value can read back, since the numbers that do form an
interval around it.
-/

namespace BuildingModel

/-- A decimal `digits * 10 ^ exponent`. -/
structure Decimal where
  /-- The significant digits, as one number. -/
  digits : Nat
  /-- The power of ten of the last digit. -/
  exponent : Int
deriving Repr, DecidableEq

namespace Decimal

/-- A ratio below another. -/
def ratioLt (a b : Nat × Nat) : Bool :=
  a.1 * b.2 < b.1 * a.2

/-- The product of two ratios. -/
def ratioMul (a b : Nat × Nat) : Nat × Nat :=
  (a.1 * b.1, a.2 * b.2)

/-- The power of ten of the leading digit of a positive ratio, from an estimate that is off by at
most one. -/
def leadingExponent (v : Nat × Nat) (estimate : Int) : Int :=
  if ratioLt v (tenPow estimate) then estimate - 1
  else if ratioLt v (tenPow (estimate + 1)) then estimate
  else estimate + 1

/-- The ends of the interval of numbers that read back as a double, and whether they belong to
it. -/
structure Interval where
  /-- The lower end. -/
  lower : Nat × Nat
  /-- The upper end. -/
  upper : Nat × Nat
  /-- Whether the ends themselves read back. -/
  closed : Bool

/-- The numbers that read back as a double: up to half way to its neighbours. -/
def Interval.around (b : Binary) : Interval :=
  let unit := twoPow (b.exponent - 2)
  let gap := if b.atBoundary then 1 else 2
  { lower := ratioMul (4 * b.significand - gap, 1) unit
    upper := ratioMul (4 * b.significand + 2, 1) unit
    closed := b.significand % 2 == 0 }

/-- Whether a ratio lies in the interval. -/
def Interval.holds (i : Interval) (v : Nat × Nat) : Bool :=
  if i.closed then !ratioLt v i.lower && !ratioLt i.upper v
  else ratioLt i.lower v && ratioLt v i.upper

/-- The better of the two neighbours of `v` on the grid of multiples of `10 ^ k` that lie in the
interval, if one does. -/
def onGrid? (v : Nat × Nat) (i : Interval) (k : Int) : Option Nat :=
  let grid := tenPow k
  let num := v.1 * grid.2
  let den := v.2 * grid.1
  let d := num / den
  let below := i.holds (ratioMul (d, 1) grid)
  let above := i.holds (ratioMul (d + 1, 1) grid)
  match below, above with
  | true, true => some (roundDiv num den)
  | true, false => some d
  | false, true => some (d + 1)
  | false, false => none

/-- The first grid with a hit, trying `count` grids from `10 ^ k` downwards. -/
def firstHit (v : Nat × Nat) (i : Interval) : (count : Nat) → (k : Int) → Option Decimal
  | 0, _ => none
  | count + 1, k =>
    match onGrid? v i k with
    | some d => some ⟨d, k⟩
    | none => firstHit v i count (k - 1)

/-- The decimal without trailing zeros, taking off at most `count` of them. -/
def stripZeros : (count : Nat) → Decimal → Decimal
  | 0, d => d
  | count + 1, d =>
    if d.digits != 0 && d.digits % 10 == 0 then stripZeros count ⟨d.digits / 10, d.exponent + 1⟩
    else d

/-- The shortest decimal of the magnitude of a finite double. -/
def ofFloat (x : Float) : Decimal :=
  let b := Binary.ofFloat x
  if b.significand == 0 then ⟨0, 0⟩
  else
    let v := ratioMul (b.significand, 1) (twoPow b.exponent)
    let estimate := ((b.significand.log2 : Int) + b.exponent) * 30103 / 100000
    let k := leadingExponent v estimate
    match firstHit v (.around b) 17 k with
    | some d => stripZeros 17 d
    | none => ⟨0, 0⟩

/-- The double nearest to a decimal. Decimals far outside the range of doubles are not computed. -/
def toFloat (d : Decimal) : Float :=
  let leading := d.exponent + d.digits.log2 * 30103 / 100000
  if d.digits == 0 || leading < -345 then 0
  else if 310 < leading then infinity
  else
    let p := tenPow d.exponent
    nearest (d.digits * p.1) p.2

/-! ## Text -/

/-- How a number is laid out: which powers of ten of the leading digit are written without an
exponent. -/
structure Layout where
  /-- The least power written without an exponent. -/
  leastPlain : Int
  /-- The greatest power written without an exponent. -/
  greatestPlain : Int

/-- The text of a magnitude. Without an exponent there is a digit on both sides of the point; with
one the point follows the first digit and only stands before further digits. -/
def magnitude (layout : Layout) (d : Decimal) : List Char :=
  let ds := Nat.toDigits 10 d.digits
  let leading := d.exponent + (ds.length : Int) - 1
  if leading < layout.leastPlain || layout.greatestPlain < leading then
    let mantissa := match ds with
      | [] => []
      | [c] => [c]
      | c :: rest => c :: '.' :: rest
    let sign := if leading < 0 then '-' else '+'
    mantissa ++ 'e' :: sign :: Nat.toDigits 10 leading.natAbs
  else if leading < 0 then
    '0' :: '.' :: List.replicate (-leading - 1).toNat '0' ++ ds
  else if 0 ≤ d.exponent then
    ds ++ List.replicate d.exponent.toNat '0' ++ ['.', '0']
  else
    let whole := (leading + 1).toNat
    ds.take whole ++ '.' :: ds.drop whole

/-- The text of a finite double in its shortest digits; zero keeps its sign. -/
def text (layout : Layout) (x : Float) : List Char :=
  let m := magnitude layout (ofFloat x)
  if isNegative x then '-' :: m else m

end Decimal

end BuildingModel
