/-!
# Binary fractions

A finite double is a significand times a power of two. `Binary.ofFloat` takes a double apart into
the two, and `nearest` puts together the double closest to a ratio of natural numbers, with ties
going to the even significand.
-/

namespace BuildingModel.Decimal

/-- The magnitude of a finite double: `significand * 2 ^ exponent`. -/
structure Binary where
  /-- The integer significand, below `2 ^ 53`. -/
  significand : Nat
  /-- The power of two it is scaled by. -/
  exponent : Int
  /-- Whether the doubles below lie half as far apart as those above. -/
  atBoundary : Bool
deriving Repr, DecidableEq

/-- The weight of the bit before the fraction, `2 ^ 52`. -/
def unit : Nat := 0x10000000000000

/-- The magnitude of a finite double, taken from its bits. -/
def Binary.ofFloat (x : Float) : Binary :=
  let bits := x.toBits.toNat
  let biased : Nat := bits / unit % 0x800
  let fraction : Nat := bits % unit
  if biased == 0 then ⟨fraction, -1074, false⟩
  else ⟨unit + fraction, (biased : Int) - 1075, fraction == 0 && biased != 1⟩

/-- Positive infinity. -/
def infinity : Float :=
  Float.ofBits 0x7FF0000000000000

/-- Whether the sign bit of a double is set. -/
def isNegative (x : Float) : Bool :=
  x.toBits.toNat / 0x8000000000000000 == 1

/-- `2 ^ k` as a ratio of natural numbers. -/
def twoPow (k : Int) : Nat × Nat :=
  if k < 0 then (1, Nat.pow 2 (-k).toNat) else (Nat.pow 2 k.toNat, 1)

/-- `10 ^ k` as a ratio of natural numbers. -/
def tenPow (k : Int) : Nat × Nat :=
  if k < 0 then (1, Nat.pow 10 (-k).toNat) else (Nat.pow 10 k.toNat, 1)

/-- The quotient rounded to the nearest natural number, a tie going to the even one. -/
def roundDiv (num den : Nat) : Nat :=
  let q := num / den
  let twice := 2 * (num % den)
  if twice < den then q
  else if twice == den then q + q % 2
  else q + 1

/-- The double nearest to `num / den`, for `num` and `den` positive. Ratios beyond the largest
double give infinity. -/
def nearest (num den : Nat) : Float :=
  -- the power of two that leaves between 53 and 54 bits, but no less than that of subnormals
  let estimate := (num.log2 : Int) - den.log2 - 52
  let scaled (e : Int) : Nat × Nat :=
    let p := twoPow e
    (num * p.2, den * p.1)
  let below := let s := scaled estimate; s.1 < s.2 * unit
  let exponent := max (if below then estimate - 1 else estimate) (-1074)
  let s := scaled exponent
  let m := roundDiv s.1 s.2
  let (m, exponent) := if m == 2 * unit then (unit, exponent + 1) else (m, exponent)
  if 971 < exponent then infinity
  else if m < unit then Float.ofBits (UInt64.ofNat m)
  else Float.ofBits (UInt64.ofNat ((exponent + 1075).toNat * unit + (m - unit)))

end BuildingModel.Decimal
