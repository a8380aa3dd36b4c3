import Reattempt.Number.Binary64

/-! The shortest decimal that reads back as a given double. A decimal reads back
when it lies in the interval of the reals nearest to the double, whose ends belong
to it exactly when the significand is even. For one digit, two digits and so on,
only the two grid points around the value need a test: if any grid point lies in the
interval, one of these two does. -/

namespace Reattempt

structure Decimal where
  digits : Nat
  exponent : Int
  deriving DecidableEq, Repr

namespace Decimal

/-- Move up to `places` trailing zeros of the digits into the exponent. -/
def trim : (places : Nat) → Decimal → Decimal
  | 0, decimal => decimal
  | places + 1, decimal =>
      if decimal.digits % 10 = 0 then trim places ⟨decimal.digits / 10, decimal.exponent + 1⟩
      else decimal

def order (numerator denominator : Nat) : Int :=
  let length (value : Nat) : Int := (Nat.toDigits 10 value).length
  let estimate := length numerator - length denominator
  if numerator * Nat.pow 10 (-estimate).toNat < denominator * Nat.pow 10 estimate.toNat then
    estimate - 1
  else estimate

/-- The values around `center` that round to it, all three as numerators over
`denominator`. -/
structure Interval where
  low : Nat
  center : Nat
  high : Nat
  denominator : Nat
  closed : Bool

/-- The interval of the reals nearest to `significand * 2 ^ exponent`. Below a power
of two the doubles lie twice as dense, so there the lower half is half as wide. -/
def Interval.around (significand : Nat) (exponent : Int) : Interval :=
  let scale := Nat.pow 2 (exponent - 2).toNat
  let below :=
    if significand = Binary64.hiddenBit ∧ Binary64.leastExponent < exponent then 1 else 2
  { low := (4 * significand - below) * scale
    center := 4 * significand * scale
    high := (4 * significand + 2) * scale
    denominator := Nat.pow 2 (2 - exponent).toNat
    closed := significand % 2 = 0 }

/-- Whether `numerator / (interval.denominator * factor)` reads back as the center.
-/
def Interval.contains (interval : Interval) (numerator factor : Nat) : Bool :=
  if interval.closed then
    interval.low * factor ≤ numerator && numerator ≤ interval.high * factor
  else interval.low * factor < numerator && numerator < interval.high * factor

/-- The decimal of `count` digits in the interval that is nearest to the center, if
there is one. Of two equally near ones the even one is taken. -/
def Interval.decimal? (interval : Interval) (magnitude : Int) (count : Nat) : Option Decimal :=
  let exponent := magnitude - count + 1
  let factor := Nat.pow 10 (-exponent).toNat
  let unit := interval.denominator * Nat.pow 10 exponent.toNat
  let center := interval.center * factor
  let below := center / unit
  let belowFits := interval.contains (below * unit) factor
  let aboveFits := interval.contains ((below + 1) * unit) factor
  if belowFits && aboveFits then some ⟨roundQuotient center unit, exponent⟩
  else if belowFits then some ⟨below, exponent⟩
  else if aboveFits then some ⟨below + 1, exponent⟩
  else none

/-- The shortest decimal that reads back as `significand * 2 ^ exponent`. Seventeen
digits always suffice for a double. -/
def shortest (significand : Nat) (exponent : Int) : Decimal :=
  if significand = 0 then ⟨0, 0⟩
  else
    let interval := Interval.around significand exponent
    let magnitude := order interval.center interval.denominator
    let found := (List.range' 1 17).findSome? (interval.decimal? magnitude)
    trim 17 (found.getD ⟨interval.center / interval.denominator, 0⟩)

/-- A tenth, and the smallest positive double. -/
example : shortest 0x1999999999999A (-56) = ⟨1, -1⟩ := by decide +kernel
example : shortest 1 (-1074) = ⟨5, -324⟩ := by decide +kernel

end Decimal

end Reattempt
