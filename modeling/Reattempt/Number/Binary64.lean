import Reattempt.Number.Rounding

/-! The exact value of a double and the double nearest to a quotient. All arithmetic
is on natural numbers and integers, so only the reading and writing of the 64 bits
touches `Float`. -/

namespace Reattempt

/-- What the bits of a double stand for. A finite one is `significand * 2 ^
exponent`, negated when `negative` is set. -/
inductive Binary64 where
  | nan
  | infinite (negative : Bool)
  | finite (negative : Bool) (significand : Nat) (exponent : Int)
  deriving DecidableEq, Repr

namespace Binary64

/-- The exponent of the smallest positive double, which is two to this power. -/
def leastExponent : Int := -1074

/-- Significands of normal doubles start here and end below twice this. -/
def hiddenBit : Nat := Nat.pow 2 52

def ofBits (bits : Nat) : Binary64 :=
  let negative := bits / Nat.pow 2 63 % 2 = 1
  let biased := bits / hiddenBit % 2048
  let fraction := bits % hiddenBit
  if biased = 2047 then
    if fraction = 0 then .infinite negative else .nan
  else if biased = 0 then .finite negative fraction leastExponent
  else .finite negative (hiddenBit + fraction) (biased + leastExponent - 1)

def ofFloat (value : Float) : Binary64 :=
  ofBits value.toBits.toNat

/-- One and a half is three halves, with the significand filled up to 53 bits. -/
example : ofBits 0x3FF8000000000000 = .finite false (3 * 2 ^ 51) (-52) := by decide

/-- The floor of the binary logarithm of a positive quotient. -/
def order (numerator denominator : Nat) : Int :=
  let estimate : Int := numerator.log2 - denominator.log2
  if numerator * Nat.pow 2 (-estimate).toNat < denominator * Nat.pow 2 estimate.toNat then
    estimate - 1
  else estimate

/-- The bits of `significand * 2 ^ exponent`, for a significand of at most `2 *
hiddenBit` that is smaller than `hiddenBit` only at the least exponent. There are
none beyond the largest double. -/
def toBits? (significand : Nat) (exponent : Int) : Option Nat :=
  let bits :=
    if significand < hiddenBit then significand
    else (exponent - leastExponent + 1).toNat * hiddenBit + (significand - hiddenBit)
  if bits < 2047 * hiddenBit then some bits else none

/-- The bits of the double nearest to a quotient, a tie going to the even
significand; none when the quotient rounds beyond the largest double. -/
def nearestBits? (numerator denominator : Nat) : Option Nat :=
  if numerator = 0 then some 0
  else
    let exponent := max (order numerator denominator - 52) leastExponent
    toBits?
      (roundQuotient (numerator * Nat.pow 2 (-exponent).toNat)
        (denominator * Nat.pow 2 exponent.toNat))
      exponent

/-- The double nearest to a third, and the two sides of the largest finite quotient.
-/
example : nearestBits? 1 3 = some 0x3FD5555555555555 := by decide +kernel
example : nearestBits? (2 ^ 1024 - 2 ^ 970) 1 = none := by decide +kernel
example : nearestBits? (2 ^ 1024 - 2 ^ 970 - 1) 1 = some 0x7FEFFFFFFFFFFFFF := by decide +kernel

def nearest? (numerator denominator : Nat) : Option Float :=
  (nearestBits? numerator denominator).map fun bits => Float.ofBits (UInt64.ofNat bits)

def ofInt? (value : Int) : Option Float :=
  (nearest? value.natAbs 1).map fun magnitude => if value < 0 then -magnitude else magnitude

/-- How an integer compares with the exact value of a double; not at all with a NaN.
-/
def compareInt (whole : Int) : Binary64 → Option Ordering
  | .nan => none
  | .infinite negative => some (if negative then .gt else .lt)
  | .finite negative significand exponent =>
      let magnitude : Int := significand * Nat.pow 2 exponent.toNat
      some (compare (whole * Nat.pow 2 (-exponent).toNat)
        (if negative then -magnitude else magnitude))

/-- Two to the 53 plus one lies above the double it would round to. -/
example : compareInt (2 ^ 53 + 1) (.finite false (2 ^ 52) 1) = some .gt := by decide

end Binary64

end Reattempt
