import Reattempt.Number.DecimalText

/-! Doubles with a precision that is asked for: so many places after the point, or so
many digits altogether. The exact value is rounded once, a tie going to the even last
digit. -/

namespace Reattempt

/-- With a point and places after it, with an exponent, or with the shorter of the
two. -/
inductive RealForm where
  | positional
  | exponential
  | shorter
  deriving DecidableEq, Repr

namespace Decimal

def pointed (point : Bool) (whole fraction : List Char) : List Char :=
  if fraction.isEmpty && !point then whole else whole ++ '.' :: fraction

def lastDigits (places value : Nat) : List Char :=
  if places = 0 then [] else paddedDigits places (value % Nat.pow 10 places)

/-- The digits of a quotient before the point and as many after it as asked for. -/
def positionalDigits (numerator denominator places : Nat) : List Char × List Char :=
  let scaled := roundQuotient (numerator * Nat.pow 10 places) denominator
  (Nat.toDigits 10 (scaled / Nat.pow 10 places), lastDigits places scaled)

/-- The leading digit of a quotient, as many digits after it as asked for, and the
exponent of the leading digit. Rounding may carry into one more digit. -/
def exponentialDigits (numerator denominator places : Nat) : List Char × List Char × Int :=
  if numerator = 0 then (['0'], zeros places, 0)
  else
    let leading := order numerator denominator
    let shift := places - leading
    let scaled := roundQuotient (numerator * Nat.pow 10 shift.toNat)
      (denominator * Nat.pow 10 (-shift).toNat)
    if scaled = Nat.pow 10 (places + 1) then (['1'], zeros places, leading + 1)
    else (Nat.toDigits 10 (scaled / Nat.pow 10 places), lastDigits places scaled, leading)

def exponentText (exponent : Int) : List Char :=
  'e' :: (if exponent < 0 then '-' else '+') :: paddedDigits 2 exponent.natAbs

def withoutTrailingZeros (digits : List Char) : List Char :=
  (digits.reverse.dropWhile (· = '0')).reverse

/-- A quotient in the given form. The shorter form counts all its digits, at least
one, and drops zeros at its end unless a point is asked for. -/
def rounded (form : RealForm) (places : Nat) (point : Bool) (numerator denominator : Nat) :
    List Char :=
  match form with
  | .positional =>
      let (whole, fraction) := positionalDigits numerator denominator places
      pointed point whole fraction
  | .exponential =>
      let (whole, fraction, exponent) := exponentialDigits numerator denominator places
      pointed point whole fraction ++ exponentText exponent
  | .shorter =>
      let digits := max places 1
      let trim := if point then id else withoutTrailingZeros
      let (whole, fraction, exponent) := exponentialDigits numerator denominator (digits - 1)
      if exponent < -4 ∨ digits ≤ exponent then
        pointed point whole (trim fraction) ++ exponentText exponent
      else
        let (whole, fraction) :=
          positionalDigits numerator denominator (digits - 1 - exponent).toNat
        pointed point whole (trim fraction)

example : String.ofList (rounded .shorter 3 false 1234 10000000) = "0.000123" := by
  decide +kernel

end Decimal

namespace Binary64

def rounded (form : RealForm) (places : Nat) (point : Bool) : Binary64 → List Char
  | .nan => DecimalStyle.plain.nan.toList
  | .infinite negative => signed negative DecimalStyle.plain.infinity.toList
  | .finite negative significand exponent =>
      signed negative (Decimal.rounded form places point
        (significand * Nat.pow 2 exponent.toNat) (Nat.pow 2 (-exponent).toNat))

/-- Fifteen has two digits, of which one is left. -/
example : String.ofList (rounded .exponential 0 false (.finite false 15 0)) = "2e+01" := by
  decide +kernel

end Binary64

end Reattempt
