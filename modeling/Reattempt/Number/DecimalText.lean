import Reattempt.Number.ShortestDecimal

/-! How doubles are written in decimal: with as many digits as reading back needs,
or with two places after the point. -/

namespace Reattempt

/-- The choices of a decimal output format. Numbers whose leading digit has a
decimal exponent from `firstPositional` up to but not including `firstExponential`
are written without an exponent, all others with an exponent of at least
`exponentWidth` digits. -/
structure DecimalStyle where
  firstPositional : Int
  firstExponential : Int
  exponentWidth : Nat
  nan : String
  infinity : String

namespace DecimalStyle

def plain : DecimalStyle where
  firstPositional := -4
  firstExponential := 16
  exponentWidth := 2
  nan := "nan"
  infinity := "inf"

def json : DecimalStyle :=
  { plain with nan := "NaN", infinity := "Infinity" }

end DecimalStyle

def zeros (count : Nat) : List Char :=
  List.replicate count '0'

def paddedDigits (width value : Nat) : List Char :=
  let digits := Nat.toDigits 10 value
  zeros (width - digits.length) ++ digits

namespace Decimal

def positionalText (digits : List Char) (leading : Int) : List Char :=
  if leading < 0 then '0' :: '.' :: zeros (-leading - 1).toNat ++ digits
  else
    let places := leading.toNat + 1
    let fraction := digits.drop places
    digits.take places ++ zeros (places - digits.length) ++
      '.' :: (if fraction.isEmpty then ['0'] else fraction)

def exponentialText (width : Nat) (digits : List Char) (leading : Int) : List Char :=
  let fraction := digits.drop 1
  digits.take 1 ++ (if fraction.isEmpty then [] else '.' :: fraction) ++
    'e' :: (if leading < 0 then '-' else '+') :: paddedDigits width leading.natAbs

/-- A nonnegative decimal in the given style. -/
def text (style : DecimalStyle) (decimal : Decimal) : List Char :=
  let digits := Nat.toDigits 10 decimal.digits
  let leading := decimal.exponent + digits.length - 1
  if style.firstPositional ≤ leading ∧ leading < style.firstExponential then
    positionalText digits leading
  else exponentialText style.exponentWidth digits leading

example : String.ofList (text .plain ⟨1, 15⟩) = "1000000000000000.0" := by decide +kernel
example : String.ofList (text .plain ⟨1, 16⟩) = "1e+16" := by decide +kernel
example : String.ofList (text .plain ⟨15, -6⟩) = "1.5e-05" := by decide +kernel
example : String.ofList (text .plain ⟨123, -6⟩) = "0.000123" := by decide +kernel

end Decimal

namespace Binary64

def signed (negative : Bool) (magnitude : List Char) : List Char :=
  if negative then '-' :: magnitude else magnitude

/-- The shortest decimal text that reads back as the double. -/
def text (style : DecimalStyle) : Binary64 → String
  | .nan => style.nan
  | .infinite negative => String.ofList (signed negative style.infinity.toList)
  | .finite negative significand exponent =>
      String.ofList (signed negative ((Decimal.shortest significand exponent).text style))

/-- The exact value rounded to two places after the point, a tie going to the even
last digit. -/
def fixedText : Binary64 → String
  | .nan => DecimalStyle.plain.nan
  | .infinite negative => String.ofList (signed negative DecimalStyle.plain.infinity.toList)
  | .finite negative significand exponent =>
      let hundredths :=
        roundQuotient (100 * significand * Nat.pow 2 exponent.toNat) (Nat.pow 2 (-exponent).toNat)
      String.ofList (signed negative
        (Nat.toDigits 10 (hundredths / 100) ++ '.' :: paddedDigits 2 (hundredths % 100)))

/-- An eighth lies halfway between 0.12 and 0.13. -/
example : fixedText (.finite false 1 (-3)) = "0.12" := by decide +kernel

end Binary64

end Reattempt
