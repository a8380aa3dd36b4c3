import Reattempt.Number.Scalar
import Reattempt.Text.DecimalDigit
import Reattempt.Text.Quoted

/-! Reading numbers. A text of decimal digits with an optional minus sign is a whole
number; a text with a point or an exponent, or the name of a special value, is a
double. Where only one kind of number is wanted, the digits may be those of any
script, blanks may surround the number, and underscores may stand between its digits.
A whole number with more digits than the limit is refused, whatever its value.
-/

namespace Reattempt

def digitsValue (digits : List Char) : Nat :=
  digits.foldl (fun value digit => 10 * value + (digit.toNat - '0'.toNat)) 0

namespace Decimal

def infinity : Float :=
  Float.ofBits 0x7FF0000000000000

def nan : Float :=
  Float.ofBits 0x7FF8000000000000

/-- The double nearest to a decimal. Decimals far outside the range of doubles are
decided by their order of magnitude. -/
def toFloat (decimal : Decimal) : Float :=
  let order := decimal.exponent + (Nat.toDigits 10 decimal.digits).length
  if decimal.digits = 0 ∨ order < -400 then 0.0
  else if 400 < order then infinity
  else
    let nearest := Binary64.nearest? (decimal.digits * Nat.pow 10 decimal.exponent.toNat)
      (Nat.pow 10 (-decimal.exponent).toNat)
    nearest.getD infinity

end Decimal

inductive ReadingFault where
  | tooManyDigits (digits : Nat)
  | notWhole (text : String)
  | notReal (text : String)
  deriving DecidableEq, Repr

namespace ReadingFault

/-- A text in quotes for a message that must not grow with it. -/
def shortened (text : String) : String :=
  String.ofList ((quoted text).toList.take 200)

def message : ReadingFault → String
  | .tooManyDigits digits =>
      s!"Exceeds the limit ({digitLimit} digits) for integer string conversion: " ++
        s!"value has {digits} digits; use sys.set_int_max_str_digits() to increase the limit"
  | .notWhole text => s!"invalid literal for int() with base 10: {shortened text}"
  | .notReal text => s!"could not convert string to float: {quoted text}"

end ReadingFault

namespace Scalar

def isBlank (character : Char) : Bool :=
  let code := character.toNat
  (0x09 ≤ code && code ≤ 0x0D) || (0x2000 ≤ code && code ≤ 0x200A) ||
    code ∈ [0x20, 0x85, 0xA0, 0x1680, 0x2028, 0x2029, 0x202F, 0x205F, 0x3000]

def trimmed (characters : List Char) : List Char :=
  ((characters.dropWhile isBlank).reverse.dropWhile isBlank).reverse

/-- Leave out the underscores. Each must have a digit on both sides. -/
def ungrouped? : (previous : Char) → List Char → Option (List Char)
  | _, [] => some []
  | previous, '_' :: next :: rest =>
      if previous.isDigit && next.isDigit then (ungrouped? next rest).map (next :: ·) else none
  | _, character :: rest => (ungrouped? character rest).map (character :: ·)

def bareNumber? (text : String) : Option (List Char) :=
  ungrouped? ' ' ((trimmed text.toList).map westernDigit)

/-- Split off a sign; `true` is a minus. -/
def splitSign : List Char → Bool × List Char
  | '-' :: rest => (true, rest)
  | '+' :: rest => (false, rest)
  | rest => (false, rest)

def readExponent? : List Char → Option Int
  | [] => some 0
  | mark :: rest =>
      let (negative, digits) := splitSign rest
      if (mark = 'e' ∨ mark = 'E') ∧ !digits.isEmpty ∧ digits.all Char.isDigit then
        some (if negative then -digitsValue digits else digitsValue digits)
      else none

def readDecimal? (characters : List Char) : Option Decimal :=
  let whole := characters.takeWhile Char.isDigit
  let afterWhole := characters.dropWhile Char.isDigit
  let fraction :=
    match afterWhole with
    | '.' :: rest => rest.takeWhile Char.isDigit
    | _ => []
  let rest :=
    match afterWhole with
    | '.' :: rest => rest.dropWhile Char.isDigit
    | rest => rest
  if whole.isEmpty ∧ fraction.isEmpty then none
  else
    (readExponent? rest).map fun exponent =>
      ⟨digitsValue (whole ++ fraction), exponent - fraction.length⟩

def readMagnitude? (characters : List Char) : Option Float :=
  match String.ofList (characters.map Char.toLower) with
  | "inf" | "infinity" => some Decimal.infinity
  | "nan" => some Decimal.nan
  | _ => (readDecimal? characters).map Decimal.toFloat

def readReal? (text : String) : Option Float := do
  let (negative, magnitude) := splitSign (← bareNumber? text)
  let value ← readMagnitude? magnitude
  return if negative then -value else value

def signedValue (negative : Bool) (digits : List Char) : Int :=
  if negative then -digitsValue digits else digitsValue digits

/-- Read a whole number. The number ends at the first character that is no digit and
no underscore; what follows it is looked at only after its digits are counted. -/
def readWhole (text : String) : Except ReadingFault Int :=
  let (negative, magnitude) := splitSign ((text.toList.dropWhile isBlank).map westernDigit)
  let inNumber (character : Char) : Bool := character.isDigit || character = '_'
  match ungrouped? ' ' (magnitude.takeWhile inNumber) with
  | none => .error (.notWhole text)
  | some digits =>
      if !digits.all Char.isDigit then .error (.notWhole text)
      else if digitLimit < digits.length then .error (.tooManyDigits digits.length)
      else if digits.isEmpty || !(magnitude.dropWhile inNumber).all isBlank then
        .error (.notWhole text)
      else .ok (signedValue negative digits)

/-- Whether a text has nothing but ASCII digits after an optional minus sign. -/
def isPlainWhole (text : String) : Bool :=
  let digits :=
    match text.toList with
    | '-' :: rest => rest
    | characters => characters
  !digits.isEmpty && digits.all Char.isDigit

def read? (text : String) : Option Scalar :=
  if isPlainWhole text then
    let (negative, digits) := splitSign text.toList
    some (.whole (signedValue negative digits))
  else (readReal? text).map .real

def read (text : String) : Except ReadingFault Scalar :=
  if isPlainWhole text then (readWhole text).map .whole
  else
    match readReal? text with
    | some value => .ok (.real value)
    | none => .error (.notReal text)

end Scalar

end Reattempt
