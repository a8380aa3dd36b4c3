import Reattempt.Number.Precision
import Reattempt.Value

/-! Single conversions of values into text: as which kind of text a value is wanted,
with which sign, in which width and to which precision. -/

namespace Reattempt

inductive TemplateError where
  | tooFewArguments
  | tooManyArguments
  | incomplete
  | incompleteKey
  | noKeys
  | missingKey (key : String)
  | keyIntoList
  | sizeNotWhole
  | widthTooLarge
  | widthOutOfRange
  | precisionTooLarge
  | precisionOutOfRange
  | precisionUnreachable
  | notANumber (conversion : Char) (typeName : String)
  | notAWhole (conversion : Char) (typeName : String)
  | notAReal (typeName : String)
  | notACharacter
  | characterOutOfRange
  | unsupported (conversion : Char) (index : Nat)
  | arithmetic (fault : ArithmeticFault)
  | unwritten (refusal : Refusal)
  deriving DecidableEq, Repr

namespace TemplateError

/-- A message shows the conversion itself only if it is an ASCII character. -/
def visible (conversion : Char) : Char :=
  if 31 ≤ conversion.toNat ∧ conversion.toNat ≤ 126 then conversion else '?'

def message : TemplateError → String
  | .tooFewArguments => "not enough arguments for format string"
  | .tooManyArguments => "not all arguments converted during string formatting"
  | .incomplete => "incomplete format"
  | .incompleteKey => "incomplete format key"
  | .noKeys => "format requires a mapping"
  | .missingKey key => quoted key
  | .keyIntoList => "list indices must be integers or slices, not str"
  | .sizeNotWhole => "* wants int"
  | .widthTooLarge => "width too big"
  | .widthOutOfRange => "Python int too large to convert to C ssize_t"
  | .precisionTooLarge => "precision too big"
  | .precisionOutOfRange => "Python int too large to convert to C int"
  | .precisionUnreachable => "precision too large"
  | .notANumber conversion typeName =>
      s!"%{conversion} format: a real number is required, not {typeName}"
  | .notAWhole conversion typeName =>
      s!"%{conversion} format: an integer is required, not {typeName}"
  | .notAReal typeName => s!"must be real number, not {typeName}"
  | .notACharacter => "%c requires int or char"
  | .characterOutOfRange => "%c arg not in range(0x110000)"
  | .unsupported conversion index =>
      s!"unsupported format character '{visible conversion}' " ++
        s!"(0x{String.ofList (Nat.toDigits 16 conversion.toNat)}) at index {index}"
  | .arithmetic fault => fault.message
  | .unwritten refusal => refusal.message

def failureType : TemplateError → FailureType
  | .incomplete | .incompleteKey | .widthTooLarge | .precisionTooLarge
  | .unsupported _ _ => .value
  | .missingKey _ => .key
  | .widthOutOfRange | .precisionOutOfRange | .precisionUnreachable
  | .characterOutOfRange => .overflow
  | .arithmetic fault => fault.failureType
  | .unwritten refusal => refusal.type
  | _ => .type

end TemplateError

/-- What stands between a percent sign and the letter of a conversion. -/
structure Directive where
  toLeft : Bool := false
  plus : Bool := false
  space : Bool := false
  alternate : Bool := false
  zero : Bool := false
  width : Nat := 0
  precision : Option Nat := none
  deriving Repr

namespace Directive

/-- The directive with a flag set, if the character is one. -/
def flag? (directive : Directive) : Char → Option Directive
  | '-' => some { directive with toLeft := true }
  | '+' => some { directive with plus := true }
  | ' ' => some { directive with space := true }
  | '#' => some { directive with alternate := true }
  | '0' => some { directive with zero := true }
  | _ => none

/-! ## Placing a text -/

def takeSign (directive : Directive) : List Char → List Char × List Char
  | '-' :: rest => (['-'], rest)
  | text =>
      if directive.plus then (['+'], text)
      else if directive.space then ([' '], text)
      else ([], text)

def place (directive : Directive) {α : Type} (blank : α) (text : List α) : List α :=
  let gap := List.replicate (directive.width - text.length) blank
  if directive.toLeft then text ++ gap else gap ++ text

/-- Place a number. Zeros fill it up between its sign with its mark and its digits. -/
def placeNumber (directive : Directive) (mark : Nat) (number : List Char) : List Char :=
  let (sign, text) := directive.takeSign number
  let front := sign ++ text.take mark
  let digits := text.drop mark
  if directive.zero && !directive.toLeft then
    front ++ zeros (directive.width - (front.length + digits.length)) ++ digits
  else directive.place ' ' (front ++ digits)

/-! ## Kinds of conversions -/

/-- The base of a conversion to a whole number, and how such a number is marked. -/
def base? : Char → Option (Nat × List Char)
  | 'd' | 'i' | 'u' => some (10, [])
  | 'o' => some (8, ['0', 'o'])
  | 'x' | 'X' => some (16, ['0', 'x'])
  | _ => none

def realForm? : Char → Option RealForm
  | 'e' | 'E' => some .exponential
  | 'f' | 'F' => some .positional
  | 'g' | 'G' => some .shorter
  | _ => none

/-- The number of a whole conversion. A double loses its fraction in base ten and is
refused in the others; a flag counts as one or zero. -/
def wholeOf (conversion : Char) (base : Nat) : Value → Except TemplateError Int
  | .flag value => .ok (if value then 1 else 0)
  | .number (.whole value) => .ok value
  | value =>
      if base = 10 then
        match value with
        | .number value => value.truncate.mapError .arithmetic
        | value => .error (.notANumber conversion value.typeName)
      else .error (.notAWhole conversion value.typeName)

/-- The digits of a whole number; only those in base ten are limited. -/
def digitsOf (base : Nat) (value : Int) : Except TemplateError (List Char) :=
  if base = 10 ∧ !(Scalar.whole value).isWritable then .error (.arithmetic .tooManyDigits)
  else .ok (Nat.toDigits base value.natAbs)

def precisionBound : Nat := Nat.pow 2 31 - 4

def wholeText (directive : Directive) (conversion : Char) (base : Nat) (mark : List Char)
    (value : Value) : Except TemplateError (List Char) := do
  let number ← wholeOf conversion base value
  let precision := directive.precision.getD 0
  if precisionBound < precision then throw .precisionUnreachable
  let digits ← digitsOf base number
  let mark := if directive.alternate then mark else []
  let text := Binary64.signed (number < 0) (mark ++ zeros (precision - digits.length) ++ digits)
  let text := if conversion.isUpper then text.map Char.toUpper else text
  return directive.placeNumber mark.length text

def realOf : Value → Except TemplateError Float
  | .flag value => .ok (if value then 1.0 else 0.0)
  | .number value => value.toReal.mapError .arithmetic
  | value => .error (.notAReal value.typeName)

def defaultPlaces : Nat := 6

def realText (directive : Directive) (conversion : Char) (form : RealForm) (value : Value) :
    Except TemplateError (List Char) := do
  let number := Binary64.ofFloat (← realOf value)
  let text := number.rounded form (directive.precision.getD defaultPlaces) directive.alternate
  let text := if conversion.isUpper then text.map Char.toUpper else text
  return directive.placeNumber 0 text

def checkCode (code : Int) : Except TemplateError Nat :=
  if code < 0 ∨ 0x110000 ≤ code then .error .characterOutOfRange else .ok code.toNat

/-- The code of the only character of a text, or a number as a code. Half of a
surrogate pair has a code as well. -/
def codeOf : Value → Except TemplateError Nat
  | .text value =>
      match value.toList with
      | [character] => .ok character.toNat
      | _ => .error .notACharacter
  | .flag value => checkCode (if value then 1 else 0)
  | .number (.whole value) => checkCode value
  | _ => .error .notACharacter

def escaped (text : List Char) : List Char :=
  text.flatMap fun character =>
    if character.toNat < 0x80 then [character] else '\\' :: Quoted.escapeCode character.toNat

def wordedText (directive : Directive) (wording : Wording) (finish : List Char → List Char) :
    Except TemplateError (List Char) := do
  let text := finish (← wording.mapError .unwritten).toList
  return directive.place ' ' (text.take (directive.precision.getD text.length))

/-- The text of a value as codes, given the letter of the conversion and its place in
the template. -/
def convert (directive : Directive) (conversion : Char) (index : Nat) (value : Value) :
    Except TemplateError (List Nat) :=
  match conversion, base? conversion, realForm? conversion with
  | 'c', _, _ => return directive.place ' '.toNat [← codeOf value]
  | 's', _, _ => return (← directive.wordedText value.plain id).map Char.toNat
  | 'r', _, _ => return (← directive.wordedText value.shown id).map Char.toNat
  | 'a', _, _ => return (← directive.wordedText value.shown escaped).map Char.toNat
  | _, some (base, mark), _ =>
      return (← directive.wholeText conversion base mark value).map Char.toNat
  | _, none, some form => return (← directive.realText conversion form value).map Char.toNat
  | _, none, none => .error (.unsupported conversion index)

end Directive

end Reattempt
