import Reattempt.Json.Basic
import Reattempt.Number.Reading

/-! Reading JSON texts. Fields keep their order and repeated keys are kept. Doubles
that are no numbers of the grammar are read in the form in which they are written. -/

namespace Reattempt.Json

def isBlank (character : Char) : Bool :=
  character = ' ' || character = '\n' || character = '\r' || character = '\t'

def skipBlanks (characters : List Char) : List Char :=
  characters.dropWhile isBlank

/-! ## Texts

A text is first read into units: code points that stand for themselves, and escapes. -/

def hexValue? (character : Char) : Option Nat :=
  if character.isDigit then some (character.toNat - '0'.toNat)
  else if 'a' ≤ character ∧ character ≤ 'f' then some (character.toNat - 'a'.toNat + 10)
  else if 'A' ≤ character ∧ character ≤ 'F' then some (character.toNat - 'A'.toNat + 10)
  else none

def unit? (first second third fourth : Char) : Option Nat := do
  let first ← hexValue? first
  let second ← hexValue? second
  let third ← hexValue? third
  let fourth ← hexValue? fourth
  return ((first * 16 + second) * 16 + third) * 16 + fourth

/-- What a backslash and this character stand for. -/
def shortEscape? : Char → Option Nat
  | '\x22' => some 0x22
  | '\\' => some 0x5C
  | '/' => some 0x2F
  | 'b' => some 0x08
  | 'f' => some 0x0C
  | 'n' => some 0x0A
  | 'r' => some 0x0D
  | 't' => some 0x09
  | _ => none

/-- Read up to the closing quote; the opening one has been read. -/
def readUnits : List Char → Option (List Nat × List Char)
  | [] => none
  | '\x22' :: rest => some ([], rest)
  | '\\' :: 'u' :: first :: second :: third :: fourth :: rest => do
      let unit ← unit? first second third fourth
      let (units, rest) ← readUnits rest
      return (unit :: units, rest)
  | '\\' :: mark :: rest => do
      let unit ← shortEscape? mark
      let (units, rest) ← readUnits rest
      return (unit :: units, rest)
  | character :: rest =>
      if character.toNat < 0x20 then none
      else do
        let (units, rest) ← readUnits rest
        return (character.toNat :: units, rest)

/-- Join surrogate pairs. A surrogate that stands alone is no character. -/
def joinUnits : List Nat → Option (List Char)
  | [] => some []
  | [unit] => if unit.isValidChar then some [Char.ofNat unit] else none
  | high :: low :: rest =>
      if high.isValidChar then do
        return Char.ofNat high :: (← joinUnits (low :: rest))
      else if 0xD800 ≤ high ∧ high < 0xDC00 ∧ 0xDC00 ≤ low ∧ low < 0xE000 then do
        return Char.ofNat (0x10000 + (high - 0xD800) * 0x400 + (low - 0xDC00)) ::
          (← joinUnits rest)
      else none

def readText (characters : List Char) : Option (String × List Char) := do
  let (units, rest) ← readUnits characters
  return (String.ofList (← joinUnits units), rest)

/-! ## Numbers -/

def isWholePart (digits : List Char) : Bool :=
  !digits.isEmpty && (digits.length = 1 || digits.head? != some '0')

def isExponent : List Char → Bool
  | [] => true
  | mark :: rest =>
      (mark = 'e' || mark = 'E') &&
        (let (_, digits) := Scalar.splitSign rest
         !digits.isEmpty && digits.all Char.isDigit)

def isNumber (characters : List Char) : Bool :=
  let magnitude :=
    match characters with
    | '-' :: rest => rest
    | rest => rest
  let rest := magnitude.dropWhile Char.isDigit
  isWholePart (magnitude.takeWhile Char.isDigit) &&
    match rest with
    | '.' :: fraction =>
        !(fraction.takeWhile Char.isDigit).isEmpty && isExponent (fraction.dropWhile Char.isDigit)
    | rest => isExponent rest

def inNumber (character : Char) : Bool :=
  character.isDigit || character = '-' || character = '+' || character = '.' ||
    character = 'e' || character = 'E'

def readNumber (characters : List Char) : Option (Json × List Char) := do
  let digits := characters.takeWhile inNumber
  if isNumber digits then
    let value ← Scalar.read? (String.ofList digits)
    return (.number value, characters.dropWhile inNumber)
  else none

/-! ## Values -/

def expect? : (literal characters : List Char) → Option (List Char)
  | [], characters => some characters
  | _ :: _, [] => none
  | wanted :: literal, character :: rest =>
      if wanted = character then expect? literal rest else none

mutual
def readValue : (fuel : Nat) → List Char → Option (Json × List Char)
  | 0, _ => none
  | fuel + 1, characters =>
      match skipBlanks characters with
      | 'n' :: rest => (expect? "ull".toList rest).map fun rest => (.null, rest)
      | 't' :: rest => (expect? "rue".toList rest).map fun rest => (.flag true, rest)
      | 'f' :: rest => (expect? "alse".toList rest).map fun rest => (.flag false, rest)
      | 'N' :: rest =>
          (expect? "aN".toList rest).map fun rest => (.number (.real Decimal.nan), rest)
      | 'I' :: rest =>
          (expect? "nfinity".toList rest).map fun rest => (.number (.real Decimal.infinity), rest)
      | '-' :: 'I' :: rest =>
          (expect? "nfinity".toList rest).map fun rest =>
            (.number (.real (-Decimal.infinity)), rest)
      | '\x22' :: rest => (readText rest).map fun (content, rest) => (.text content, rest)
      | '[' :: rest =>
          match skipBlanks rest with
          | ']' :: rest => some (.array [], rest)
          | rest => (readItems fuel rest).map fun (items, rest) => (.array items, rest)
      | '\x7b' :: rest =>
          match skipBlanks rest with
          | '\x7d' :: rest => some (.object [], rest)
          | rest => (readFields fuel rest).map fun (fields, rest) => (.object fields, rest)
      | rest => readNumber rest

def readItems : (fuel : Nat) → List Char → Option (List Json × List Char)
  | 0, _ => none
  | fuel + 1, characters => do
      let (item, rest) ← readValue fuel characters
      match skipBlanks rest with
      | ',' :: rest => (readItems fuel rest).map fun (items, rest) => (item :: items, rest)
      | ']' :: rest => some ([item], rest)
      | _ => none

def readFields : (fuel : Nat) → List Char → Option (List (String × Json) × List Char)
  | 0, _ => none
  | fuel + 1, characters => do
      let rest ← expect? ['\x22'] (skipBlanks characters)
      let (key, rest) ← readText rest
      let rest ← expect? [':'] (skipBlanks rest)
      let (value, rest) ← readValue fuel rest
      match skipBlanks rest with
      | ',' :: rest =>
          (readFields fuel rest).map fun (fields, rest) => ((key, value) :: fields, rest)
      | '\x7d' :: rest => some ([(key, value)], rest)
      | _ => none
end

/-- Read a whole text. Every value has a character of its own, so their number
bounds the depth. -/
def read? (text : String) : Option Json := do
  let characters := text.toList
  let (value, rest) ← readValue (2 * characters.length + 2) characters
  if (skipBlanks rest).isEmpty then return value else none

end Reattempt.Json
