import Reattempt.Calendar
import Reattempt.Number.Reading
import Reattempt.Value

/-! Timestamps of log records, in universal time with milliseconds. The seconds are
counted from the start of 1970 and rounded down; the milliseconds are given apart
and cut off to a whole number. Both are given as values of any kind: a flag counts
as one or zero, and the milliseconds may be written as a text. -/

namespace Reattempt

inductive TimestampError where
  | secondsOfOtherType (typeName : String)
  | secondsNotANumber
  | secondsOutOfRange
  | yearOutOfRange
  | yearTooLarge
  | millisecondsOfOtherType (typeName : String)
  | millisecondsUnreadable (fault : ReadingFault)
  | milliseconds (fault : ArithmeticFault)
  deriving DecidableEq, Repr

namespace TimestampError

def message : TimestampError → String
  | .secondsOfOtherType typeName => s!"'{typeName}' object cannot be interpreted as an integer"
  | .secondsNotANumber => "Invalid value NaN (not a number)"
  | .secondsOutOfRange => "timestamp out of range for platform time_t"
  | .yearOutOfRange => "[Errno 75] Value too large for defined data type"
  | .yearTooLarge => "signed integer is greater than maximum"
  | .millisecondsOfOtherType typeName =>
      "int() argument must be a string, a bytes-like object or a real number, not " ++
        s!"'{typeName}'"
  | .millisecondsUnreadable fault => fault.message
  | .milliseconds fault => fault.message

def failureType : TimestampError → FailureType
  | .secondsOfOtherType _ | .millisecondsOfOtherType _ => .type
  | .secondsNotANumber | .millisecondsUnreadable _ => .value
  | .secondsOutOfRange | .yearTooLarge => .overflow
  | .yearOutOfRange => .system
  | .milliseconds fault => fault.failureType

end TimestampError

namespace Timestamp

def floor? : Scalar → Except TimestampError Int
  | .whole seconds => .ok seconds
  | .real seconds =>
      match Binary64.ofFloat seconds with
      | .nan => .error .secondsNotANumber
      | .infinite _ => .error .secondsOutOfRange
      | .finite negative significand exponent =>
          let scaled : Int := significand * Nat.pow 2 exponent.toNat
          .ok ((if negative then -scaled else scaled) / Nat.pow 2 (-exponent).toNat)

def seconds? : Value → Except TimestampError Int
  | .flag value => .ok (if value then 1 else 0)
  | .number value => floor? value
  | value => .error (.secondsOfOtherType value.typeName)

def milliseconds? : Value → Except TimestampError Int
  | .flag value => .ok (if value then 1 else 0)
  | .number value => value.truncate.mapError .milliseconds
  | .text value => (Scalar.readWhole value).mapError .millisecondsUnreadable
  | value => .error (.millisecondsOfOtherType value.typeName)

def twoDigits (value : Nat) : List Char :=
  paddedDigits 2 value

def signedDigits (width : Nat) (value : Int) : List Char :=
  if value < 0 then '-' :: paddedDigits (width - 1) value.natAbs
  else paddedDigits width value.natAbs

def dateText (date : Date) : List Char :=
  (toString date.year).toList ++ '-' :: twoDigits date.month ++ '-' :: twoDigits date.day

def timeText (secondOfDay : Nat) : List Char :=
  twoDigits (secondOfDay / 3600) ++ ':' :: twoDigits (secondOfDay / 60 % 60) ++
    ':' :: twoDigits (secondOfDay % 60)

def characters (seconds milliseconds : Int) : List Char :=
  dateText (Date.ofDayNumber (seconds / 86400)) ++ 'T' :: timeText (seconds % 86400).toNat ++
    '.' :: signedDigits 3 milliseconds ++ ['Z']

example : String.ofList (characters 951782400 7) = "2000-02-29T00:00:00.007Z" := by decide +kernel

/-- The seconds must fit into 64 bits. The year must fit into 32, counted from 1900
as well as from zero. -/
def checkRange (seconds : Int) : Except TimestampError Unit :=
  let year := (Date.ofDayNumber (seconds / 86400)).year
  if seconds < -Int.pow 2 63 ∨ Int.pow 2 63 ≤ seconds then .error .secondsOutOfRange
  else if year - 1900 < -Int.pow 2 31 ∨ Int.pow 2 31 ≤ year - 1900 then .error .yearOutOfRange
  else if Int.pow 2 31 ≤ year then .error .yearTooLarge
  else .ok ()

def text (seconds milliseconds : Value) : Except TimestampError String := do
  let seconds ← seconds? seconds
  checkRange seconds
  let milliseconds ← milliseconds? milliseconds
  return String.ofList (characters seconds milliseconds)

end Timestamp

end Reattempt
