import Reattempt.Calendar
import Reattempt.Failure.Type
import Reattempt.Number.DecimalText

/-! Points in time as they are written down: a date, a time of day down to the
microsecond and, if it is known, the distance from universal time. -/

namespace Reattempt

structure Moment where
  date : Date
  hour : Nat
  minute : Nat
  second : Nat
  microsecond : Nat
  /-- Minutes ahead of universal time. -/
  offset : Option Int
  deriving DecidableEq, Repr

inductive MomentError where
  | offsetDaysBeyondWord
  | offsetDaysOutOfRange (days : Int)
  | offsetOutOfRange (minutes : Int)
  | partBeyondLongWord
  | partAboveWord
  | partBelowWord
  | yearOutOfRange (year : Int)
  | monthOutOfRange
  | dayOutOfRange
  | hourOutOfRange
  | minuteOutOfRange
  | secondOutOfRange
  | microsecondOutOfRange
  deriving DecidableEq, Repr

namespace Moment

/-- A span of whole minutes, written as days and the seconds left over. -/
def shownSpan (minutes : Int) : String :=
  let days := minutes / 1440
  let seconds := minutes % 1440 * 60
  if days = 0 then
    if seconds = 0 then "datetime.timedelta(0)" else s!"datetime.timedelta(seconds={seconds})"
  else if seconds = 0 then s!"datetime.timedelta(days={days})"
  else s!"datetime.timedelta(days={days}, seconds={seconds})"

def maximalDays : Nat := 999999999

end Moment

namespace MomentError

def message : MomentError → String
  | .offsetDaysBeyondWord => "Python int too large to convert to C int"
  | .offsetDaysOutOfRange days => s!"days={days}; must have magnitude <= {Moment.maximalDays}"
  | .offsetOutOfRange minutes =>
      "offset must be a timedelta strictly between -timedelta(hours=24) and " ++
        s!"timedelta(hours=24), not {Moment.shownSpan minutes}."
  | .partBeyondLongWord => "Python int too large to convert to C long"
  | .partAboveWord => "signed integer is greater than maximum"
  | .partBelowWord => "signed integer is less than minimum"
  | .yearOutOfRange year => s!"year {year} is out of range"
  | .monthOutOfRange => "month must be in 1..12"
  | .dayOutOfRange => "day is out of range for month"
  | .hourOutOfRange => "hour must be in 0..23"
  | .minuteOutOfRange => "minute must be in 0..59"
  | .secondOutOfRange => "second must be in 0..59"
  | .microsecondOutOfRange => "microsecond must be in 0..999999"

def failureType : MomentError → FailureType
  | .offsetDaysBeyondWord | .offsetDaysOutOfRange _ | .partBeyondLongWord | .partAboveWord
  | .partBelowWord => .overflow
  | _ => .value

end MomentError

namespace Moment

def between (low value high : Int) : Bool :=
  low ≤ value && value ≤ high

/-- The days of the span are checked before the span itself. -/
def checkOffset (minutes : Int) : Except MomentError Unit := do
  let days := minutes / 1440
  unless between (-Int.pow 2 31) days (Int.pow 2 31 - 1) do throw .offsetDaysBeyondWord
  unless days.natAbs ≤ maximalDays do throw (.offsetDaysOutOfRange days)
  unless between (-1439) minutes 1439 do throw (.offsetOutOfRange minutes)

/-- A part of a moment must fit into a word of 32 bits before its range matters. -/
def checkWord (part : Int) : Except MomentError Unit := do
  unless between (-Int.pow 2 63) part (Int.pow 2 63 - 1) do throw .partBeyondLongWord
  unless part < Int.pow 2 31 do throw .partAboveWord
  unless -Int.pow 2 31 ≤ part do throw .partBelowWord

/-- Check the offset first, then the size of all numbers, and at last their ranges,
from the year down to the microsecond. -/
def ofNumbers (year month day hour minute second microsecond : Int) (offset : Option Int) :
    Except MomentError Moment := do
  offset.forM checkOffset
  [year, month, day, hour, minute, second, microsecond].forM checkWord
  unless between 1 year 9999 do throw (.yearOutOfRange year)
  unless between 1 month 12 do throw .monthOutOfRange
  unless between 1 day (Calendar.daysInMonth year month.toNat) do throw .dayOutOfRange
  unless between 0 hour 23 do throw .hourOutOfRange
  unless between 0 minute 59 do throw .minuteOutOfRange
  unless between 0 second 59 do throw .secondOutOfRange
  unless between 0 microsecond 999999 do throw .microsecondOutOfRange
  return {
    date := ⟨year, month.toNat, day.toNat⟩
    hour := hour.toNat
    minute := minute.toNat
    second := second.toNat
    microsecond := microsecond.toNat
    offset }

/-- Microseconds since the start of day zero, by the clock that the moment was read
from. -/
def localMicroseconds (moment : Moment) : Int :=
  let minutes := (moment.date.dayNumber * 24 + moment.hour) * 60 + moment.minute
  (minutes * 60 + moment.second) * 1000000 + moment.microsecond

/-- Whether two moments are the same instant. Without an offset on both or on none
of them there is no telling, and they count as different. -/
def sameInstant (left right : Moment) : Bool :=
  match left.offset, right.offset with
  | none, none => left.localMicroseconds = right.localMicroseconds
  | some leftOffset, some rightOffset =>
      left.localMicroseconds - leftOffset * 60000000 =
        right.localMicroseconds - rightOffset * 60000000
  | _, _ => false

/-! ## Text -/

def padded (width value : Nat) : String :=
  String.ofList (paddedDigits width value)

def offsetText (minutes : Int) : String :=
  let sign := if minutes < 0 then "-" else "+"
  sign ++ padded 2 (minutes.natAbs / 60) ++ ":" ++ padded 2 (minutes.natAbs % 60)

def text (moment : Moment) : String :=
  let date := moment.date
  padded 4 date.year.toNat ++ "-" ++ padded 2 date.month ++ "-" ++ padded 2 date.day ++ "T" ++
    padded 2 moment.hour ++ ":" ++ padded 2 moment.minute ++ ":" ++ padded 2 moment.second ++
    (if moment.microsecond = 0 then "" else "." ++ padded 6 moment.microsecond) ++
    (match moment.offset with
    | none => ""
    | some minutes => offsetText minutes)

def shownOffset (minutes : Int) : String :=
  if minutes = 0 then "datetime.timezone.utc"
  else s!"datetime.timezone({shownSpan minutes})"

def shown (moment : Moment) : String :=
  let date := moment.date
  let small :=
    if moment.microsecond ≠ 0 then s!", {moment.second}, {moment.microsecond}"
    else if moment.second ≠ 0 then s!", {moment.second}"
    else ""
  let zone :=
    match moment.offset with
    | none => ""
    | some minutes => s!", tzinfo={shownOffset minutes}"
  s!"datetime.datetime({date.year}, {date.month}, {date.day}, {moment.hour}, {moment.minute}" ++
    small ++ zone ++ ")"

end Moment

end Reattempt
