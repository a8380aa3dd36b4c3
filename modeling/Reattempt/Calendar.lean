/-! Dates of the Gregorian calendar, extended to all years, and their numbering by
days. Day zero is the first of January 1970. -/

namespace Reattempt

structure Date where
  year : Int
  month : Nat
  day : Nat
  deriving DecidableEq, Repr

namespace Calendar

def isLeapYear (year : Int) : Bool :=
  year % 4 = 0 && (year % 100 ≠ 0 || year % 400 = 0)

def monthLengths (leap : Bool) : List Nat :=
  [31, if leap then 29 else 28, 31, 30, 31, 30, 31, 31, 30, 31, 30, 31]

def daysInMonth (year : Int) (month : Nat) : Nat :=
  ((monthLengths (isLeapYear year))[month - 1]?).getD 0

def daysBeforeYear (year : Int) : Int :=
  let before := year - 1
  365 * before + before / 4 - before / 100 + before / 400

def daysBeforeMonth (year : Int) (month : Nat) : Nat :=
  ((monthLengths (isLeapYear year)).take (month - 1)).foldl (· + ·) 0

/-- The days from the first of January of year one to that of 1970. -/
def epoch : Int := 719162

example : daysBeforeYear 1970 = epoch := by decide

/-- The month and the day that a zero-based day of the year falls on, counting
months from `month`. -/
def splitDay : (lengths : List Nat) → (month dayOfYear : Nat) → Nat × Nat
  | [], month, dayOfYear => (month, dayOfYear + 1)
  | length :: rest, month, dayOfYear =>
      if dayOfYear < length then (month, dayOfYear + 1)
      else splitDay rest (month + 1) (dayOfYear - length)

end Calendar

namespace Date

open Calendar

def IsValid (date : Date) : Prop :=
  1 ≤ date.month ∧ date.month ≤ 12 ∧ 1 ≤ date.day ∧ date.day ≤ daysInMonth date.year date.month

instance (date : Date) : Decidable date.IsValid := by
  unfold IsValid
  infer_instance

def dayNumber (date : Date) : Int :=
  daysBeforeYear date.year + daysBeforeMonth date.year date.month + date.day - 1 - epoch

/-- Cycles of four hundred years, centuries, cycles of four years and years are
split off in turn. The last century of a cycle and the last year of four are a day
longer than the others. -/
def ofDayNumber (number : Int) : Date :=
  let days := number + epoch
  let cycles := days / 146097
  let days := days % 146097
  let centuries := min (days / 36524) 3
  let days := days - centuries * 36524
  let fours := days / 1461
  let days := days % 1461
  let years := min (days / 365) 3
  let days := days - years * 365
  let year := 400 * cycles + 100 * centuries + 4 * fours + years + 1
  let (month, day) := splitDay (monthLengths (isLeapYear year)) 1 days.toNat
  { year, month, day }

example : ofDayNumber 0 = ⟨1970, 1, 1⟩ := by decide
example : ofDayNumber 11016 = ⟨2000, 2, 29⟩ := by decide
example : (⟨2000, 2, 29⟩ : Date).dayNumber = 11016 := by decide

end Date

end Reattempt
