import Mathlib.Algebra.Order.Ring.Int
import Mathlib.Data.Prod.Lex
import Mathlib.Order.Monotone.Basic
import Reattempt.Calendar

/-! Dates in the order of their days. Every day has a date, later days have later dates, and
the years begin with the days that are counted for them. -/

namespace Reattempt

namespace Calendar

/-! ## Years -/

def yearLength (year : Int) : Int :=
  if isLeapYear year then 366 else 365

private theorem daysBeforeYear_succ (year : Int) :
    daysBeforeYear (year + 1) = daysBeforeYear year + yearLength year := by
  unfold daysBeforeYear yearLength isLeapYear
  grind

private theorem daysBeforeYear_mono {first second : Int} (ordered : first ≤ second) :
    daysBeforeYear first ≤ daysBeforeYear second := by
  unfold daysBeforeYear
  dsimp only
  omega

/-! ## Months -/

private theorem daysBeforeMonth_eq_sum (year : Int) (month : Nat) :
    daysBeforeMonth year month = ((monthLengths (isLeapYear year)).take (month - 1)).sum :=
  List.sum_eq_foldl.symm

private theorem daysBeforeMonth_succ (year : Int) {month : Nat} (positive : 1 ≤ month) :
    daysBeforeMonth year (month + 1) = daysBeforeMonth year month + daysInMonth year month := by
  have next : month + 1 - 1 = month - 1 + 1 := by omega
  rw [daysBeforeMonth_eq_sum, daysBeforeMonth_eq_sum, daysInMonth, next, List.take_add_one,
    List.sum_append]
  cases (monthLengths (isLeapYear year))[month - 1]? <;> rfl

private theorem daysInMonth_le (year : Int) (month : Nat) : daysInMonth year month ≤ 31 := by
  have all (leap : Bool) : ∀ length ∈ monthLengths leap, length ≤ 31 := by
    revert leap
    decide
  unfold daysInMonth
  cases found : (monthLengths (isLeapYear year))[month - 1]? with
  | none => exact Nat.zero_le 31
  | some length => exact all _ length (List.mem_of_getElem? found)

private theorem daysBeforeMonth_mono (year : Int) : Monotone (daysBeforeMonth year) := by
  apply monotone_nat_of_le_succ
  intro month
  cases month with
  | zero => exact Nat.le_refl _
  | succ month =>
      rw [daysBeforeMonth_succ year (Nat.le_add_left 1 month)]
      exact Nat.le_add_right _ _

private theorem daysBeforeMonth_end (year : Int) :
    (daysBeforeMonth year 13 : Int) = yearLength year := by
  unfold daysBeforeMonth yearLength
  cases isLeapYear year <;> rfl

/-- The month and the day that are split off have all days before them that there were. -/
theorem splitDay_eq (lengths : List Nat) (month dayOfYear : Nat)
    (within : dayOfYear < lengths.sum) :
    ∃ index, index < lengths.length ∧
      splitDay lengths month dayOfYear =
        (month + index, dayOfYear - (lengths.take index).sum + 1) ∧
      (lengths.take index).sum ≤ dayOfYear ∧
      dayOfYear < (lengths.take (index + 1)).sum := by
  induction lengths generalizing month dayOfYear with
  | nil => exact absurd within (Nat.not_lt_zero _)
  | cons length rest induction =>
      rw [splitDay]
      split
      · next early => exact ⟨0, Nat.succ_pos _, rfl, Nat.zero_le _, by simpa using early⟩
      · next late =>
          rw [List.sum_cons] at within
          rcases induction (month + 1) (dayOfYear - length) (by omega) with
            ⟨index, inside, equal, before, after⟩
          refine ⟨index + 1, Nat.succ_lt_succ inside, ?_, ?_, ?_⟩
          · rw [equal, List.take_succ_cons, List.sum_cons, Nat.sub_sub, Nat.add_assoc month,
              Nat.add_comm 1 index]
          · rw [List.take_succ_cons, List.sum_cons]
            omega
          · rw [List.take_succ_cons, List.sum_cons]
            omega

private theorem splitDay_of_lt_yearLength {year : Int} {dayOfYear : Nat}
    (within : dayOfYear < yearLength year) :
    ∃ month, 1 ≤ month ∧ month ≤ 12 ∧
      splitDay (monthLengths (isLeapYear year)) 1 dayOfYear =
        (month, dayOfYear - daysBeforeMonth year month + 1) ∧
      daysBeforeMonth year month ≤ dayOfYear ∧
      dayOfYear < daysBeforeMonth year month + daysInMonth year month := by
  have total : (monthLengths (isLeapYear year)).sum = daysBeforeMonth year 13 :=
    (daysBeforeMonth_eq_sum year 13).symm
  have whole := daysBeforeMonth_end year
  rcases splitDay_eq (monthLengths (isLeapYear year)) 1 dayOfYear (by omega) with
    ⟨index, inside, split, before, after⟩
  have sum : ((monthLengths (isLeapYear year)).take index).sum = daysBeforeMonth year (index + 1) :=
    (daysBeforeMonth_eq_sum year (index + 1)).symm
  have next : ((monthLengths (isLeapYear year)).take (index + 1)).sum =
      daysBeforeMonth year (index + 1 + 1) :=
    (daysBeforeMonth_eq_sum year (index + 1 + 1)).symm
  rw [next, daysBeforeMonth_succ year (Nat.le_add_left 1 index)] at after
  rw [sum] at split before
  rw [Nat.add_comm 1 index] at split
  exact ⟨index + 1, Nat.le_add_left 1 index, inside, split, before, after⟩

end Calendar

open Calendar

namespace Date

/-! ## The order of dates -/

/-- Dates are ordered by their years, then by their months, and then by their days. -/
def key (date : Date) : (Int ×ₗ Nat) ×ₗ Nat :=
  toLex (toLex (date.year, date.month), date.day)

theorem key_lt_iff (left right : Date) :
    left.key < right.key ↔ left.year < right.year ∨
      left.year = right.year ∧ (left.month < right.month ∨
        left.month = right.month ∧ left.day < right.day) := by
  simp only [key, Prod.Lex.toLex_lt_toLex, toLex_inj, Prod.mk.injEq]
  grind

theorem key_injective : Function.Injective key := by
  rintro ⟨year, month, day⟩ ⟨otherYear, otherMonth, otherDay⟩ equal
  simpa [key, and_assoc] using equal

section dayNumber

variable {date : Date} (valid : date.IsValid)

include valid

theorem day_le : date.day ≤ 31 :=
  le_trans valid.2.2.2 (daysInMonth_le date.year date.month)

private theorem dayOfYear_le :
    daysBeforeMonth date.year date.month + date.day ≤
      daysBeforeMonth date.year (date.month + 1) := by
  rw [daysBeforeMonth_succ date.year valid.1]
  exact Nat.add_le_add_left valid.2.2.2 _

private theorem le_dayNumber : daysBeforeYear date.year - epoch ≤ date.dayNumber := by
  have first := valid.2.2.1
  unfold dayNumber
  omega

private theorem dayNumber_lt : date.dayNumber < daysBeforeYear (date.year + 1) - epoch := by
  have later := dayOfYear_le valid
  have last := daysBeforeMonth_mono date.year (show date.month + 1 ≤ 13 by
    exact Nat.succ_le_succ valid.2.1)
  have whole := daysBeforeMonth_end date.year
  rw [daysBeforeYear_succ, ← whole]
  unfold dayNumber
  omega

private theorem dayNumber_lt_iff_year_lt (year : Int) :
    date.dayNumber < daysBeforeYear year - epoch ↔ date.year < year := by
  constructor
  · intro before
    by_contra late
    have counted := daysBeforeYear_mono (Int.not_lt.mp late)
    have reached := le_dayNumber valid
    omega
  · intro early
    have counted := daysBeforeYear_mono (show date.year + 1 ≤ year from early)
    have ended := dayNumber_lt valid
    omega

end dayNumber

private theorem dayNumber_lt_of_key_lt {left right : Date} (leftValid : left.IsValid)
    (rightValid : right.IsValid) (ordered : left.key < right.key) :
    left.dayNumber < right.dayNumber := by
  rcases (key_lt_iff left right).mp ordered with years | ⟨sameYear, months | ⟨sameMonth, days⟩⟩
  · exact lt_of_lt_of_le ((dayNumber_lt_iff_year_lt leftValid right.year).mpr years)
      (le_dayNumber rightValid)
  · have ended := dayOfYear_le leftValid
    have counted := daysBeforeMonth_mono left.year (show left.month + 1 ≤ right.month from months)
    have first := rightValid.2.2.1
    unfold dayNumber
    rw [← sameYear]
    omega
  · unfold dayNumber
    rw [sameYear, sameMonth]
    omega

theorem dayNumber_lt_iff {left right : Date} (leftValid : left.IsValid)
    (rightValid : right.IsValid) :
    left.dayNumber < right.dayNumber ↔ left.key < right.key := by
  refine ⟨fun days => ?_, dayNumber_lt_of_key_lt leftValid rightValid⟩
  rcases lt_trichotomy left.key right.key with earlier | same | later
  · exact earlier
  · rw [key_injective same] at days
    exact absurd days (lt_irrefl _)
  · exact absurd (dayNumber_lt_of_key_lt rightValid leftValid later) days.asymm

/-! ## The date of a day -/

structure IsDayOf (number year dayOfYear : Int) : Prop where
  counted : daysBeforeYear year + dayOfYear = number + epoch
  nonneg : 0 ≤ dayOfYear
  within : dayOfYear < yearLength year

private theorem isDayOf_of_parts {number cycles centuries fours years dayOfYear : Int}
    (total : 146097 * cycles + 36524 * centuries + 1461 * fours + 365 * years + dayOfYear =
      number + epoch)
    (century : 0 ≤ centuries ∧ centuries ≤ 3) (four : 0 ≤ fours ∧ fours ≤ 24)
    (single : 0 ≤ years ∧ years ≤ 3) (nonneg : 0 ≤ dayOfYear) (most : dayOfYear ≤ 365)
    (leap : dayOfYear = 365 → years = 3 ∧ (fours = 24 → centuries = 3)) :
    IsDayOf number (400 * cycles + 100 * centuries + 4 * fours + years + 1) dayOfYear := by
  refine ⟨?_, nonneg, ?_⟩
  · rw [← total]
    unfold daysBeforeYear
    dsimp only
    omega
  · by_cases last : dayOfYear = 365
    · have longer : yearLength (400 * cycles + 100 * centuries + 4 * fours + years + 1) = 366 := by
        unfold yearLength isLeapYear
        rw [if_pos]
        simp only [Bool.and_eq_true, Bool.or_eq_true, decide_eq_true_eq, ne_eq]
        omega
      omega
    · unfold yearLength
      split <;> omega

private theorem exists_isDayOf (number : Int) :
    ∃ year dayOfYear, IsDayOf number year dayOfYear ∧
      ofDayNumber number =
        let (month, day) := splitDay (monthLengths (isLeapYear year)) 1 dayOfYear.toNat
        { year, month, day } := by
  refine ⟨_, _, isDayOf_of_parts ?_ ?_ ?_ ?_ ?_ ?_ ?_, rfl⟩ <;> omega

theorem ofDayNumber_spec (number : Int) :
    (ofDayNumber number).IsValid ∧ (ofDayNumber number).dayNumber = number := by
  rcases exists_isDayOf number with ⟨year, dayOfYear, ⟨counted, nonneg, within⟩, equal⟩
  have early : (dayOfYear.toNat : Int) < yearLength year := by omega
  rcases splitDay_of_lt_yearLength early with
    ⟨month, first, last, split, before, after⟩
  rw [equal, split]
  refine ⟨⟨first, last, Nat.le_add_left 1 _, ?_⟩, ?_⟩
  · dsimp only
    omega
  · unfold dayNumber
    dsimp only
    omega

theorem isValid_ofDayNumber (number : Int) : (ofDayNumber number).IsValid :=
  (ofDayNumber_spec number).1

theorem dayNumber_ofDayNumber (number : Int) : (ofDayNumber number).dayNumber = number :=
  (ofDayNumber_spec number).2

theorem key_ofDayNumber_lt_iff (first second : Int) :
    (ofDayNumber first).key < (ofDayNumber second).key ↔ first < second := by
  rw [← dayNumber_lt_iff (isValid_ofDayNumber first) (isValid_ofDayNumber second),
    dayNumber_ofDayNumber, dayNumber_ofDayNumber]

theorem year_ofDayNumber_lt_iff (number year : Int) :
    (ofDayNumber number).year < year ↔ number < daysBeforeYear year - epoch := by
  rw [← dayNumber_lt_iff_year_lt (isValid_ofDayNumber number), dayNumber_ofDayNumber]

end Date

end Reattempt
