import Mathlib.Algebra.Order.Field.Power
import Mathlib.Algebra.Order.Field.Rat
import Mathlib.Tactic.Linarith
import Mathlib.Tactic.Positivity
import Mathlib.Tactic.Ring
import Reattempt.Number.Binary64

/-! Which quotients have a nearest double. The binary logarithm of a quotient fixes the
exponent that it is rounded at, and a quotient has no nearest double if and only if it
reaches the middle between the largest double and the next power of two. -/

namespace Reattempt

private theorem div_le_roundQuotient (numerator denominator : Nat) :
    numerator / denominator ≤ roundQuotient numerator denominator := by
  unfold roundQuotient
  dsimp only
  repeat' split
  all_goals omega

private theorem roundQuotient_le_succ (numerator denominator : Nat) :
    roundQuotient numerator denominator ≤ numerator / denominator + 1 := by
  unfold roundQuotient
  dsimp only
  repeat' split
  all_goals omega

private theorem roundQuotient_of_odd {numerator denominator : Nat}
    (odd : numerator / denominator % 2 = 1)
    (half : denominator ≤ 2 * (numerator % denominator)) :
    roundQuotient numerator denominator = numerator / denominator + 1 := by
  unfold roundQuotient
  dsimp only
  repeat' split
  all_goals omega

namespace Binary64

/-! ## Powers of two on both sides -/

theorem two_pow_pos (power : Nat) : 0 < Nat.pow 2 power :=
  Nat.two_pow_pos power

theorem two_pow_succ (power : Nat) : Nat.pow 2 (power + 1) = 2 * Nat.pow 2 power :=
  Nat.pow_succ'

private theorem cast_two_pow (power : Nat) : (Nat.pow 2 power : ℚ) = 2 ^ (power : Int) := by
  rw [zpow_natCast]
  exact Nat.cast_pow 2 power

private theorem scaled_lt_iff (left right : Nat) (exponent : Int) :
    left * Nat.pow 2 (-exponent).toNat < right * Nat.pow 2 exponent.toNat ↔
      (left : ℚ) < right * 2 ^ exponent := by
  have shift : (2 : ℚ) ^ exponent * 2 ^ (-exponent).toNat = 2 ^ exponent.toNat := by
    rw [← zpow_natCast, ← zpow_natCast, ← zpow_add₀ two_ne_zero]
    congr 1
    omega
  have positive : (0 : ℚ) < 2 ^ (-exponent).toNat := by positivity
  rw [← mul_lt_mul_iff_left₀ positive, mul_assoc, shift]
  exact_mod_cast Iff.rfl

private theorem scaled_le_iff (left right : Nat) (exponent : Int) :
    right * Nat.pow 2 exponent.toNat ≤ left * Nat.pow 2 (-exponent).toNat ↔
      (right * 2 ^ exponent : ℚ) ≤ left := by
  rw [← not_lt, ← not_lt, scaled_lt_iff]

private theorem log2_window {value : Nat} (something : value ≠ 0) :
    (2 ^ (value.log2 : Int) : ℚ) ≤ value ∧ (value : ℚ) < 2 ^ ((value.log2 : Int) + 1) := by
  have window := (Nat.log2_eq_iff something).mp rfl
  constructor
  · rw [zpow_natCast]
    exact_mod_cast window.1
  · have upper : ((value.log2 : Int) + 1) = ((value.log2 + 1 : Nat) : Int) := rfl
    rw [upper, zpow_natCast]
    exact_mod_cast window.2

private theorem order_spec {numerator denominator : Nat} (something : numerator ≠ 0)
    (positive : denominator ≠ 0) :
    (denominator * 2 ^ order numerator denominator : ℚ) ≤ numerator ∧
      (numerator : ℚ) < denominator * 2 ^ (order numerator denominator + 1) := by
  have top := log2_window something
  have bottom := log2_window positive
  have scale (exponent : Int) : (0 : ℚ) < 2 ^ exponent := by positivity
  have lower : (denominator * 2 ^ ((numerator.log2 : Int) - denominator.log2 - 1) : ℚ) ≤
      numerator := by
    refine le_trans ?_ top.1
    have bound := mul_le_mul_of_nonneg_right bottom.2.le
      (scale ((numerator.log2 : Int) - denominator.log2 - 1)).le
    rw [← zpow_add₀ two_ne_zero] at bound
    convert bound using 2
    omega
  have upper : (numerator : ℚ) <
      denominator * 2 ^ ((numerator.log2 : Int) - denominator.log2 + 1) := by
    refine lt_of_lt_of_le top.2 ?_
    have bound := mul_le_mul_of_nonneg_right bottom.1
      (scale ((numerator.log2 : Int) - denominator.log2 + 1)).le
    rw [← zpow_add₀ two_ne_zero] at bound
    convert bound using 2
    omega
  unfold order
  dsimp only
  split
  · next below =>
      rw [scaled_lt_iff] at below
      exact ⟨lower, by rwa [sub_add_cancel]⟩
  · next reached =>
      rw [scaled_lt_iff, not_lt] at reached
      exact ⟨reached, upper⟩

/-! ## Rounding at an exponent -/

def significandAt (numerator denominator : Nat) (exponent : Int) : Nat :=
  roundQuotient (numerator * Nat.pow 2 (-exponent).toNat) (denominator * Nat.pow 2 exponent.toNat)

variable {numerator denominator : Nat} {exponent : Int}

private theorem le_significandAt (positive : denominator ≠ 0) {bound : Nat}
    (reached : (bound * denominator * 2 ^ exponent : ℚ) ≤ numerator) :
    bound ≤ significandAt numerator denominator exponent := by
  refine le_trans ?_ (div_le_roundQuotient _ _)
  have divisor : 0 < denominator * Nat.pow 2 exponent.toNat :=
    Nat.mul_pos (Nat.pos_of_ne_zero positive) (Nat.two_pow_pos _)
  rw [Nat.le_div_iff_mul_le divisor, ← Nat.mul_assoc, scaled_le_iff]
  exact_mod_cast reached

private theorem significandAt_le (positive : denominator ≠ 0) {bound : Nat}
    (below : (numerator : ℚ) < bound * denominator * 2 ^ exponent) :
    significandAt numerator denominator exponent ≤ bound := by
  refine le_trans (roundQuotient_le_succ _ _) ?_
  have divisor : 0 < denominator * Nat.pow 2 exponent.toNat :=
    Nat.mul_pos (Nat.pos_of_ne_zero positive) (Nat.two_pow_pos _)
  rw [Nat.succ_le_iff, Nat.div_lt_iff_lt_mul divisor, ← Nat.mul_assoc, scaled_lt_iff]
  exact_mod_cast below

/-! ## The largest double -/

/-- The middle between two to a power that is higher by 54 and the significand of 53 bits
below it. -/
def middleBelow (power : Nat) : Nat :=
  (2 ^ 54 - 1) * Nat.pow 2 power

def overflowBound : Nat := middleBelow 970

def roundingExponent (numerator denominator : Nat) : Int :=
  max (order numerator denominator - 52) leastExponent

theorem nearestBits?_of_ne_zero (something : numerator ≠ 0) :
    nearestBits? numerator denominator =
      toBits? (significandAt numerator denominator (roundingExponent numerator denominator))
        (roundingExponent numerator denominator) := by
  rw [nearestBits?, if_neg something]
  rfl

private theorem toBits?_eq_none_iff {significand : Nat} :
    toBits? significand exponent = none ↔
      hiddenBit ≤ significand ∧
        2047 * hiddenBit ≤ (exponent + 1075).toNat * hiddenBit + (significand - hiddenBit) := by
  have shifted : exponent - leastExponent + 1 = exponent + 1075 := by
    rw [leastExponent]
    omega
  have hidden : hiddenBit = 2 ^ 52 := rfl
  unfold toBits?
  rw [shifted]
  dsimp only
  split <;> split <;> simp only [reduceCtorEq, false_iff, true_iff] <;> omega

private theorem middleBelow_pos (power : Nat) : 0 < middleBelow power :=
  Nat.mul_pos (by decide) (two_pow_pos power)

private theorem middleBelow_mul (power : Nat) :
    middleBelow power * denominator = (2 ^ 54 - 1) * (denominator * Nat.pow 2 power) := by
  rw [middleBelow, Nat.mul_assoc, Nat.mul_comm denominator]

private theorem significandAt_top (positive : denominator ≠ 0) {power : Nat}
    (below : numerator < 2 ^ 54 * (denominator * Nat.pow 2 power)) :
    2 ^ 53 ≤ significandAt numerator denominator (power + 1) ↔
      middleBelow power * denominator ≤ numerator := by
  have rounded : significandAt numerator denominator (power + 1) =
      roundQuotient numerator (2 * (denominator * Nat.pow 2 power)) := by
    have raised : ((power : Int) + 1).toNat = power + 1 := by omega
    have none : (-((power : Int) + 1)).toNat = 0 := by omega
    rw [significandAt, raised, none, two_pow_succ, Nat.mul_left_comm]
    exact congrArg (roundQuotient · _) (Nat.mul_one numerator)
  have divisor : 0 < denominator * Nat.pow 2 power :=
    Nat.mul_pos (Nat.pos_of_ne_zero positive) (two_pow_pos power)
  rw [rounded, middleBelow_mul]
  generalize denominator * Nat.pow 2 power = half at below divisor ⊢
  constructor
  · intro reached
    have near := roundQuotient_le numerator (2 * half) (by omega)
    have product := Nat.mul_le_mul_right (2 * half) reached
    omega
  · intro reached
    have quotient : numerator / (2 * half) = 2 ^ 53 - 1 := by
      rw [Nat.div_eq_iff (by omega)]
      omega
    have rest := Nat.div_add_mod numerator (2 * half)
    rw [quotient] at rest
    have odd : numerator / (2 * half) % 2 = 1 := by omega
    rw [roundQuotient_of_odd odd (by omega)]
    omega

section window

variable (something : numerator ≠ 0) (positive : denominator ≠ 0)

include something positive

theorem lt_of_order_lt (power bits : Nat)
    (low : order numerator denominator < power + bits) :
    numerator < 2 ^ bits * (denominator * Nat.pow 2 power) := by
  have product : (2 ^ bits * (denominator * 2 ^ (power : Int)) : ℚ) =
      denominator * 2 ^ (power + bits : Int) := by
    rw [zpow_add₀ two_ne_zero, zpow_natCast _ bits]
    ring
  have below : (numerator : ℚ) < 2 ^ bits * (denominator * 2 ^ (power : Int)) := by
    rw [product]
    refine lt_of_lt_of_le (order_spec something positive).2 ?_
    have wider := zpow_le_zpow_right₀ (one_le_two (α := ℚ))
      (show order numerator denominator + 1 ≤ power + (bits : Int) by omega)
    exact mul_le_mul_of_nonneg_left wider (Nat.cast_nonneg denominator)
  rw [← cast_two_pow] at below
  exact_mod_cast below

private theorem le_of_le_order (power bits : Nat)
    (high : power + bits ≤ order numerator denominator) :
    2 ^ bits * (denominator * Nat.pow 2 power) ≤ numerator := by
  have product : (2 ^ bits * (denominator * 2 ^ (power : Int)) : ℚ) =
      denominator * 2 ^ (power + bits : Int) := by
    rw [zpow_add₀ two_ne_zero, zpow_natCast _ bits]
    ring
  have reached : (2 ^ bits * (denominator * 2 ^ (power : Int)) : ℚ) ≤ numerator := by
    rw [product]
    refine le_trans ?_ (order_spec something positive).1
    have wider := zpow_le_zpow_right₀ (one_le_two (α := ℚ)) high
    exact mul_le_mul_of_nonneg_left wider (Nat.cast_nonneg denominator)
  rw [← cast_two_pow] at reached
  exact_mod_cast reached

/-- A rounded significand has at most 53 bits, or it is the power of two above them. -/
theorem significandAt_rounding_le :
    significandAt numerator denominator (roundingExponent numerator denominator) ≤ 2 ^ 53 := by
  refine significandAt_le positive (lt_of_lt_of_le (order_spec something positive).2 ?_)
  have product : ((2 ^ 53 : Nat) * denominator * 2 ^ roundingExponent numerator denominator : ℚ) =
      denominator * 2 ^ (53 + roundingExponent numerator denominator) := by
    rw [zpow_add₀ two_ne_zero]
    push_cast
    ring
  rw [product]
  have above : order numerator denominator - 52 ≤ roundingExponent numerator denominator :=
    le_max_left _ _
  have wider := zpow_le_zpow_right₀ (one_le_two (α := ℚ))
    (show order numerator denominator + 1 ≤ 53 + roundingExponent numerator denominator by omega)
  exact mul_le_mul_of_nonneg_left wider (Nat.cast_nonneg denominator)

theorem hiddenBit_le_significandAt
    (normal : leastExponent < roundingExponent numerator denominator) :
    hiddenBit ≤
      significandAt numerator denominator (roundingExponent numerator denominator) := by
  have exponent : roundingExponent numerator denominator =
      order numerator denominator - 52 := by
    unfold roundingExponent at normal ⊢
    omega
  apply le_significandAt positive
  have product : (hiddenBit * denominator * 2 ^ roundingExponent numerator denominator : ℚ) =
      denominator * 2 ^ (52 + roundingExponent numerator denominator) := by
    rw [zpow_add₀ two_ne_zero, hiddenBit, cast_two_pow]
    ring
  rw [product, exponent, add_sub_cancel]
  exact (order_spec something positive).1

end window

/-- A quotient is without a nearest double from the middle on between the largest double
and the next power of two. -/
theorem nearestBits?_eq_none_iff (positive : denominator ≠ 0) :
    nearestBits? numerator denominator = none ↔ overflowBound * denominator ≤ numerator := by
  have hidden : hiddenBit = 2 ^ 52 := rfl
  have least : leastExponent = -1074 := rfl
  have divisor : 0 < denominator := Nat.pos_of_ne_zero positive
  rw [overflowBound]
  have bound (power : Nat) := Nat.mul_pos (middleBelow_pos power) divisor
  have exact (power : Nat) : middleBelow power * denominator =
    (2 ^ 54 - 1) * (denominator * Nat.pow 2 power) := middleBelow_mul power
  obtain ⟨power, top⟩ : ∃ power, power = 970 := ⟨_, rfl⟩
  rw [← top]
  specialize bound power
  specialize exact power
  by_cases nothing : numerator = 0
  · subst nothing
    rw [nearestBits?, if_pos rfl]
    simp only [reduceCtorEq, false_iff]
    omega
  · rw [nearestBits?_of_ne_zero nothing, toBits?_eq_none_iff, hidden]
    have most := significandAt_rounding_le nothing positive
    have exponent : roundingExponent numerator denominator =
      max (order numerator denominator - 52) leastExponent := rfl
    rcases lt_trichotomy (order numerator denominator) (power + (53 : Nat) : Int) with
      low | middle | high
    · have small := lt_of_order_lt nothing positive power 53 low
      constructor
      · intro reached
        omega
      · intro reached
        omega
    · have raised : roundingExponent numerator denominator = power + 1 := by omega
      have tie := significandAt_top positive
        (lt_of_order_lt nothing positive power 54 (by omega))
      rw [raised] at most ⊢
      rw [← tie]
      omega
    · have large := le_of_le_order nothing positive power 54 (by omega)
      have full := hiddenBit_le_significandAt nothing positive (by omega)
      constructor
      · intro
        omega
      · intro
        omega

end Binary64

end Reattempt
