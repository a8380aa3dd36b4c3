import Mathlib.Algebra.Order.Ring.Int
import Reattempt.Backoff.Growth

/-! Exponential growth in whole numbers. Without a cap the delay is the base times a
power of the multiplier, whatever their sizes. With a cap the logarithms may answer
wrongly, since they are rounded. Nothing is used of them here but their answer, and it
can only lift a delay to the cap. -/

namespace Reattempt

/-! ## Zero as a double -/

namespace Binary64

private theorem compareInt_zero (whole : Int) (negative : Bool) (exponent : Int) :
    compareInt whole (.finite negative 0 exponent) = some (compare whole 0) := by
  have positive : (0 : Int) < Nat.pow 2 (-exponent).toNat := by
    exact_mod_cast Nat.two_pow_pos _
  have below : whole * Nat.pow 2 (-exponent).toNat < 0 ↔ whole < 0 :=
    ⟨fun product => neg_of_mul_neg_left product positive.le,
      fun negative => mul_neg_of_neg_of_pos negative positive⟩
  have equal : whole * Nat.pow 2 (-exponent).toNat = 0 ↔ whole = 0 :=
    mul_eq_zero_iff_right positive.ne'
  have scaled : compare (whole * Nat.pow 2 (-exponent).toNat) 0 = compare whole 0 := by
    simp only [compare, compareOfLessAndEq, below, equal]
  cases negative <;> simpa [compareInt] using scaled

theorem ofFloat_zero : ofFloat 0.0 = .finite false 0 leastExponent := by
  decide +kernel

end Binary64

namespace Scalar

theorem order_whole_zero (value : Int) :
    order (.whole value) (.real 0.0) = order (.whole value) (.whole 0) := by
  simp only [order, Binary64.ofFloat_zero, Binary64.compareInt_zero]

theorem order_zero_whole (value : Int) :
    order (.real 0.0) (.whole value) = order (.whole 0) (.whole value) := by
  simp only [order, Binary64.ofFloat_zero, Binary64.compareInt_zero, Option.map_some]
  congr 1
  exact Int.compare_swap value 0

@[simp] theorem same_zero_whole (value : Int) :
    (Scalar.real 0.0).same (.whole value) = decide (0 = value) := by
  rw [same, order_zero_whole]
  exact same_whole 0 value

@[simp] theorem atMost_zero_whole (value : Int) :
    (Scalar.real 0.0).atMost (.whole value) = decide (0 ≤ value) := by
  rw [atMost, order_zero_whole]
  exact atMost_whole 0 value

@[simp] theorem atMost_whole_zero (value : Int) :
    (Scalar.whole value).atMost (.real 0.0) = decide (value ≤ 0) := by
  rw [atMost, order_whole_zero]
  exact atMost_whole value 0

private theorem atMost_zero_zero : (Scalar.real 0.0).atMost (.real 0.0) = true := by
  decide +kernel

end Scalar

namespace Backoff

/-! ## The plain formula -/

def plainDelay (base multiplier attempt : Int) : Int :=
  base * multiplier ^ (attempt - 1).toNat

@[simp] theorem plainDelay_zero (multiplier attempt : Int) :
    plainDelay 0 multiplier attempt = 0 :=
  zero_mul _

@[simp] theorem plainDelay_one (base attempt : Int) : plainDelay base 1 attempt = base := by
  rw [plainDelay, one_pow, mul_one]

section plainDelay

variable {base multiplier : Int} (nonnegative : 0 ≤ base) (growing : 1 ≤ multiplier)

include nonnegative growing

private theorem plainDelay_mono {first second : Int} (ordered : first ≤ second) :
    plainDelay base multiplier first ≤ plainDelay base multiplier second := by
  have steps : (first - 1).toNat ≤ (second - 1).toNat := by omega
  exact mul_le_mul_of_nonneg_left (pow_le_pow_right₀ growing steps) nonnegative

private theorem le_plainDelay (attempt : Int) : base ≤ plainDelay base multiplier attempt :=
  le_mul_of_one_le_right nonnegative (one_le_pow₀ growing)

end plainDelay

private theorem grown_whole (base multiplier : Int) {attempt : Int} (first : 1 ≤ attempt) :
    grown (.whole base) (.whole multiplier) attempt =
      .ok (.whole (plainDelay base multiplier attempt)) := by
  have steps : attempt - 1 = ((attempt - 1).toNat : Int) := by omega
  rw [grown, steps, Scalar.power_whole]
  rfl

/-! ## Delays -/

theorem exponentialDelay_uncapped (base multiplier : Int) {attempt : Int} (first : 1 ≤ attempt) :
    exponentialDelay (.whole base) (.whole multiplier) none attempt =
      .ok (if base = 0 then .real 0.0 else .whole (plainDelay base multiplier attempt)) := by
  rw [exponentialDelay, Scalar.same_whole, grown_whole base multiplier first]
  simp only [decide_eq_true_eq]
  split <;> rfl

/-- Where the delay with a cap comes from. -/
inductive CappedDelay (base multiplier cap attempt : Int) : Scalar → Prop
  | zero (nothing : base = 0) : CappedDelay base multiplier cap attempt (.real 0.0)
  | atOnce (reached : cap ≤ base) : CappedDelay base multiplier cap attempt (.whole cap)
  /-- The logarithms answer whether the cap is reached. -/
  | answered {reached : Bool} (something : base ≠ 0) (below : base < cap)
      (answers : capReached (.whole base) (.whole multiplier) (.whole cap) attempt = .ok reached) :
      CappedDelay base multiplier cap attempt
        (.whole (if reached then cap else min (plainDelay base multiplier attempt) cap))

theorem cappedDelay_of_exponentialDelay {base multiplier cap attempt : Int} (first : 1 ≤ attempt)
    {delay : Scalar}
    (computes : exponentialDelay (.whole base) (.whole multiplier) (some (.whole cap)) attempt =
      .ok delay) : CappedDelay base multiplier cap attempt delay := by
  simp only [exponentialDelay, Scalar.same_whole, Scalar.atMost_whole, decide_eq_true_eq,
    grown_whole base multiplier first] at computes
  split at computes
  · next nothing =>
      cases computes
      exact .zero nothing
  · next something =>
    split at computes
    · next reached =>
        cases computes
        exact .atOnce reached
    · next below =>
        cases answers : capReached (.whole base) (.whole multiplier) (.whole cap) attempt with
        | error fault =>
            rw [answers] at computes
            cases computes
        | ok reached =>
            have answered : CappedDelay base multiplier cap attempt _ :=
              .answered something (Int.not_le.mp below) answers
            rw [answers] at computes
            cases reached with
            | true =>
                cases computes
                exact answered
            | false =>
                cases computes
                rw [Scalar.least_whole]
                exact answered

/-- A multiplier of one is not asked for its logarithm. -/
theorem capReached_one (base cap attempt : Int) :
    capReached (.whole base) (.whole 1) (.whole cap) attempt = .ok false := by
  rw [capReached, Scalar.below_whole]
  rfl

/-- How a delay with a cap compares with the plain formula. -/
structure FollowsFormula (base multiplier cap attempt : Int) (delay : Scalar) : Prop where
  either : delay.same (.whole (min (plainDelay base multiplier attempt) cap)) = true ∨
    delay = .whole cap
  /-- The delay is exact, except perhaps where the logarithms answer wrongly. -/
  exact : multiplier = 1 ∨ base = 0 ∨ cap ≤ base ∨ cap ≤ plainDelay base multiplier attempt ∨
      capReached (.whole base) (.whole multiplier) (.whole cap) attempt =
        .ok (decide (cap ≤ plainDelay base multiplier attempt)) →
    delay.same (.whole (min (plainDelay base multiplier attempt) cap)) = true
  atMost : delay.atMost (.whole cap) = true
  atLeast : (Scalar.whole (min (plainDelay base multiplier attempt) cap)).atMost delay = true
  /-- A wrong answer is the cap for a delay that is still below it. -/
  rounded : delay.same (.whole (min (plainDelay base multiplier attempt) cap)) = false →
    delay = .whole cap ∧ plainDelay base multiplier attempt < cap ∧
      capReached (.whole base) (.whole multiplier) (.whole cap) attempt = .ok true

theorem followsFormula_of_cappedDelay {base multiplier cap attempt : Int} {delay : Scalar}
    (nonnegative : 0 ≤ base) (growing : 1 ≤ multiplier) (positive : 0 < cap)
    (capped : CappedDelay base multiplier cap attempt delay) :
    FollowsFormula base multiplier cap attempt delay := by
  have grows := le_plainDelay nonnegative growing attempt
  -- Where the delay is the formula's, the other fields follow.
  have follows {delay : Scalar}
      (same : delay.same (.whole (min (plainDelay base multiplier attempt) cap)) = true)
      (atMost : delay.atMost (.whole cap) = true)
      (atLeast : (Scalar.whole (min (plainDelay base multiplier attempt) cap)).atMost delay =
        true) : FollowsFormula base multiplier cap attempt delay :=
    ⟨.inl same, fun _ => same, atMost, atLeast, fun differs => by simp [same] at differs⟩
  have atFormula : FollowsFormula base multiplier cap attempt
      (.whole (min (plainDelay base multiplier attempt) cap)) := by
    apply follows <;> simp
  cases capped with
  | zero nothing =>
      subst nothing
      apply follows <;> simp [positive.le]
  | atOnce reached =>
      rwa [min_eq_right (reached.trans grows)] at atFormula
  | answered something below answers =>
      rename_i reached
      cases reached with
      | false => exact atFormula
      | true =>
          by_cases exceeded : cap ≤ plainDelay base multiplier attempt
          · rwa [min_eq_right exceeded] at atFormula
          · have smaller := Int.not_le.mp exceeded
            refine ⟨.inr rfl, ?_, by simp, by simp, fun _ => ⟨rfl, smaller, answers⟩⟩
            intro exact
            rcases exact with constant | nothing | reached | reached | right
            · subst constant
              rw [capReached_one] at answers
              cases answers
            · exact absurd nothing something
            · omega
            · omega
            · rw [right, decide_eq_false exceeded] at answers
              cases answers

/-! ## The delay and the formula -/

/-- For whole parameters the delay without a cap is the plain formula, which never falls
from one attempt to a later one. A delay with a cap is the formula's, capped, or it is
the cap because the logarithms were rounded. -/
theorem exponentialDelay_whole {base multiplier : Int} (nonnegative : 0 ≤ base)
    (growing : 1 ≤ multiplier) :
    (∀ {attempt}, 1 ≤ attempt → ∃ delay,
      exponentialDelay (.whole base) (.whole multiplier) none attempt = .ok delay ∧
      delay.same (.whole (plainDelay base multiplier attempt)) = true) ∧
    (∀ {first second earlier later}, 1 ≤ first → first ≤ second →
      exponentialDelay (.whole base) (.whole multiplier) none first = .ok earlier →
      exponentialDelay (.whole base) (.whole multiplier) none second = .ok later →
      earlier.atMost later = true) ∧
    ∀ {cap attempt delay}, 0 < cap → 1 ≤ attempt →
      exponentialDelay (.whole base) (.whole multiplier) (some (.whole cap)) attempt =
        .ok delay →
      FollowsFormula base multiplier cap attempt delay := by
  refine ⟨?_, ?_, ?_⟩
  · intro attempt first
    refine ⟨_, exponentialDelay_uncapped base multiplier first, ?_⟩
    split
    · next nothing =>
        subst nothing
        simp
    · simp
  · intro first second earlier later begun ordered computes computesLater
    rw [exponentialDelay_uncapped base multiplier begun] at computes
    rw [exponentialDelay_uncapped base multiplier (begun.trans ordered)] at computesLater
    cases computes
    cases computesLater
    split
    · exact Scalar.atMost_zero_zero
    · simpa using plainDelay_mono nonnegative growing ordered
  · intro cap attempt delay positive first computes
    exact followsFormula_of_cappedDelay nonnegative growing positive
      (cappedDelay_of_exponentialDelay first computes)

/-- Whatever the logarithms answer, a delay beyond the cap is the cap. -/
theorem exponentialDelay_whole_doubling :
    exponentialDelay (.whole 3) (.whole 2) (some (.whole 20)) 4 = .ok (.whole 20) ∧
      FollowsFormula 3 2 20 4 (.whole 20) := by
  have answers : (capReached (.whole 3) (.whole 2) (.whole 20) 4).toOption.isSome = true := by
    decide +kernel
  have first : (1 : Int) ≤ 4 := by decide
  have computes : exponentialDelay (.whole 3) (.whole 2) (some (.whole 20)) 4 =
      .ok (.whole 20) := by
    have below : (Scalar.whole 20).atMost (.whole 3) = false := rfl
    simp only [exponentialDelay, Scalar.same_whole, below, grown_whole 3 2 first]
    cases asked : capReached (.whole 3) (.whole 2) (.whole 20) 4 with
    | error fault =>
        rw [asked] at answers
        cases answers
    | ok reached => cases reached <;> rfl
  refine ⟨computes, ?_⟩
  exact (exponentialDelay_whole (by decide) (by decide)).2.2 (by decide) first computes

end Backoff

end Reattempt
