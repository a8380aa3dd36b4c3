import Mathlib.Data.Nat.Fib.Basic
import Reattempt.Proofs.Exponential

/-! Fibonacci growth in whole numbers. The sequence is not followed beyond the cap, which
makes no difference: the numbers that are left out would only stay above it. -/

namespace Reattempt

/-! ## Whole amounts -/

namespace Scalar

/-- The number is whole. Nothing may also be given as a double. -/
inductive Amounts : Scalar → Int → Prop
  | whole (value : Int) : Amounts (.whole value) value
  | nothing : Amounts (.real 0.0) 0

namespace Amounts

variable {left right : Scalar} {first second : Int}

theorem order (leftAmounts : left.Amounts first) (rightAmounts : right.Amounts second) :
    left.order right = (Scalar.whole first).order (.whole second) := by
  cases leftAmounts with
  | whole =>
      cases rightAmounts with
      | whole => rfl
      | nothing => exact order_whole_zero first
  | nothing =>
      cases rightAmounts with
      | whole => exact order_zero_whole second
      | nothing => decide +kernel

theorem same (leftAmounts : left.Amounts first) (rightAmounts : right.Amounts second) :
    left.same right = decide (first = second) := by
  rw [Scalar.same, leftAmounts.order rightAmounts]
  exact same_whole first second

theorem atMost (leftAmounts : left.Amounts first) (rightAmounts : right.Amounts second) :
    left.atMost right = decide (first ≤ second) := by
  rw [Scalar.atMost, leftAmounts.order rightAmounts]
  exact atMost_whole first second

end Amounts

end Scalar

namespace Backoff

/-! ## The formula -/

def held (cap : Option Int) (delay : Int) : Int :=
  match cap with
  | none => delay
  | some limit => min delay limit

def sequenceDelay (base : Int) (cap : Option Int) (attempt : Int) : Int :=
  held cap (base * Nat.fib attempt.toNat)

private theorem capped_whole (cap : Option Int) (delay : Int) :
    capped (cap.map .whole) (.whole delay) = .whole (held cap delay) := by
  cases cap with
  | none => rfl
  | some limit => exact Scalar.least_whole delay limit

theorem held_mono (cap : Option Int) {first second : Int} (ordered : first ≤ second) :
    held cap first ≤ held cap second := by
  cases cap with
  | none => exact ordered
  | some limit => exact min_le_min_right limit ordered

section sequenceDelay

variable {base : Int} (nonnegative : 0 ≤ base)

include nonnegative

private theorem base_mul_fib_mono {first second : Nat} (ordered : first ≤ second) :
    base * Nat.fib first ≤ base * Nat.fib second := by
  have grows : (Nat.fib first : Int) ≤ Nat.fib second := by exact_mod_cast Nat.fib_mono ordered
  exact mul_le_mul_of_nonneg_left grows nonnegative

theorem sequenceDelay_mono (cap : Option Int) {first second : Int} (ordered : first ≤ second) :
    sequenceDelay base cap first ≤ sequenceDelay base cap second :=
  held_mono cap (base_mul_fib_mono nonnegative (Int.toNat_le_toNat ordered))

end sequenceDelay

theorem sequenceDelay_le {base : Int} {cap : Option Int} {limit : Int} (capped : cap = some limit)
    (attempt : Int) : sequenceDelay base cap attempt ≤ limit := by
  subst capped
  exact min_le_right _ _

theorem sequenceDelay_eq_zero {base : Int} {cap : Option Int}
    (positive : ∀ limit, cap = some limit → 0 < limit) {attempt : Int}
    (nothing : attempt ≤ 0 ∨ base = 0) : sequenceDelay base cap attempt = 0 := by
  have product : base * Nat.fib attempt.toNat = 0 := by
    rcases nothing with before | nothing
    · rw [Int.toNat_of_nonpos before, Nat.fib_zero, Nat.cast_zero, mul_zero]
    · rw [nothing, zero_mul]
  rw [sequenceDelay, product]
  cases cap with
  | none => rfl
  | some limit => exact min_eq_left (positive limit rfl).le

/-! ## The delay -/

private theorem fibonacciFrom_succ (base limit : Int) (steps previous current : Nat) :
    fibonacciFrom (.whole base) (some (.whole limit)) (steps + 1) previous current =
      if limit ≤ base * current then .ok (.whole limit)
      else fibonacciFrom (.whole base) (some (.whole limit)) steps current
        (previous + current) := by
  change (if (Scalar.whole limit).atMost (.whole (base * current)) then .ok (.whole limit)
    else fibonacciFrom (.whole base) (some (.whole limit)) steps current
      (previous + current)) = _
  simp only [Scalar.atMost_whole, decide_eq_true_eq]

/-- Two numbers of the sequence that follow one another lead to all later ones. When the cap
is reached, the rest of the sequence is not needed. -/
theorem fibonacciFrom_whole {base : Int} (nonnegative : 0 ≤ base) (cap : Option Int)
    (steps place : Nat) :
    fibonacciFrom (.whole base) (cap.map .whole) steps (Nat.fib place) (Nat.fib (place + 1)) =
      .ok (.whole (held cap (base * Nat.fib (place + 1 + steps)))) := by
  induction steps generalizing place with
  | zero =>
      rw [fibonacciFrom, Scalar.times_whole]
      exact congrArg Except.ok (capped_whole cap _)
  | succ steps induction =>
      have goesOn : fibonacciFrom (.whole base) (cap.map .whole) steps (Nat.fib (place + 1))
          (Nat.fib place + Nat.fib (place + 1)) =
            .ok (.whole (held cap (base * Nat.fib (place + 1 + (steps + 1))))) := by
        rw [← Nat.fib_add_two, induction (place + 1), Nat.add_right_comm]
        rfl
      cases cap with
      | none => exact goesOn
      | some limit =>
          rw [Option.map_some, fibonacciFrom_succ]
          split
          · next reached =>
              have later : base * Nat.fib (place + 1) ≤
                  base * Nat.fib (place + 1 + (steps + 1)) :=
                base_mul_fib_mono nonnegative (Nat.le_add_right _ _)
              rw [held, min_eq_right (reached.trans later)]
          · exact goesOn

theorem fibonacciDelay_amounts {base : Int} {cap : Option Int} (nonnegative : 0 ≤ base)
    (positive : ∀ limit, cap = some limit → 0 < limit) (attempt : Int) :
    ∃ delay, fibonacciDelay (.whole base) (cap.map .whole) attempt = .ok delay ∧
      delay.Amounts (sequenceDelay base cap attempt) := by
  rw [fibonacciDelay, Scalar.same_whole]
  simp only [decide_eq_true_eq]
  split
  · next nothing =>
      refine ⟨_, rfl, ?_⟩
      rw [sequenceDelay_eq_zero positive nothing]
      exact .nothing
  · next something =>
      have place : 0 + 1 + (attempt - 1).toNat = attempt.toNat := by omega
      have computes := fibonacciFrom_whole nonnegative cap (attempt - 1).toNat 0
      rw [place] at computes
      exact ⟨_, computes, .whole _⟩

structure FollowsSequence (base : Int) (cap : Option Int) (delayAfter : Int → Scalar) : Prop where
  formula : ∀ {attempt}, 1 ≤ attempt →
    (delayAfter attempt).same (.whole (held cap (base * Nat.fib attempt.toNat))) = true
  before : ∀ {attempt}, attempt ≤ 0 → (delayAfter attempt).same (.whole 0) = true
  grows : ∀ {first second}, first ≤ second →
    (delayAfter first).atMost (delayAfter second) = true
  atMost : ∀ {limit}, cap = some limit → ∀ attempt,
    (delayAfter attempt).atMost (.whole limit) = true
  stays : ∀ {limit}, cap = some limit → ∀ {first second}, first ≤ second →
    (delayAfter first).same (.whole limit) = true → (delayAfter second).same (.whole limit) = true

theorem followsSequence_of_amounts {base : Int} {cap : Option Int} (nonnegative : 0 ≤ base)
    (positive : ∀ limit, cap = some limit → 0 < limit) {delayAfter : Int → Scalar}
    (amounts : ∀ attempt, (delayAfter attempt).Amounts (sequenceDelay base cap attempt)) :
    FollowsSequence base cap delayAfter where
  formula {attempt} _ := by
    rw [(amounts attempt).same (.whole _), sequenceDelay, decide_eq_true_eq]
  before {attempt} before := by
    rw [(amounts attempt).same (.whole 0), decide_eq_true_eq]
    exact sequenceDelay_eq_zero positive (.inl before)
  grows {first second} ordered := by
    rw [(amounts first).atMost (amounts second), decide_eq_true_eq]
    exact sequenceDelay_mono nonnegative cap ordered
  atMost {limit} capped attempt := by
    rw [(amounts attempt).atMost (.whole limit), decide_eq_true_eq]
    exact sequenceDelay_le capped attempt
  stays {limit} capped {first second} ordered reached := by
    rw [(amounts first).same (.whole limit), decide_eq_true_eq] at reached
    rw [(amounts second).same (.whole limit), decide_eq_true_eq]
    have later := sequenceDelay_mono nonnegative cap ordered
    exact le_antisymm (sequenceDelay_le capped second) (reached ▸ later)

theorem fibonacci?_whole {base : Int} {cap : Option Int} (nonnegative : 0 ≤ base)
    (positive : ∀ limit, cap = some limit → 0 < limit) :
    fibonacci? (.whole base) (cap.map .whole) = .ok (.fibonacci (.whole base) (cap.map .whole)) := by
  have baseAccepted : checkBase (.whole base) = .ok () := by
    simp [checkBase, nonnegative]
  have capAccepted : checkCap (cap.map .whole) = .ok () := by
    cases cap with
    | none => rfl
    | some limit => simp [checkCap, positive limit rfl]
  rw [fibonacci?, baseAccepted, capAccepted]
  rfl

/-- With a whole base and a whole cap, or none, the strategy is accepted and has a delay after
every number of failed attempts. It is the formula's, although the sequence is left early. -/
theorem fibonacciDelay_whole {base : Int} {cap : Option Int} (nonnegative : 0 ≤ base)
    (positive : ∀ limit, cap = some limit → 0 < limit) :
    fibonacci? (.whole base) (cap.map .whole) =
        .ok (.fibonacci (.whole base) (cap.map .whole)) ∧
      ∃ delayAfter : Int → Scalar,
        (∀ attempt, fibonacciDelay (.whole base) (cap.map .whole) attempt =
          .ok (delayAfter attempt)) ∧
        FollowsSequence base cap delayAfter := by
  refine ⟨fibonacci?_whole nonnegative positive, ?_⟩
  choose delayAfter computes amounts using fibonacciDelay_amounts nonnegative positive
  exact ⟨delayAfter, computes, followsSequence_of_amounts nonnegative positive amounts⟩

/-- The cap of seven is reached at the fifth number, which is five. -/
theorem fibonacciDelay_whole_reached :
    ∃ delayAfter : Int → Scalar,
      (∀ attempt, fibonacciDelay (.whole 2) (some (.whole 7)) attempt = .ok (delayAfter attempt)) ∧
      FollowsSequence 2 (some 7) delayAfter ∧ (delayAfter 5).same (.whole 7) = true := by
  have nonnegative : (0 : Int) ≤ 2 := by decide
  have positive : ∀ limit : Int, some 7 = some limit → 0 < limit := by decide
  rcases fibonacciDelay_whole nonnegative positive with
    ⟨-, delayAfter, computes, follows⟩
  exact ⟨delayAfter, computes, follows, follows.formula (by decide)⟩

end Backoff

end Reattempt
