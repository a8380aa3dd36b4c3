import Reattempt.Backoff.Growth
import Reattempt.Failure.Basic
import Reattempt.Proofs.Quotient

/-! When an exponential delay with a cap has no result. The logarithms of multiplier and
room are there to leave out the power where the cap is reached, but the room is a quotient
that may itself be too large, or be rounded to infinity, which no growth reaches. -/

namespace Reattempt

namespace Backoff

/-! ## Growth -/

inductive GrowthFault (attempt : Int) : (base multiplier : Scalar) → ArithmeticFault → Prop
  | power {base : Scalar} {multiplier steps : Float}
      (converts : (Scalar.whole (attempt - 1)).toReal = .ok steps)
      (infinite : (Float.pow multiplier steps).isInf = true) :
      GrowthFault attempt base (.real multiplier) .powerTooLarge
  | base {base : Int} {multiplier steps : Float}
      (converts : (Scalar.whole (attempt - 1)).toReal = .ok steps)
      (finite : (Float.pow multiplier steps).isInf = false)
      (large : Binary64.overflowBound ≤ base) :
      GrowthFault attempt (.whole base) (.real multiplier) .wholeTooLarge
  | factor {base : Float} {multiplier : Int}
      (large : Binary64.overflowBound ≤ multiplier ^ (attempt - 1).toNat) :
      GrowthFault attempt (.real base) (.whole multiplier) .wholeTooLarge

private theorem grown_real_eq {multiplier steps : Float} {attempt : Int} (base : Scalar)
    (finite : multiplier.isFinite = true)
    (converts : (Scalar.whole (attempt - 1)).toReal = .ok steps) :
    grown base (.real multiplier) attempt =
      if (Float.pow multiplier steps).isInf then .error .powerTooLarge
      else base.times (.real (Float.pow multiplier steps)) := by
  have powers : (Scalar.real multiplier).power (attempt - 1) =
      Scalar.realPower multiplier steps := by
    rw [Scalar.power, converts]
    · rfl
    · intro _ _ impossible
      cases impossible
  rw [grown, powers, Scalar.realPower, finite, Bool.true_and]
  split <;> rfl

private theorem grown_real_eq_error_iff {base : Scalar} {multiplier steps : Float} {attempt : Int}
    (above : base.IsAbove) (finite : multiplier.isFinite = true)
    (converts : (Scalar.whole (attempt - 1)).toReal = .ok steps) {fault : ArithmeticFault} :
    grown base (.real multiplier) attempt = .error fault ↔
      GrowthFault attempt base (.real multiplier) fault := by
  have unique {other : Float} (also : (Scalar.whole (attempt - 1)).toReal = .ok other) :
      other = steps := Except.ok.inj (also.symm.trans converts)
  rw [grown_real_eq base finite converts]
  split
  · next infinite =>
      constructor
      · intro same
        cases same
        exact .power converts infinite
      · intro explained
        cases explained with
        | power => rfl
        | base also finite large =>
            rw [unique also, infinite] at finite
            cases finite
  · next within =>
      rw [Bool.not_eq_true] at within
      cases above with
      | whole positive =>
          rw [Scalar.times_whole_real_eq_error_iff positive]
          constructor
          · rintro ⟨rfl, large⟩
            exact .base converts within large
          · intro explained
            cases explained with
            | power also infinite =>
                rw [unique also, within] at infinite
                cases infinite
            | base also finite large => exact ⟨rfl, large⟩
      | real measured =>
          constructor
          · intro impossible
            cases impossible
          · intro explained
            cases explained with
            | power also infinite =>
                rw [unique also, within] at infinite
                cases infinite

private theorem grown_whole_eq_error_iff {base : Scalar} {multiplier attempt : Int}
    (above : base.IsAbove) (growing : 1 ≤ multiplier) (first : 1 ≤ attempt)
    {fault : ArithmeticFault} :
    grown base (.whole multiplier) attempt = .error fault ↔
      GrowthFault attempt base (.whole multiplier) fault := by
  have steps : attempt - 1 = ((attempt - 1).toNat : Int) := by omega
  have powers : (Scalar.whole multiplier).power (attempt - 1) =
      .ok (.whole (multiplier ^ (attempt - 1).toNat)) := by
    rw [steps, Scalar.power_whole]
    rfl
  have positive : 0 < multiplier ^ (attempt - 1).toNat := Int.pow_pos (by omega)
  have grows : grown base (.whole multiplier) attempt =
      base.times (.whole (multiplier ^ (attempt - 1).toNat)) := by
    rw [grown, powers]
    rfl
  rw [grows]
  cases above with
  | whole =>
      rw [Scalar.times_whole]
      constructor
      · intro impossible
        cases impossible
      · intro impossible
        cases impossible
  | real measured =>
      rw [Scalar.times_real_whole_eq_error_iff positive]
      constructor
      · rintro ⟨rfl, large⟩
        exact .factor large
      · intro explained
        cases explained with
        | factor large => exact ⟨rfl, large⟩

/-! ## The cap -/

private theorem exists_logarithm {multiplier : Scalar} (finite : multiplier.IsFinite)
    (growing : (Scalar.whole 1).below multiplier = true) :
    ∃ value, multiplier.logarithm = .ok value := by
  cases multiplier with
  | whole multiplier =>
      rw [Scalar.below_whole, decide_eq_true_eq] at growing
      rw [Scalar.logarithm, if_neg (by omega)]
      split
      · exact ⟨_, rfl⟩
      · exact ⟨_, rfl⟩
  | real multiplier =>
      rw [Scalar.below, Scalar.order, beq_iff_eq] at growing
      obtain ⟨significand, exponent, measured, -⟩ :=
        Scalar.measures_of_compareInt finite (by decide) growing
      rw [Scalar.logarithm, if_neg (Binary64.not_le_zero measured.isPositive)]
      exact ⟨_, rfl⟩

section capReached

variable {base multiplier cap : Scalar} {attempt : Int} {converted : Float}

/-- Only the quotient of cap and base may be at fault. Both logarithms exist. -/
theorem capReached_eq_error_iff (finite : multiplier.IsFinite) (first : 1 ≤ attempt)
    (converts : (Scalar.whole attempt).toReal = .ok converted)
    (contract : Scalar.QuotientContract cap base) {fault : ArithmeticFault} :
    capReached base multiplier cap attempt = .error fault ↔
      (Scalar.whole 1).below multiplier = true ∧ Scalar.QuotientFault cap base fault := by
  rw [capReached]
  split
  · next growing =>
      obtain ⟨growth, grows⟩ := exists_logarithm finite growing
      obtain ⟨steps, converts⟩ := Scalar.toReal_pred (by omega) converts
      have multiplies : (Scalar.whole (attempt - 1)).times (.real growth) =
          .ok (.real (steps * growth)) := by
        simp only [Scalar.times, Scalar.combine, converts]
        rfl
      rw [grows, ← contract.fault, growing]
      simp only [bind, Except.bind, multiplies, true_and]
      cases divides : cap.quotient base with
      | error other => simp only [Except.error.injEq]
      | ok quotient =>
          have above := contract.above divides
          simp only [Scalar.logarithm, if_neg above]
          constructor
          · intro impossible
            cases impossible
          · intro impossible
            cases impossible
  · next flat =>
      rw [Bool.not_eq_true] at flat
      simp only [flat, Bool.false_eq_true, false_and, iff_false]
      intro impossible
      cases impossible

end capReached

inductive CappedFault (base multiplier cap : Scalar) (attempt : Int) (fault : ArithmeticFault) :
    Prop
  /-- The cap is too far above the base for a quotient, or too large itself. -/
  | room (growing : (Scalar.whole 1).below multiplier = true)
      (explained : Scalar.QuotientFault cap base fault)
  /-- The logarithms do not answer that the cap is reached, and the plain formula fails. -/
  | growth (unreached : capReached base multiplier cap attempt = .ok false)
      (explained : GrowthFault attempt base multiplier fault)

theorem CappedFault.overflow {base multiplier cap : Scalar} {attempt : Int}
    {fault : ArithmeticFault} (capped : CappedFault base multiplier cap attempt fault) :
    fault.failureType = .overflow := by
  cases capped with
  | room growing explained => cases explained <;> rfl
  | growth unreached explained => cases explained <;> rfl

theorem exponential?_eq_ok_iff {base multiplier cap : Scalar} {backoff : Backoff} :
    exponential? base multiplier (some cap) = .ok backoff ↔
      (base.below (.whole 0) = false ∧ multiplier.below (.whole 1) = false ∧
        cap.atMost (.whole 0) = false) ∧ backoff = .exponential base multiplier (some cap) := by
  simp only [exponential?, checkBase, checkCap, bind, Except.bind]
  cases base.below (.whole 0) with
  | true => simp
  | false =>
      cases multiplier.below (.whole 1) with
      | true => simp [throw, throwThe, MonadExceptOf.throw]
      | false =>
          cases cap.atMost (.whole 0) with
          | true => simp
          | false => simp [pure, Except.pure, eq_comm]

theorem exponentialDelay_eq_error_iff {base multiplier cap : Scalar} {attempt : Int}
    {converted : Float} (above : base.IsAbove) (contract : Scalar.QuotientContract cap base)
    (growing : multiplier.below (.whole 1) = false) (finite : multiplier.IsFinite)
    (first : 1 ≤ attempt) (converts : (Scalar.whole attempt).toReal = .ok converted)
    (something : base.same (.whole 0) = false) (exceeds : cap.atMost base = false)
    {fault : ArithmeticFault} :
    exponentialDelay base multiplier (some cap) attempt = .error fault ↔
      CappedFault base multiplier cap attempt fault := by
  have reaches := @capReached_eq_error_iff base multiplier cap attempt converted finite first
    converts contract
  have grows : grown base multiplier attempt = .error fault ↔
      GrowthFault attempt base multiplier fault := by
    cases multiplier with
    | whole multiplier =>
        rw [Scalar.below_whole, decide_eq_false_iff_not, Int.not_lt] at growing
        exact grown_whole_eq_error_iff above growing first
    | real multiplier =>
        obtain ⟨steps, converts⟩ := Scalar.toReal_pred (by omega) converts
        exact grown_real_eq_error_iff above finite converts
  simp only [exponentialDelay, something, exceeds, bind, Except.bind]
  cases answer : capReached base multiplier cap attempt with
  | error other =>
      have explained := reaches.mp answer
      constructor
      · intro same
        cases same
        exact .room explained.1 explained.2
      · intro capped
        cases capped with
        | room growing alike =>
            have same := reaches.mpr ⟨growing, alike⟩
            rw [answer] at same
            cases same
            rfl
        | growth unreached =>
            rw [answer] at unreached
            cases unreached
  | ok reached =>
      have faultless (capped : CappedFault base multiplier cap attempt fault) :
          reached = false ∧ GrowthFault attempt base multiplier fault := by
        cases capped with
        | room growing explained =>
            have fails := reaches.mpr ⟨growing, explained⟩
            rw [answer] at fails
            cases fails
        | growth unreached explained =>
            rw [answer] at unreached
            exact ⟨Except.ok.inj unreached, explained⟩
      cases reached with
      | true =>
          constructor
          · intro impossible
            cases impossible
          · intro capped
            cases (faultless capped).1
      | false =>
          rw [show CappedFault base multiplier cap attempt fault ↔
            GrowthFault attempt base multiplier fault from
            ⟨fun capped => (faultless capped).2, fun explained => .growth answer explained⟩,
            ← grows]
          cases grown base multiplier attempt with
          | error other => exact Iff.rfl
          | ok delay =>
              constructor
              · intro impossible
                cases impossible
              · intro impossible
                cases impossible

/-- A capped delay has a result except in the cases of `CappedFault`, all of which are
overflows. -/
theorem exponentialDelay_capped_fault {base multiplier cap : Scalar} {attempt : Int}
    {backoff : Backoff} {converted : Float}
    (accepted : exponential? base multiplier (some cap) = .ok backoff)
    (baseFinite : base.IsFinite) (multiplierFinite : multiplier.IsFinite)
    (capFinite : cap.IsFinite) (first : 1 ≤ attempt)
    (converts : (Scalar.whole attempt).toReal = .ok converted) :
    (∀ fault, exponentialDelay base multiplier (some cap) attempt = .error fault ↔
      base.same (.whole 0) = false ∧ cap.atMost base = false ∧
        CappedFault base multiplier cap attempt fault) ∧
    ∀ fault, exponentialDelay base multiplier (some cap) attempt = .error fault →
      fault.failureType = .overflow := by
  obtain ⟨⟨nonnegative, growing, positive⟩, -⟩ := exponential?_eq_ok_iff.mp accepted
  have capAbove := Scalar.isAbove_of_order capFinite (Scalar.order_of_not_atMost capFinite positive)
  have characterized (fault : ArithmeticFault) :
      exponentialDelay base multiplier (some cap) attempt = .error fault ↔
        base.same (.whole 0) = false ∧ cap.atMost base = false ∧
          CappedFault base multiplier cap attempt fault := by
    cases something : base.same (.whole 0) with
    | true =>
        rw [exponentialDelay, if_pos something]
        simp
    | false =>
        cases exceeds : cap.atMost base with
        | true =>
            rw [exponentialDelay, if_neg (by simp [something])]
            simp [exceeds]
        | false =>
            have baseAbove := Scalar.isAbove_of_order baseFinite
              (Scalar.order_of_not_below baseFinite nonnegative something)
            have contract := Scalar.quotientContract capFinite capAbove baseAbove exceeds
            rw [exponentialDelay_eq_error_iff baseAbove contract growing multiplierFinite first
              converts something exceeds]
            simp
  exact ⟨characterized, fun fault fails => ((characterized fault).mp fails).2.2.overflow⟩

/-- A cap beyond the largest double cannot be divided by a base of a half. -/
theorem exponentialDelay_capped_fault_half :
    (∃ backoff, exponential? (.real 0.5) (.whole 2) (some (.whole (Nat.pow 10 400))) =
        .ok backoff) ∧
      (Scalar.whole 1).toReal = .ok 1.0 ∧
      exponentialDelay (.real 0.5) (.whole 2) (some (.whole (Nat.pow 10 400))) 1 =
        .error .wholeTooLarge := by
  have accepted : exponential? (.real 0.5) (.whole 2) (some (.whole (Nat.pow 10 400))) =
      .ok (.exponential (.real 0.5) (.whole 2) (some (.whole (Nat.pow 10 400)))) :=
    exponential?_eq_ok_iff.mpr ⟨by decide +kernel, rfl⟩
  have half : (0.5 : Float).isFinite = true := by decide +kernel
  have converts : (Scalar.whole 1).toReal = .ok 1.0 := rfl
  have large : (Binary64.overflowBound : Int) ≤ Nat.pow 10 400 := by decide +kernel
  refine ⟨⟨_, accepted⟩, converts, ?_⟩
  exact ((exponentialDelay_capped_fault accepted half trivial trivial (by decide) converts).1
    _).mpr ⟨by decide +kernel, by decide +kernel, .room rfl (.dividend large)⟩

/-- A capped strategy fails for the first attempt already, whose delay would be one. -/
theorem exponentialDelay_capped_fails :
    (∃ backoff, exponential? (.whole 1) (.whole 2) (some (.whole (Nat.pow 10 400))) =
        .ok backoff) ∧
      (Scalar.whole 1).toReal = .ok 1.0 ∧
      exponentialDelay (.whole 1) (.whole 2) none 1 = .ok (.whole 1) ∧
      exponentialDelay (.whole 1) (.whole 2) (some (.whole (Nat.pow 10 400))) 1 =
        .error .quotientTooLarge := by
  have accepted : exponential? (.whole 1) (.whole 2) (some (.whole (Nat.pow 10 400))) =
      .ok (.exponential (.whole 1) (.whole 2) (some (.whole (Nat.pow 10 400)))) :=
    exponential?_eq_ok_iff.mpr ⟨by decide +kernel, rfl⟩
  have converts : (Scalar.whole 1).toReal = .ok 1.0 := rfl
  have exceeds : (Scalar.whole (Nat.pow 10 400)).atMost (.whole 1) = false := by decide +kernel
  have contract : Scalar.QuotientContract (.whole (Nat.pow 10 400)) (.whole 1) :=
    .of_wholes (by decide) exceeds
  have large : (Binary64.overflowBound * 1 : Int) ≤ Nat.pow 10 400 := by decide +kernel
  have above : (Scalar.whole 1).IsAbove := .whole (by decide)
  have growing : (Scalar.whole 2).below (.whole 1) = false := rfl
  refine ⟨⟨_, accepted⟩, converts, rfl, ?_⟩
  exact (exponentialDelay_eq_error_iff above contract growing trivial (by decide) converts rfl
    exceeds).mpr (.room rfl (.quotient large))

end Backoff

end Reattempt
