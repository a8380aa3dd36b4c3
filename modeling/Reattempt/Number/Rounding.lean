/-! Quotients of natural numbers rounded to the nearest integer. A quotient halfway
between two integers goes to the even one. -/

namespace Reattempt

/-- The integer nearest to `numerator / denominator`; an exact half goes to the even
neighbour. -/
def roundQuotient (numerator denominator : Nat) : Nat :=
  let quotient := numerator / denominator
  let twiceRest := 2 * (numerator % denominator)
  if twiceRest < denominator then quotient
  else if denominator < twiceRest then quotient + 1
  else if quotient % 2 = 0 then quotient
  else quotient + 1

/-- Two and a half and one and a half both round to two. -/
example : roundQuotient 5 2 = 2 ∧ roundQuotient 3 2 = 2 := by decide

/-- The rounded quotient is at most half a unit above the exact one. -/
theorem roundQuotient_le (numerator denominator : Nat) (positive : 0 < denominator) :
    2 * (roundQuotient numerator denominator * denominator) ≤ 2 * numerator + denominator := by
  have split := Nat.div_add_mod numerator denominator
  have bound := Nat.mod_lt numerator positive
  have product := Nat.mul_comm denominator (numerator / denominator)
  unfold roundQuotient
  simp only
  split
  · omega
  · split
    · rw [Nat.add_mul]; omega
    · split
      · omega
      · rw [Nat.add_mul]; omega

end Reattempt
