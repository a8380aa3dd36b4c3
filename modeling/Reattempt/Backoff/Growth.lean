import Reattempt.Backoff.Basic

/-! The delays of the strategies that use no chance, as functions of the number of
failed attempts. A delay that has reached the cap is the cap. -/

namespace Reattempt.Backoff

def capped (cap : Option Scalar) (delay : Scalar) : Scalar :=
  match cap with
  | none => delay
  | some cap => delay.least cap

def linearDelay (base : Scalar) (cap : Option Scalar) (attempt : Int) :
    Except ArithmeticFault Scalar := do
  return capped cap (← base.times (.whole attempt))

/-! ## Exponential growth -/

/-- Whether the cap is reached, decided by logarithms: the power itself may be too
large to be computed. The multiplier's logarithm is taken before the quotient of cap
and base. -/
def capReached (base multiplier cap : Scalar) (attempt : Int) : Except ArithmeticFault Bool := do
  if (Scalar.whole 1).below multiplier then
    let growth ← (Scalar.whole (attempt - 1)).times (.real (← multiplier.logarithm))
    let room ← (Scalar.real (← cap.quotient base)).logarithm
    return (Scalar.real room).atMost growth
  else return false

def grown (base multiplier : Scalar) (attempt : Int) : Except ArithmeticFault Scalar := do
  base.times (← multiplier.power (attempt - 1))

def exponentialDelay (base multiplier : Scalar) (cap : Option Scalar) (attempt : Int) :
    Except ArithmeticFault Scalar :=
  if base.same (.whole 0) then .ok (.real 0.0)
  else
    match cap with
    | none => grown base multiplier attempt
    | some cap =>
        if cap.atMost base then .ok cap
        else do
          if ← capReached base multiplier cap attempt then return cap
          return (← grown base multiplier attempt).least cap

/-! ## Fibonacci growth -/

def fibonacciFrom (base : Scalar) (cap : Option Scalar) :
    (steps previous current : Nat) → Except ArithmeticFault Scalar
  | 0, _, current => return capped cap (← base.times (.whole current))
  | steps + 1, previous, current =>
      match cap with
      | none => fibonacciFrom base cap steps current (previous + current)
      | some limit => do
          if limit.atMost (← base.times (.whole current)) then return limit
          fibonacciFrom base cap steps current (previous + current)

def fibonacciDelay (base : Scalar) (cap : Option Scalar) (attempt : Int) :
    Except ArithmeticFault Scalar :=
  if attempt ≤ 0 ∨ base.same (.whole 0) then .ok (.real 0.0)
  else fibonacciFrom base cap (attempt - 1).toNat 0 1

/-- The sequence starts 1, 1, 2, 3, 5, 8. -/
example : fibonacciDelay (.whole 10) none 6 = .ok (.whole 80) := by
  simp [fibonacciDelay, fibonacciFrom, capped]

end Reattempt.Backoff
