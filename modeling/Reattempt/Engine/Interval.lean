import Reattempt.Backoff.Growth
import Reattempt.Engine.Delivery

/-! Asking interval functions for a delay. A randomized one asks the function it
wraps, takes a number at random around the answer and never goes below zero. -/

namespace Reattempt

variable {σ : Type}

namespace Environment

/-- A number between the bounds, as far along as the next draw says. -/
def uniform (environment : Environment σ) (low high : Scalar) : Action σ Scalar := do
  let draw ← environment.run (environment.draw low high)
  Action.observe (.drawn low high)
  let width ← Action.calculate (high.minus low)
  let shift ← Action.calculate (width.times (.real draw))
  Action.calculate (low.plus shift)

/-- Spread a delay by a factor of itself to both sides. -/
def jitter (environment : Environment σ) (factor delay : Scalar) : Action σ Scalar := do
  let spread ← Action.calculate (factor.times delay)
  let low ← Action.calculate (delay.minus spread)
  let high ← Action.calculate (delay.plus spread)
  return (Scalar.real 0.0).greatest (← environment.uniform low high)

def delay (environment : Environment σ) : Backoff → (attempt : Int) → Action σ Scalar
  | .constant delay, _ => pure delay
  | .linear base cap, attempt => Action.calculate (Backoff.linearDelay base cap attempt)
  | .exponential base multiplier cap, attempt =>
      Action.calculate (Backoff.exponentialDelay base multiplier cap attempt)
  | .fibonacci base cap, attempt => Action.calculate (Backoff.fibonacciDelay base cap attempt)
  | .randomized inner factor, attempt => do
      environment.jitter factor (← environment.delay inner attempt)
  | .custom function, attempt => environment.run (environment.interval function attempt)

end Environment

end Reattempt
