import Reattempt.Callable
import Reattempt.Number.Scalar

/-! Interval functions: how long to wait after the first, second and every further
failed attempt. The named strategies check their parameters when they are built; a
randomized one adds jitter around any interval function, and any function of the
caller serves as one. -/

namespace Reattempt

inductive Backoff where
  | constant (delay : Scalar)
  | linear (base : Scalar) (cap : Option Scalar)
  | exponential (base multiplier : Scalar) (cap : Option Scalar)
  | fibonacci (base : Scalar) (cap : Option Scalar)
  | randomized (inner : Backoff) (factor : Scalar)
  | custom (function : Callable)
  deriving Repr

inductive BackoffError where
  | negativeDelay (delay : Scalar)
  | negativeBase (base : Scalar)
  | shrinkingMultiplier (multiplier : Scalar)
  | capNotPositive (cap : Scalar)
  | factorOutOfRange (factor : Scalar)
  deriving Repr

namespace BackoffError

def message : BackoffError → String
  | .negativeDelay delay => s!"delay must be non-negative, got {delay.shown}"
  | .negativeBase base => s!"base_delay must be non-negative, got {base.shown}"
  | .shrinkingMultiplier multiplier => s!"multiplier must be >= 1, got {multiplier.shown}"
  | .capNotPositive cap => s!"max_delay must be positive if specified, got {cap.shown}"
  | .factorOutOfRange factor => s!"randomization_factor must be in [0, 1], got {factor.shown}"

end BackoffError

namespace Backoff

/-! ## Defaults -/

def defaultDelay : Scalar := .real 0.5
def defaultLinearBase : Scalar := .real 1.0
def defaultExponentialBase : Scalar := .real 0.5
def defaultMultiplier : Scalar := .real 1.5
def defaultFibonacciBase : Scalar := .real 1.0
def defaultFactor : Scalar := .real 0.5

/-! ## Building strategies

A parameter is refused only when it compares on the wrong side of its bound, so a
NaN passes every check but that of the randomization factor. -/

def checkBase (base : Scalar) : Except BackoffError Unit :=
  if base.below (.whole 0) then .error (.negativeBase base) else .ok ()

def checkCap : Option Scalar → Except BackoffError Unit
  | none => .ok ()
  | some cap => if cap.atMost (.whole 0) then .error (.capNotPositive cap) else .ok ()

def constant? (delay : Scalar) : Except BackoffError Backoff :=
  if delay.below (.whole 0) then .error (.negativeDelay delay) else .ok (.constant delay)

def linear? (base : Scalar) (cap : Option Scalar) : Except BackoffError Backoff := do
  checkBase base
  checkCap cap
  return .linear base cap

def exponential? (base multiplier : Scalar) (cap : Option Scalar) :
    Except BackoffError Backoff := do
  checkBase base
  if multiplier.below (.whole 1) then throw (.shrinkingMultiplier multiplier)
  checkCap cap
  return .exponential base multiplier cap

def fibonacci? (base : Scalar) (cap : Option Scalar) : Except BackoffError Backoff := do
  checkBase base
  checkCap cap
  return .fibonacci base cap

def randomized? (inner : Backoff) (factor : Scalar) : Except BackoffError Backoff :=
  if (Scalar.whole 0).atMost factor && factor.atMost (.whole 1) then .ok (.randomized inner factor)
  else .error (.factorOutOfRange factor)

/-! ## Text -/

def shownCap : Option Scalar → String
  | none => "None"
  | some cap => cap.shown

def shown : Backoff → String
  | .constant delay => s!"ConstantBackoff(delay={delay.shown})"
  | .linear base cap => s!"LinearBackoff(base_delay={base.shown}, max_delay={shownCap cap})"
  | .exponential base multiplier cap =>
      s!"ExponentialBackoff(base_delay={base.shown}, multiplier={multiplier.shown}, " ++
        s!"max_delay={shownCap cap})"
  | .fibonacci base cap => s!"FibonacciBackoff(base_delay={base.shown}, max_delay={shownCap cap})"
  | .randomized inner factor =>
      s!"RandomizedBackoff(strategy={inner.shown}, randomization_factor={factor.shown})"
  | .custom function => function.shown

end Backoff

end Reattempt
