/-! The outcomes of all calls of a policy, counted. A call is counted once, when it
succeeds, is rejected or has used up its attempts. -/

namespace Reattempt

structure Counters where
  succeededAtOnce : Nat := 0
  succeededAfterRetry : Nat := 0
  rejected : Nat := 0
  exhausted : Nat := 0
  deriving DecidableEq, Repr

namespace Counters

def countSuccess (counters : Counters) (retried : Bool) : Counters :=
  if retried then { counters with succeededAfterRetry := counters.succeededAfterRetry + 1 }
  else { counters with succeededAtOnce := counters.succeededAtOnce + 1 }

def countRejection (counters : Counters) : Counters :=
  { counters with rejected := counters.rejected + 1 }

def countExhaustion (counters : Counters) : Counters :=
  { counters with exhausted := counters.exhausted + 1 }

def countFailure (counters : Counters) (retried : Bool) : Counters :=
  if retried then counters.countExhaustion else counters.countRejection

def total (counters : Counters) : Nat :=
  counters.succeededAtOnce + counters.succeededAfterRetry + counters.rejected +
    counters.exhausted

def shown (counters : Counters) : String :=
  s!"MetricsSnapshot(successful_calls_without_retry={counters.succeededAtOnce}, " ++
    s!"successful_calls_with_retry={counters.succeededAfterRetry}, " ++
    s!"failed_calls_without_retry={counters.rejected}, " ++
    s!"failed_calls_with_retry={counters.exhausted})"

end Counters

end Reattempt
