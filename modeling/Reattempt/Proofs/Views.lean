import Reattempt.Engine.World

/-! What a world says about one call and about one publisher: the steps of the call
and the deliveries of the publisher, read off the trace, with what the changes of a
world mean for them. -/

namespace Reattempt

namespace Observation

def stepOf? (call : Nat) : Observation → Option CallStep
  | .ofCall number step => if number = call then some step else none
  | _ => none

def deliveryOf? (publisher : Nat) : Observation → Option (Listener × Event)
  | .delivered number listener event _ =>
      if number = publisher then some (listener, event) else none
  | _ => none

/-- Everything but the steps of calls can be observed while the caller's code runs. -/
def IsOutside : Observation → Prop
  | .ofCall _ _ => False
  | _ => True

theorem stepOf?_eq_none {observation : Observation} (outside : observation.IsOutside)
    (call : Nat) : observation.stepOf? call = none := by
  cases observation with
  | ofCall number step => exact outside.elim
  | _ => rfl

/-- The caller's code takes no steps of calls, and it has no part in the numbers that are drawn. -/
def IsFromCode : Observation → Prop
  | .ofCall _ _ | .drawn _ _ => False
  | _ => True

theorem IsFromCode.isOutside {observation : Observation} (fromCode : observation.IsFromCode) :
    observation.IsOutside := by
  cases observation with
  | ofCall number step => exact fromCode.elim
  | _ => trivial

end Observation

namespace World

variable {σ : Type}

def stepsOf (world : World σ) (call : Nat) : List CallStep :=
  world.trace.filterMap (Observation.stepOf? call)

def deliveriesOf (world : World σ) (publisher : Nat) : List (Listener × Event) :=
  world.trace.filterMap (Observation.deliveryOf? publisher)

/-- The number of events of a kind that a listener received from a publisher. -/
def received (world : World σ) (publisher : Nat) (listener : Listener) (kind : EventKind) : Nat :=
  (world.deliveriesOf publisher).countP fun delivery =>
    delivery.1 = listener ∧ delivery.2.kind? = some kind

def note (world : World σ) (call : Call) (step : CallStep) : World σ :=
  world.observe (.ofCall call.number step)

/-! ## Steps -/

theorem stepsOf_observe (world : World σ) (observation : Observation) (call : Nat) :
    (world.observe observation).stepsOf call =
      world.stepsOf call ++ (observation.stepOf? call).toList := by
  unfold stepsOf
  rw [trace_observe, List.filterMap_append]
  cases found : observation.stepOf? call <;> simp [found]

theorem stepsOf_observe_outside (world : World σ) (observation : Observation)
    (outside : observation.IsOutside) (call : Nat) :
    (world.observe observation).stepsOf call = world.stepsOf call := by
  rw [stepsOf_observe, Observation.stepOf?_eq_none outside]
  simp

@[simp] theorem stepsOf_logged (world : World σ) (entry : LogEntry) (call : Nat) :
    (world.observe (.logged entry)).stepsOf call = world.stepsOf call :=
  world.stepsOf_observe_outside (.logged entry) trivial call

@[simp] theorem stepsOf_note (world : World σ) (call : Call) (step : CallStep) :
    (world.note call step).stepsOf call.number = world.stepsOf call.number ++ [step] := by
  simp [note, stepsOf_observe, Observation.stepOf?]

@[simp] theorem stepsOf_changeProgress (world : World σ) (number : Nat)
    (change : Progress → Progress) (call : Nat) :
    (world.changeProgress number change).stepsOf call = world.stepsOf call :=
  rfl

@[simp] theorem stepsOf_changeCounters (world : World σ) (policy : Nat)
    (change : Counters → Counters) (call : Nat) :
    (world.changeCounters policy change).stepsOf call = world.stepsOf call :=
  rfl

/-! ## Deliveries -/

theorem deliveriesOf_observe (world : World σ) (observation : Observation) (publisher : Nat) :
    (world.observe observation).deliveriesOf publisher =
      world.deliveriesOf publisher ++ (observation.deliveryOf? publisher).toList := by
  unfold deliveriesOf
  rw [trace_observe, List.filterMap_append]
  cases found : observation.deliveryOf? publisher <;> simp [found]

@[simp] theorem deliveriesOf_logged (world : World σ) (entry : LogEntry) (publisher : Nat) :
    (world.observe (.logged entry)).deliveriesOf publisher = world.deliveriesOf publisher := by
  simp [deliveriesOf_observe, Observation.deliveryOf?]

@[simp] theorem deliveriesOf_note (world : World σ) (call : Call) (step : CallStep)
    (publisher : Nat) :
    (world.note call step).deliveriesOf publisher = world.deliveriesOf publisher := by
  simp [note, deliveriesOf_observe, Observation.deliveryOf?]

@[simp] theorem deliveriesOf_changeProgress (world : World σ) (number : Nat)
    (change : Progress → Progress) (publisher : Nat) :
    (world.changeProgress number change).deliveriesOf publisher = world.deliveriesOf publisher :=
  rfl

@[simp] theorem deliveriesOf_changeCounters (world : World σ) (policy : Nat)
    (change : Counters → Counters) (publisher : Nat) :
    (world.changeCounters policy change).deliveriesOf publisher = world.deliveriesOf publisher :=
  rfl

/-! ## Progress and counters -/

@[simp] theorem progressOf_observe (world : World σ) (observation : Observation) (call : Nat) :
    (world.observe observation).progressOf call = world.progressOf call :=
  rfl

@[simp] theorem progressOf_note (world : World σ) (call : Call) (step : CallStep) (other : Nat) :
    (world.note call step).progressOf other = world.progressOf other :=
  rfl

@[simp] theorem progressOf_changeCounters (world : World σ) (policy : Nat)
    (change : Counters → Counters) (call : Nat) :
    (world.changeCounters policy change).progressOf call = world.progressOf call :=
  rfl

@[simp] theorem countersOf_observe (world : World σ) (observation : Observation) (policy : Nat) :
    (world.observe observation).countersOf policy = world.countersOf policy :=
  rfl

@[simp] theorem countersOf_note (world : World σ) (call : Call) (step : CallStep) (policy : Nat) :
    (world.note call step).countersOf policy = world.countersOf policy :=
  rfl

@[simp] theorem countersOf_changeProgress (world : World σ) (number : Nat)
    (change : Progress → Progress) (policy : Nat) :
    (world.changeProgress number change).countersOf policy = world.countersOf policy :=
  rfl

end World

end Reattempt
