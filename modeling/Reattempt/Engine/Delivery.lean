import Reattempt.Engine.Action

/-! Delivering events. The listeners of an event are those registered for its kind
when its delivery starts. They are called one after another in the order of their
registration; one that raises an ordinary failure is reported and the delivery goes
on, any other failure ends it. -/

namespace Reattempt

variable {σ α : Type}

namespace Behaviour

/-- Carry out a behaviour, given how an event is delivered. -/
def perform (deliver : Nat → Event → Action σ Unit) : Behaviour σ α → Action σ α
  | .answer value => pure value
  | .raise failure => throw failure
  | .look next => do
      let world ← get
      perform deliver (next world.toSituation world.memory)
  | .remember memory next => do
      modify fun world => { world with memory }
      perform deliver next
  | .cancel call next => do
      Action.cancel call
      perform deliver next
  | .listen publisher kinds listener next => do
      modify (World.register publisher kinds listener)
      perform deliver next
  | .publish publisher event next => do
      deliver publisher event
      perform deliver next
  | .note remark next => do
      Action.observe (.remarked remark)
      perform deliver next

end Behaviour

namespace Environment

/-- Call one listener with an event and report the ordinary failure it may raise. A
failure that cannot be worded raises another one. -/
def notify (environment : Environment σ) (deliver : Nat → Event → Action σ Unit) (publisher : Nat)
    (event : Event) (kind : EventKind) (listener : Listener) : Action σ Unit := do
  let world ← get
  Action.observe (.delivered publisher listener event world.links)
  try
    (environment.listener publisher listener event).perform deliver
  catch failure =>
    if failure.isA .ordinary then
      let text ← Action.write failure.text
      Action.log .warning .publisher
        s!"Error in retry '{event.policyName}' {kind.name} listener: {text}"
    else throw failure

/-- Deliver an event when deliveries may nest `depth` deep, this one included. -/
def deliverWithin (environment : Environment σ) :
    (depth : Nat) → (publisher : Nat) → Event → Action σ Unit
  | 0, _, _ => Action.fail .recursion "maximum recursion depth exceeded"
  | depth + 1, publisher, event =>
      match event.kind? with
      | none => Action.fail EventError.noKind.failureType EventError.noKind.message
      | some kind => do
          let world ← get
          ((world.listenersOf publisher).listeners kind).forM
            (environment.notify (deliverWithin environment depth) publisher event kind)

def publish (environment : Environment σ) (publisher : Nat) (event : Event) : Action σ Unit :=
  environment.deliverWithin (environment.depth + 1) publisher event

def run (environment : Environment σ) (behaviour : Behaviour σ α) : Action σ α :=
  behaviour.perform environment.publish

/-- A delivery asks for no code but that of the listeners. -/
theorem deliverWithin_congr {environment other : Environment σ}
    (same : environment.listener = other.listener) (depth : Nat) :
    environment.deliverWithin depth = other.deliverWithin depth := by
  induction depth with
  | zero => rfl
  | succ depth induction =>
      funext publisher event
      unfold deliverWithin notify
      rw [induction, same]

/-- Code that runs by itself comes to no other code but that of the listeners. -/
theorem run_congr {environment other : Environment σ}
    (listeners : environment.listener = other.listener)
    (depths : environment.depth = other.depth) (code : Behaviour σ α) :
    environment.run code = other.run code := by
  have same : environment.publish = other.publish := by
    funext publisher event
    rw [publish, publish, depths, deliverWithin_congr listeners]
  rw [run, run, same]

end Environment

end Reattempt
