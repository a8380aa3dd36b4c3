import Reattempt.Engine.World

/-! What the caller's own code does when the library calls it. A behaviour may look
at the situation and at its own memory, change its memory, and use the public
operations of the library; at the end it answers or raises a failure. It can reach
nothing else, and it always ends. -/

namespace Reattempt

inductive Behaviour (σ : Type) (α : Type) where
  | answer (value : α)
  | raise (failure : Failure)
  | look (next : Situation → σ → Behaviour σ α)
  | remember (memory : σ) (next : Behaviour σ α)
  | cancel (call : Nat) (next : Behaviour σ α)
  | listen (publisher : Nat) (kinds : List EventKind) (listener : Listener)
      (next : Behaviour σ α)
  | publish (publisher : Nat) (event : Event) (next : Behaviour σ α)
  | note (remark : Remark) (next : Behaviour σ α)

namespace Behaviour

variable {σ α β : Type}

def bind (first : Behaviour σ α) (next : α → Behaviour σ β) : Behaviour σ β :=
  match first with
  | .answer value => next value
  | .raise failure => .raise failure
  | .look rest => .look fun situation memory => (rest situation memory).bind next
  | .remember memory rest => .remember memory (rest.bind next)
  | .cancel call rest => .cancel call (rest.bind next)
  | .listen publisher kinds listener rest => .listen publisher kinds listener (rest.bind next)
  | .publish publisher event rest => .publish publisher event (rest.bind next)
  | .note remark rest => .note remark (rest.bind next)

instance : Monad (Behaviour σ) where
  pure := .answer
  bind := bind

end Behaviour

/-- The code that the library may call. Custom interval functions, predicates and
listeners are called by name; a predicate may be asked about a missing failure. A
wait behaves as the code that runs while the call is waiting, and its lag as the code
that runs after the end of the wait and before the call goes on. A sleep function of
the caller has no lag. -/
structure Environment (σ : Type) where
  interval : Callable → Int → Behaviour σ Scalar
  predicate : Callable → Option Failure → Behaviour σ Bool
  listener : (publisher : Nat) → Listener → Event → Behaviour σ Unit
  wait : WaitKind → Scalar → Behaviour σ Unit
  lag : WaitKind → Behaviour σ Unit := fun _ => .answer ()
  /-- A number from the unit interval, wanted for a number between two bounds. -/
  draw : (low high : Scalar) → Behaviour σ Float
  /-- How deep deliveries may nest inside a delivery when listeners publish events
  themselves. -/
  depth : Nat

end Reattempt
