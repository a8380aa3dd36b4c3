import Reattempt.Proofs.Outside

/-! Code of the caller that keeps to itself. It looks, remembers, makes remarks and ends as it
likes, but it uses nothing of the library: it cancels no call, registers no listener and
publishes no event. Then all calls, all listeners and all deliveries stay as they are. -/

namespace Reattempt

variable {σ α : Type}

def Behaviour.Aloof : Behaviour σ α → Prop
  | .answer _ | .raise _ => True
  | .look next => ∀ situation memory, (next situation memory).Aloof
  | .remember _ next | .note _ next => next.Aloof
  | .cancel _ _ | .listen _ _ _ _ | .publish _ _ _ => False

/-- The code that is asked about failures and intervals and that sleeps uses nothing of the
library. Listeners may do so. -/
structure Environment.Aloof (environment : Environment σ) : Prop where
  predicate : ∀ function failure, (environment.predicate function failure).Aloof
  interval : ∀ function attempt, (environment.interval function attempt).Aloof
  draw : ∀ low high, (environment.draw low high).Aloof
  wait : ∀ kind interval, (environment.wait kind interval).Aloof

namespace World

structure Aside (before after : World σ) : Prop where
  progress : after.progress = before.progress
  tables : after.tables = before.tables
  deliveries : ∀ publisher, after.deliveriesOf publisher = before.deliveriesOf publisher

namespace Aside

instance : IsPreorder (World σ) Aside where
  refl _ := ⟨rfl, rfl, fun _ => rfl⟩
  trans _ _ _ begun ended :=
    { progress := ended.progress.trans begun.progress
      tables := ended.tables.trans begun.tables
      deliveries := fun publisher =>
        (ended.deliveries publisher).trans (begun.deliveries publisher) }

theorem observe (world : World σ) {observation : Observation}
    (silent : ∀ publisher, observation.deliveryOf? publisher = none) :
    Aside world (world.observe observation) where
  progress := rfl
  tables := rfl
  deliveries publisher := by
    rw [deliveriesOf_observe, silent]
    simp

variable {before after : World σ} (aside : Aside before after)

include aside

theorem progressOf (call : Nat) : after.progressOf call = before.progressOf call := by
  rw [Situation.progressOf, Situation.progressOf, aside.progress]

theorem listenersOf (publisher : Nat) :
    after.listenersOf publisher = before.listenersOf publisher := by
  rw [World.listenersOf, World.listenersOf, aside.tables]

end Aside

end World

open World Reattempt.Action

theorem Behaviour.Aloof.perform {deliver : Nat → Event → Action σ Unit}
    {behaviour : Behaviour σ α} (aloof : behaviour.Aloof) : (behaviour.perform deliver).Keeps Aside := by
  induction behaviour with
  | answer value => exact keeps_pure value
  | raise failure => exact keeps_throw failure
  | look next induction =>
      intro world
      exact induction _ _ (aloof world.toSituation world.memory) world
  | remember memory next induction =>
      have written : (modify fun world : World σ => { world with memory } : Action σ Unit).Keeps
          Aside := fun world => ⟨rfl, rfl, fun _ => rfl⟩
      exact Keeps.bind written fun _ => induction aloof
  | note remark next induction =>
      have noted : (Action.observe (.remarked remark) : Action σ Unit).Keeps Aside :=
        fun world => .observe world fun _ => rfl
      exact Keeps.bind noted fun _ => induction aloof
  | cancel call next induction => exact aloof.elim
  | listen publisher kinds listener next induction => exact aloof.elim
  | publish publisher event next induction => exact aloof.elim

namespace Environment.Aloof

variable {environment : Environment σ} (aloof : environment.Aloof)

include aloof

theorem ignoresQuestions : IgnoresQuestions environment Aside where
  drawn world _ _ := .observe world fun _ => rfl
  newIdentity _ := ⟨rfl, rfl, fun _ => rfl⟩
  predicate function failure := (aloof.predicate function failure).perform
  interval function attempt := (aloof.interval function attempt).perform
  draw low high := (aloof.draw low high).perform

theorem isRetryable (config : Config) (failure : Option Failure) :
    (environment.isRetryable config failure).Keeps Aside :=
  aloof.ignoresQuestions.keeps_isRetryable config failure

theorem delay (backoff : Backoff) (attempt : Int) :
    (environment.delay backoff attempt).Keeps Aside :=
  aloof.ignoresQuestions.keeps_delay backoff attempt

theorem sleep (kind : WaitKind) (interval : Scalar) :
    (environment.run (environment.wait kind interval)).Keeps Aside :=
  (aloof.wait kind interval).perform

end Environment.Aloof

end Reattempt
