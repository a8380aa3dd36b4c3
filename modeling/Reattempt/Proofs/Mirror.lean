import Reattempt.Proofs.Alike

/-! Actions that mirror each other: from alike worlds they end in the same way, in alike
worlds. The caller's code mirrors itself, whatever it does, and so does everything that
the engine does between two waits. -/

namespace Reattempt

variable {σ α β : Type}

open World

inductive ResultsAlike :
    EStateM.Result Failure (World σ) α → EStateM.Result Failure (World σ) α → Prop
  | ok {value : α} {left right : World σ} (alike : Alike left right) :
      ResultsAlike (.ok value left) (.ok value right)
  | error {failure : Failure} {left right : World σ} (alike : Alike left right) :
      ResultsAlike (.error failure left) (.error failure right)

namespace Action

def Mirrors (first second : Action σ α) : Prop :=
  ∀ {left right : World σ}, Alike left right → ResultsAlike (first left) (second right)

theorem mirrors_pure (value : α) : Mirrors (pure value : Action σ α) (pure value) :=
  fun alike => .ok alike

theorem mirrors_throw (failure : Failure) : Mirrors (throw failure : Action σ α) (throw failure) :=
  fun alike => .error alike

theorem mirrors_modify {change other : World σ → World σ}
    (changes : ∀ {left right}, Alike left right → Alike (change left) (other right)) :
    Mirrors (modify change : Action σ Unit) (modify other) :=
  fun alike => .ok (changes alike)

theorem Mirrors.bind {first second : Action σ α} {next other : α → Action σ β}
    (begun : Mirrors first second) (rest : ∀ value, Mirrors (next value) (other value)) :
    Mirrors (first >>= next) (second >>= other) := by
  intro left right alike
  simp only [bind_apply]
  have results := begun alike
  generalize first left = leftResult at results ⊢
  generalize second right = rightResult at results ⊢
  cases results with
  | ok alike => exact rest _ alike
  | error alike => exact .error alike

theorem Mirrors.of_ok {first second : Action σ α} (mirrors : Mirrors first second)
    {left right nextLeft nextRight : World σ} {value other : α} (alike : Alike left right)
    (leftEnds : first left = .ok value nextLeft) (rightEnds : second right = .ok other nextRight) :
    Alike nextLeft nextRight := by
  have results := mirrors alike
  rw [leftEnds, rightEnds] at results
  cases results with
  | ok alike => exact alike

theorem Mirrors.of_error {first second : Action σ α} (mirrors : Mirrors first second)
    {left right nextLeft nextRight : World σ} {failure other : Failure} (alike : Alike left right)
    (leftEnds : first left = .error failure nextLeft)
    (rightEnds : second right = .error other nextRight) : Alike nextLeft nextRight := by
  have results := mirrors alike
  rw [leftEnds, rightEnds] at results
  cases results with
  | error alike => exact alike

theorem mirrors_get_bind {next other : World σ → Action σ α}
    (rest : ∀ {left right}, Alike left right → ResultsAlike (next left left) (other right right)) :
    Mirrors (get >>= next) (get >>= other) := by
  intro left right alike
  simp only [bind_apply, get_apply]
  exact rest alike

theorem Mirrors.tryCatch {first second : Action σ α} {handle other : Failure → Action σ α}
    (begun : Mirrors first second) (handled : ∀ failure, Mirrors (handle failure) (other failure)) :
    Mirrors (tryCatch first handle) (tryCatch second other) := by
  intro left right alike
  simp only [tryCatch_apply]
  have results := begun alike
  generalize first left = leftResult at results ⊢
  generalize second right = rightResult at results ⊢
  cases results with
  | ok alike => exact .ok alike
  | error alike => exact handled _ alike

theorem mirrors_forM {γ : Type} {items : List γ} {action : γ → Action σ Unit}
    (each : ∀ item ∈ items, Mirrors (action item) (action item)) :
    Mirrors (items.forM action) (items.forM action) := by
  induction items with
  | nil => exact mirrors_pure ()
  | cons item rest induction =>
      apply Mirrors.bind (each item (by simp))
      intro _
      apply induction
      intro other member
      exact each other (by simp [member])

theorem mirrors_observe {first second : Observation}
    (same : first.withoutKind = second.withoutKind) :
    Mirrors (observe first : Action σ Unit) (observe second) :=
  mirrors_modify fun alike => alike.observe same

theorem mirrors_log (level : LogLevel) (source : LogSource) (message : String)
    (fields : List (String × Value)) :
    Mirrors (log level source message fields : Action σ Unit) (log level source message fields) :=
  mirrors_observe rfl

theorem mirrors_progressOf (call : Nat) :
    Mirrors (progressOf call : Action σ Progress) (progressOf call) := by
  intro left right alike
  rw [progressOf_apply, progressOf_apply, alike.progressOf]
  exact .ok alike

theorem mirrors_changeProgress (call : Nat) (change : Progress → Progress) :
    Mirrors (changeProgress call change : Action σ Unit) (changeProgress call change) :=
  mirrors_modify fun alike => alike.changeProgress call change

theorem mirrors_changeCounters (policy : Nat) (change : Counters → Counters) :
    Mirrors (changeCounters policy change : Action σ Unit) (changeCounters policy change) :=
  mirrors_modify fun alike => alike.changeCounters policy change

theorem mirrors_newIdentity : Mirrors (newIdentity : Action σ Identity) newIdentity := by
  intro left right alike
  have same : Identity.made left.failures = Identity.made right.failures := by rw [alike.failures]
  change ResultsAlike
    (.ok (Identity.made left.failures) { left with failures := left.failures + 1 })
    (.ok (Identity.made right.failures) { right with failures := right.failures + 1 })
  rw [same]
  exact .ok alike.newIdentity

theorem mirrors_fail (type : FailureType) (message : String) :
    Mirrors (fail type message : Action σ α) (fail type message) := by
  apply Mirrors.bind mirrors_newIdentity
  intro identity
  exact mirrors_throw _

theorem mirrors_raise (failure : Option Failure) :
    Mirrors (raise failure : Action σ α) (raise failure) := by
  cases failure with
  | none => exact mirrors_fail _ _
  | some failure => exact mirrors_throw failure

theorem mirrors_calculate (result : Except ArithmeticFault α) :
    Mirrors (calculate result : Action σ α) (calculate result) := by
  cases result with
  | ok value => exact mirrors_pure value
  | error fault =>
      apply Mirrors.bind mirrors_newIdentity
      intro identity
      exact mirrors_throw _

theorem mirrors_write (wording : Wording) :
    Mirrors (write wording : Action σ String) (write wording) := by
  cases wording with
  | ok text => exact mirrors_pure text
  | error refusal =>
      apply Mirrors.bind mirrors_newIdentity
      intro identity
      exact mirrors_throw _

theorem mirrors_cancel (call : Nat) : Mirrors (cancel call : Action σ Unit) (cancel call) := by
  apply Mirrors.bind (mirrors_changeProgress call .cancel)
  intro _
  apply Mirrors.bind (mirrors_progressOf call)
  intro progress
  split
  · exact mirrors_fail _ _
  · exact mirrors_pure ()

end Action

open Reattempt.Action

namespace Behaviour

/-- The caller's code cannot tell alike worlds apart. -/
theorem mirrors_perform {deliver : Nat → Event → Action σ Unit}
    (delivers : ∀ publisher event, Mirrors (deliver publisher event) (deliver publisher event))
    (behaviour : Behaviour σ α) :
    Mirrors (behaviour.perform deliver) (behaviour.perform deliver) := by
  induction behaviour with
  | answer value => exact mirrors_pure value
  | raise failure => exact mirrors_throw failure
  | look next induction =>
      apply mirrors_get_bind
      intro left right alike
      rw [alike.situation, alike.memory]
      exact induction right.toSituation right.memory alike
  | remember memory next induction =>
      exact Mirrors.bind (mirrors_modify fun alike => alike.remember memory) fun _ => induction
  | cancel call next induction => exact Mirrors.bind (mirrors_cancel call) fun _ => induction
  | listen publisher kinds listener next induction =>
      exact Mirrors.bind (mirrors_modify fun alike => alike.register publisher kinds listener)
        fun _ => induction
  | publish publisher event next induction =>
      exact Mirrors.bind (delivers publisher event) fun _ => induction
  | note remark next induction =>
      exact Mirrors.bind (mirrors_observe rfl) fun _ => induction

end Behaviour

namespace Environment

variable (environment : Environment σ)

theorem mirrors_notify {deliver : Nat → Event → Action σ Unit}
    (delivers : ∀ publisher event, Mirrors (deliver publisher event) (deliver publisher event))
    (publisher : Nat) (event : Event) (kind : EventKind) (listener : Listener) :
    Mirrors (environment.notify deliver publisher event kind listener)
      (environment.notify deliver publisher event kind listener) := by
  apply mirrors_get_bind
  intro left right alike
  have delivered : Mirrors
      (observe (.delivered publisher listener event left.links) : Action σ Unit)
      (observe (.delivered publisher listener event right.links)) := by
    apply mirrors_observe
    rfl
  apply Mirrors.bind delivered _ alike
  intro _
  apply Mirrors.tryCatch (Behaviour.mirrors_perform delivers _)
  intro failure
  split
  · apply Mirrors.bind (mirrors_write _)
    intro text
    exact mirrors_log _ _ _ _
  · exact mirrors_throw failure

theorem mirrors_deliverWithin (depth publisher : Nat) (event : Event) :
    Mirrors (environment.deliverWithin depth publisher event)
      (environment.deliverWithin depth publisher event) := by
  induction depth generalizing publisher event with
  | zero => exact mirrors_fail _ _
  | succ depth induction =>
      unfold deliverWithin
      split
      · exact mirrors_fail _ _
      · next kind _ =>
          apply mirrors_get_bind
          intro left right alike
          rw [alike.listenersOf]
          apply mirrors_forM _ alike
          intro listener _
          exact environment.mirrors_notify induction publisher event kind listener

theorem mirrors_publish (publisher : Nat) (event : Event) :
    Mirrors (environment.publish publisher event) (environment.publish publisher event) :=
  environment.mirrors_deliverWithin _ publisher event

theorem mirrors_run (behaviour : Behaviour σ α) :
    Mirrors (environment.run behaviour) (environment.run behaviour) :=
  Behaviour.mirrors_perform environment.mirrors_publish behaviour

theorem mirrors_isRetryable (config : Config) (failure : Option Failure) :
    Mirrors (environment.isRetryable config failure) (environment.isRetryable config failure) := by
  rw [isRetryable]
  split
  · split
    · exact mirrors_pure true
    · exact environment.mirrors_run _
  · exact mirrors_pure false

theorem mirrors_uniform (low high : Scalar) :
    Mirrors (environment.uniform low high) (environment.uniform low high) := by
  apply Mirrors.bind (environment.mirrors_run _)
  intro draw
  apply Mirrors.bind (mirrors_observe rfl)
  intro _
  apply Mirrors.bind (mirrors_calculate _)
  intro width
  apply Mirrors.bind (mirrors_calculate _)
  intro shift
  exact mirrors_calculate _

theorem mirrors_jitter (factor delay : Scalar) :
    Mirrors (environment.jitter factor delay) (environment.jitter factor delay) := by
  apply Mirrors.bind (mirrors_calculate _)
  intro spread
  apply Mirrors.bind (mirrors_calculate _)
  intro low
  apply Mirrors.bind (mirrors_calculate _)
  intro high
  apply Mirrors.bind (environment.mirrors_uniform low high)
  intro value
  exact mirrors_pure _

theorem mirrors_delay (backoff : Backoff) (attempt : Int) :
    Mirrors (environment.delay backoff attempt) (environment.delay backoff attempt) := by
  induction backoff with
  | constant delay => exact mirrors_pure delay
  | linear base cap => exact mirrors_calculate _
  | exponential base multiplier cap => exact mirrors_calculate _
  | fibonacci base cap => exact mirrors_calculate _
  | randomized inner factor induction =>
      exact Mirrors.bind induction fun delay => environment.mirrors_jitter factor delay
  | custom function => exact environment.mirrors_run _

/-! ## The engine between two waits -/

variable (call : Call)

theorem mirrors_announce (detail : EventDetail) (attempts : Nat) (lastFailure : Option Failure) :
    Mirrors (environment.announce call detail attempts lastFailure)
      (environment.announce call detail attempts lastFailure) := by
  apply mirrors_get_bind
  intro left right alike
  rw [alike.listenersOf]
  split
  · apply Mirrors.bind (mirrors_observe rfl) _ alike
    intro _
    exact environment.mirrors_publish _ _
  · exact .ok alike

theorem mirrors_reject (failure : Option Failure) :
    Mirrors (environment.reject call failure : Action σ α) (environment.reject call failure) := by
  apply Mirrors.bind (mirrors_changeProgress _ _)
  intro _
  apply Mirrors.bind (mirrors_progressOf _)
  intro progress
  apply Mirrors.bind (mirrors_changeCounters _ _)
  intro _
  apply Mirrors.bind (mirrors_write _)
  intro text
  apply Mirrors.bind (mirrors_log _ _ _ _)
  intro _
  apply Mirrors.bind (environment.mirrors_announce call _ _ _)
  intro _
  exact mirrors_raise failure

theorem mirrors_exhaust (attempts : Nat) (failure : Option Failure) :
    Mirrors (environment.exhaust call attempts failure : Action σ α)
      (environment.exhaust call attempts failure) := by
  apply Mirrors.bind (mirrors_changeCounters _ _)
  intro _
  apply Mirrors.bind (mirrors_write _)
  intro shown
  apply Mirrors.bind (mirrors_log _ _ _ _)
  intro _
  apply Mirrors.bind (environment.mirrors_announce call _ _ _)
  intro _
  exact mirrors_raise failure

theorem mirrors_planWait (attempts : Nat) (failure : Option Failure) :
    Mirrors (environment.planWait call attempts failure)
      (environment.planWait call attempts failure) := by
  apply Mirrors.bind (mirrors_observe rfl)
  intro _
  apply Mirrors.bind (environment.mirrors_delay _ _)
  intro interval
  apply Mirrors.bind (mirrors_calculate _)
  intro shown
  apply Mirrors.bind (mirrors_log _ _ _ _)
  intro _
  apply Mirrors.bind (environment.mirrors_announce call _ _ _)
  intro _
  exact mirrors_pure interval

theorem mirrors_recordFailure (failure : Option Failure) :
    Mirrors (environment.recordFailure call failure)
      (environment.recordFailure call failure) := by
  apply Mirrors.bind (environment.mirrors_isRetryable _ _)
  intro retryable
  apply Mirrors.bind (mirrors_observe rfl)
  intro _
  split
  · apply Mirrors.bind (mirrors_changeProgress _ _)
    intro _
    apply Mirrors.bind (mirrors_progressOf _)
    intro progress
    dsimp only
    split
    · exact environment.mirrors_exhaust call _ failure
    · exact environment.mirrors_planWait call _ failure
  · exact environment.mirrors_reject call failure

theorem mirrors_onSuccess :
    Mirrors (environment.onSuccess call) (environment.onSuccess call) := by
  apply Mirrors.bind (mirrors_changeProgress _ _)
  intro _
  apply Mirrors.bind (mirrors_progressOf _)
  intro progress
  dsimp only
  split
  · apply Mirrors.bind (mirrors_changeCounters _ _)
    intro _
    apply Mirrors.bind (mirrors_log _ _ _ _)
    intro _
    exact environment.mirrors_announce call _ _ _
  · exact mirrors_changeCounters _ _

end Environment

end Reattempt
