import Reattempt.Proofs.Record

/-! A publisher that is left to the engine. The caller's code may do anything except
publishing events on it by hand, and listeners raise only failures that can be reported. Then
an event of the engine reaches every listener of its kind, and nothing else reaches
anybody. The memory of the caller's code stays as it is expected to be. -/

namespace Reattempt

variable {σ α β : Type}

/-- The behaviour keeps to expected memory, publishes nothing on the publisher and
raises only such failures by itself. -/
def Behaviour.Confined (publisher : Nat) (expected : σ → Prop) (raises : Failure → Prop) :
    Behaviour σ α → Prop
  | .answer _ => True
  | .raise failure => raises failure
  | .look next =>
      ∀ situation memory, expected memory →
        (next situation memory).Confined publisher expected raises
  | .remember memory next => expected memory ∧ next.Confined publisher expected raises
  | .cancel _ next => next.Confined publisher expected raises
  | .listen _ _ _ next => next.Confined publisher expected raises
  | .publish other _ next => other ≠ publisher ∧ next.Confined publisher expected raises
  | .note _ next => next.Confined publisher expected raises

namespace World

structure Quiet (publisher : Nat) (expected : σ → Prop) (before after : World σ) : Prop where
  memory : expected after.memory
  deliveries : after.deliveriesOf publisher = before.deliveriesOf publisher

namespace Quiet

variable {publisher : Nat} {expected : σ → Prop}

theorem refl {world : World σ} (memory : expected world.memory) :
    Quiet publisher expected world world where
  memory := memory
  deliveries := rfl

theorem trans {first second third : World σ} (begun : Quiet publisher expected first second)
    (ended : Quiet publisher expected second third) : Quiet publisher expected first third where
  memory := ended.memory
  deliveries := ended.deliveries.trans begun.deliveries

theorem observe {world : World σ} (memory : expected world.memory) {observation : Observation}
    (silent : observation.deliveryOf? publisher = none) :
    Quiet publisher expected world (world.observe observation) where
  memory := memory
  deliveries := by
    rw [deliveriesOf_observe, silent]
    simp

end Quiet

end World

namespace Action

open World

/-- From expected memory on, the action is quiet and raises only such failures. -/
def Confined (publisher : Nat) (expected : σ → Prop) (raises : Failure → Prop)
    (action : Action σ α) : Prop :=
  ∀ world : World σ, expected world.memory →
    Quiet publisher expected world (action.after world) ∧
      ∀ {failure after}, action world = .error failure after → raises failure

section Confined

variable {publisher : Nat} {expected : σ → Prop} {raises : Failure → Prop}

theorem confined_pure (value : α) : (pure value : Action σ α).Confined publisher expected raises :=
  fun _ memory => ⟨.refl memory, nofun⟩

theorem confined_throw {failure : Failure} (raised : raises failure) :
    (throw failure : Action σ α).Confined publisher expected raises := by
  intro world memory
  refine ⟨.refl memory, ?_⟩
  intro other after equal
  cases equal
  exact raised

theorem confined_modify {change : World σ → World σ}
    (quiet : ∀ world, expected world.memory → Quiet publisher expected world (change world)) :
    (modify change : Action σ Unit).Confined publisher expected raises :=
  fun world memory => ⟨quiet world memory, nofun⟩

theorem Confined.bind {action : Action σ α} {next : α → Action σ β}
    (first : action.Confined publisher expected raises)
    (rest : ∀ value, (next value).Confined publisher expected raises) :
    (action >>= next).Confined publisher expected raises := by
  intro world memory
  rcases first world memory with ⟨quiet, raised⟩
  cases ends : action world with
  | error failure middle =>
      have equal : (action >>= next) world = .error failure middle := by rw [bind_apply, ends]
      rw [after_eq_of_error ends] at quiet
      rw [after_eq_of_error equal, equal]
      refine ⟨quiet, ?_⟩
      intro other after same
      cases same
      exact raised ends
  | ok value middle =>
      have equal : (action >>= next) world = next value middle := by rw [bind_apply, ends]
      rw [after_eq_of_ok ends] at quiet
      rcases rest value middle quiet.memory with ⟨later, raisedLater⟩
      rw [after_congr equal, equal]
      exact ⟨quiet.trans later, raisedLater⟩

theorem confined_get_bind {next : World σ → Action σ α}
    (rest : ∀ world, expected world.memory → (next world).Confined publisher expected raises) :
    (get >>= next).Confined publisher expected raises :=
  fun world memory => rest world memory world memory

theorem confined_observe {observation : Observation}
    (silent : observation.deliveryOf? publisher = none) :
    (observe observation : Action σ Unit).Confined publisher expected raises :=
  confined_modify fun _ memory => .observe memory silent

theorem confined_newIdentity :
    (newIdentity : Action σ Identity).Confined publisher expected raises :=
  fun _ memory => ⟨⟨memory, rfl⟩, nofun⟩

theorem confined_changeProgress (call : Nat) (change : Progress → Progress) :
    (changeProgress call change : Action σ Unit).Confined publisher expected raises :=
  confined_modify fun _ memory => ⟨memory, rfl⟩

theorem confined_progressOf (call : Nat) :
    (progressOf call : Action σ Progress).Confined publisher expected raises :=
  fun _ memory => ⟨.refl memory, nofun⟩

theorem confined_calculate (result : Except ArithmeticFault α) :
    (calculate result : Action σ α).Confined publisher expected fun _ => True := by
  cases result with
  | ok value => exact confined_pure value
  | error fault =>
      apply Confined.bind confined_newIdentity
      intro identity
      exact confined_throw trivial

theorem confined_raise (failure : Option Failure) :
    (raise failure : Action σ α).Confined publisher expected fun _ => True := by
  cases failure with
  | none =>
      apply Confined.bind confined_newIdentity
      intro identity
      exact confined_throw trivial
  | some failure => exact confined_throw trivial

variable (tolerant : ∀ {failure : Failure}, failure.isReportable = true → raises failure)

include tolerant

theorem confined_fail {type : FailureType} (ordinary : FailureType.ordinary.covers type = true)
    (message : String) : (fail type message : Action σ α).Confined publisher expected raises := by
  apply Confined.bind confined_newIdentity
  intro identity
  apply confined_throw
  exact tolerant (Failure.isReportable_ofMessage ordinary identity message)

theorem confined_cancel (call : Nat) :
    (cancel call : Action σ Unit).Confined publisher expected raises := by
  apply Confined.bind (confined_changeProgress call .cancel)
  intro _
  apply Confined.bind (confined_progressOf call)
  intro progress
  split
  · apply confined_fail tolerant
    decide
  · exact confined_pure ()

end Confined

end Action

open World Reattempt.Action

variable {publisher : Nat} {expected : σ → Prop} {raises : Failure → Prop}

namespace Behaviour

theorem Confined.perform
    (tolerant : ∀ {failure : Failure}, failure.isReportable = true → raises failure)
    {deliver : Nat → Event → Action σ Unit}
    (delivers : ∀ {other} event, other ≠ publisher →
      (deliver other event).Confined publisher expected raises)
    {behaviour : Behaviour σ α} (confined : behaviour.Confined publisher expected raises) :
    (behaviour.perform deliver).Confined publisher expected raises := by
  induction behaviour with
  | answer value => exact confined_pure value
  | raise failure => exact confined_throw confined
  | look next induction =>
      apply confined_get_bind
      intro world memory
      exact induction _ _ (confined world.toSituation world.memory memory)
  | remember memory next induction =>
      have written : (modify fun world : World σ => { world with memory } : Action σ Unit).Confined
          publisher expected raises := confined_modify fun _ _ => ⟨confined.1, rfl⟩
      apply Action.Confined.bind written
      intro _
      exact induction confined.2
  | cancel call next induction =>
      apply Action.Confined.bind (confined_cancel tolerant call)
      intro _
      exact induction confined
  | listen other kinds listener next induction =>
      have registered : (modify (World.register other kinds listener) : Action σ Unit).Confined
          publisher expected raises := confined_modify fun _ memory => ⟨memory, rfl⟩
      apply Action.Confined.bind registered
      intro _
      exact induction confined
  | publish other event next induction =>
      apply Action.Confined.bind (delivers event confined.1)
      intro _
      exact induction confined.2
  | note remark next induction =>
      apply Action.Confined.bind (confined_observe rfl)
      intro _
      exact induction confined

end Behaviour

/-- All of the caller's code leaves the publisher to the engine. -/
structure Environment.Reserves (environment : Environment σ) (publisher : Nat)
    (expected : σ → Prop) : Prop where
  interval : ∀ function attempt,
    (environment.interval function attempt).Confined publisher expected fun _ => True
  predicate : ∀ function failure,
    (environment.predicate function failure).Confined publisher expected fun _ => True
  wait : ∀ kind interval, (environment.wait kind interval).Confined publisher expected fun _ => True
  lag : ∀ kind, (environment.lag kind).Confined publisher expected fun _ => True
  draw : ∀ low high, (environment.draw low high).Confined publisher expected fun _ => True
  listener : ∀ other listener event,
    (environment.listener other listener event).Confined publisher expected
      fun failure => failure.isReportable = true

namespace Environment

variable {environment : Environment σ}

namespace Reserves

variable (reserves : environment.Reserves publisher expected)

include reserves

theorem notify {deliver : Nat → Event → Action σ Unit}
    (delivers : ∀ {other} event, other ≠ publisher → (deliver other event).Confined publisher
      expected fun failure => failure.isReportable = true)
    (other : Nat) (event : Event) (kind : EventKind) (listener : Listener) {world : World σ}
    (memory : expected world.memory) :
    ∃ after, environment.notify deliver other event kind listener world = .ok () after ∧
      expected after.memory ∧ after.deliveriesOf publisher = world.deliveriesOf publisher ++
        (if other = publisher then [(listener, event)] else []) := by
  have confined := (reserves.listener other listener event).perform id delivers
  rcases confined (world.observe (.delivered other listener event world.links)) memory with
    ⟨quiet, reportable⟩
  have received : (world.observe (.delivered other listener event world.links)).deliveriesOf
      publisher = world.deliveriesOf publisher ++
        (if other = publisher then [(listener, event)] else []) := by
    rw [deliveriesOf_observe, Observation.deliveryOf?]
    split <;> rfl
  rw [notify_apply]
  cases ends : (environment.listener other listener event).perform deliver
      (world.observe (.delivered other listener event world.links)) with
  | ok value after =>
      rw [after_eq_of_ok ends] at quiet
      exact ⟨after, rfl, quiet.memory, quiet.deliveries.trans received⟩
  | error failure after =>
      rw [after_eq_of_error ends] at quiet
      rcases Failure.exists_text_of_isReportable (reportable ends) with ⟨ordinary, text, written⟩
      simp only [ordinary, if_true, written]
      refine ⟨_, rfl, quiet.memory, ?_⟩
      rw [deliveriesOf_logged]
      exact quiet.deliveries.trans received

theorem notifyAll {deliver : Nat → Event → Action σ Unit}
    (delivers : ∀ {other} event, other ≠ publisher → (deliver other event).Confined publisher
      expected fun failure => failure.isReportable = true)
    (other : Nat) (event : Event) (kind : EventKind) (listeners : List Listener) {world : World σ}
    (memory : expected world.memory) :
    ∃ after, listeners.forM (environment.notify deliver other event kind) world = .ok () after ∧
      expected after.memory ∧ after.deliveriesOf publisher = world.deliveriesOf publisher ++
        (if other = publisher then listeners.map fun listener => (listener, event) else []) := by
  induction listeners generalizing world with
  | nil => exact ⟨world, rfl, memory, by simp⟩
  | cons listener rest induction =>
      rcases reserves.notify delivers other event kind listener memory with
        ⟨middle, notified, memory, received⟩
      rcases induction memory with ⟨after, equal, memory, later⟩
      have begun : (listener :: rest).forM (environment.notify deliver other event kind) world =
          (environment.notify deliver other event kind listener >>= fun _ =>
            rest.forM (environment.notify deliver other event kind)) world := rfl
      refine ⟨after, ?_, memory, ?_⟩
      · rw [begun, bind_apply, notified]
        exact equal
      · rw [later, received, List.append_assoc]
        split <;> rfl

theorem deliverWithin (depth : Nat) {other : Nat} (event : Event) (different : other ≠ publisher) :
    (environment.deliverWithin depth other event).Confined publisher expected
      fun failure => failure.isReportable = true := by
  induction depth generalizing other event with
  | zero =>
      apply confined_fail id
      decide
  | succ depth induction =>
      unfold Environment.deliverWithin
      split
      · apply confined_fail id
        decide
      · next kind _ =>
          apply confined_get_bind
          intro delivering _ world memory
          rcases reserves.notifyAll induction other event kind
            ((delivering.listenersOf other).listeners kind) memory with
            ⟨after, equal, memory, received⟩
          rw [if_neg different, List.append_nil] at received
          rw [after_eq_of_ok equal, equal]
          exact ⟨⟨memory, received⟩, nofun⟩

theorem publish {other : Nat} (event : Event) (different : other ≠ publisher) :
    (environment.publish other event).Confined publisher expected
      fun failure => failure.isReportable = true :=
  reserves.deliverWithin _ event different

/-- An event of the engine reaches the listeners of its kind. -/
theorem publishes {event : Event} {kind : EventKind} (known : event.kind? = some kind)
    {world : World σ} (memory : expected world.memory) :
    ∃ after, environment.publish publisher event world = .ok () after ∧ expected after.memory ∧
      after.deliveriesOf publisher = world.deliveriesOf publisher ++
        ((world.listenersOf publisher).listeners kind).map fun listener => (listener, event) := by
  rcases reserves.notifyAll (reserves.deliverWithin environment.depth) publisher event kind
    ((world.listenersOf publisher).listeners kind) memory with ⟨after, equal, memory, received⟩
  rw [if_pos rfl] at received
  refine ⟨after, ?_, memory, received⟩
  simp only [Environment.publish, Environment.deliverWithin, known, bind_apply, get_apply, equal]

theorem run {behaviour : Behaviour σ α}
    (confined : behaviour.Confined publisher expected fun _ => True) :
    (environment.run behaviour).Confined publisher expected fun _ => True := by
  apply confined.perform fun _ => trivial
  intro other event different world memory
  exact ⟨(reserves.publish event different world memory).1, fun _ => trivial⟩

theorem isRetryable (config : Config) (failure : Option Failure) :
    (environment.isRetryable config failure).Confined publisher expected fun _ => True := by
  rw [Environment.isRetryable]
  split
  · split
    · exact confined_pure true
    · exact reserves.run (reserves.predicate _ failure)
  · exact confined_pure false

theorem uniform (low high : Scalar) :
    (environment.uniform low high).Confined publisher expected fun _ => True := by
  apply Confined.bind (reserves.run (reserves.draw low high))
  intro draw
  apply Confined.bind (confined_observe rfl)
  intro _
  apply Confined.bind (confined_calculate _)
  intro width
  apply Confined.bind (confined_calculate _)
  intro shift
  exact confined_calculate _

theorem jitter (factor delay : Scalar) :
    (environment.jitter factor delay).Confined publisher expected fun _ => True := by
  apply Confined.bind (confined_calculate _)
  intro spread
  apply Confined.bind (confined_calculate _)
  intro low
  apply Confined.bind (confined_calculate _)
  intro high
  apply Confined.bind (reserves.uniform low high)
  intro value
  exact confined_pure _

theorem delay (backoff : Backoff) (attempt : Int) :
    (environment.delay backoff attempt).Confined publisher expected fun _ => True := by
  induction backoff with
  | constant delay => exact confined_pure delay
  | linear base cap => exact confined_calculate _
  | exponential base multiplier cap => exact confined_calculate _
  | fibonacci base cap => exact confined_calculate _
  | randomized inner factor induction =>
      apply Confined.bind induction
      intro delay
      exact reserves.jitter factor delay
  | custom function => exact reserves.run (reserves.interval function attempt)

end Reserves

end Environment

end Reattempt
