import Reattempt.Proofs.Leads

/-! The conduct of the caller's code in a call that nothing disturbs. Operation,
predicate, interval function and waits answer by a script, listeners raise only
ordinary failures, and nobody cancels the call. The memory of the caller's code keeps
the place in the script. -/

namespace Reattempt

variable {σ α β : Type}

namespace World

/-- The memory is at a stage, and the call was not cancelled. -/
structure Steady (stage : σ → Prop) (call : Nat) (world : World σ) : Prop where
  memory : stage world.memory
  uncancelled : (world.progressOf call).cancelled = false

namespace Steady

variable {stage : σ → Prop} {call : Nat} {world : World σ}

theorem observe (steady : world.Steady stage call) (observation : Observation) :
    (world.observe observation).Steady stage call :=
  ⟨steady.memory, steady.uncancelled⟩

theorem note {opened : Call} (steady : world.Steady stage opened.number) (step : CallStep) :
    (world.note opened step).Steady stage opened.number :=
  steady.observe _

theorem changeProgress (steady : world.Steady stage call) {change : Progress → Progress}
    (kept : ∀ progress, (change progress).cancelled = progress.cancelled) :
    (world.changeProgress call change).Steady stage call := by
  refine ⟨steady.memory, ?_⟩
  rw [progressOf_changeProgress_self, kept]
  exact steady.uncancelled

theorem beginning {opened : Call} (steady : world.Steady stage opened.number) (kind : WaitKind)
    (interval : Scalar) : (world.beginning opened kind interval).Steady stage opened.number := by
  unfold World.beginning
  split
  · apply (steady.note _).changeProgress
    intro progress
    rfl
  · exact steady.note _

theorem changeCounters (steady : world.Steady stage call) (policy : Nat)
    (change : Counters → Counters) : (world.changeCounters policy change).Steady stage call :=
  ⟨steady.memory, steady.uncancelled⟩

theorem counting {opened : Call} (steady : world.Steady stage opened.number)
    (failure : Option Failure) : (world.counting opened failure).Steady stage opened.number := by
  apply (steady.note _).changeProgress
  intro progress
  rfl

theorem rejecting {opened : Call} (steady : world.Steady stage opened.number)
    (failure : Option Failure) : (world.rejecting opened failure).Steady stage opened.number := by
  apply changeCounters
  apply (steady.note _).changeProgress
  intro progress
  rfl

theorem exhausting {opened : Call} (steady : world.Steady stage opened.number)
    (failure : Option Failure) : (world.exhausting opened failure).Steady stage opened.number :=
  (steady.counting failure).changeCounters _ _

end Steady

end World

namespace Action

def ending : Except Failure α → World σ → EStateM.Result Failure (World σ) α
  | .ok value => .ok value
  | .error failure => .error failure

@[simp] theorem outcomeOf_ending (outcome : Except Failure α) (world : World σ) :
    outcomeOf (ending outcome world) = outcome := by
  cases outcome <;> rfl

/-- In every steady world the action ends with the outcome, and it leads from one stage
to another. -/
def Yields (action : Action σ α) (call : Nat) (first last : σ → Prop)
    (outcome : Except Failure α) : Prop :=
  ∀ world : World σ, world.Steady first call →
    ∃ ended : World σ, action world = ending outcome ended ∧ ended.Steady last call

section Yields

open World

variable {call : Nat} {stage : σ → Prop}

theorem Yields.bind {first middle last : σ → Prop} {action : Action σ α} {next : α → Action σ β}
    {value : α} {outcome : Except Failure β}
    (begun : action.Yields call first middle (.ok value))
    (rest : (next value).Yields call middle last outcome) :
    (action >>= next).Yields call first last outcome := by
  intro world steady
  rcases begun world steady with ⟨between, equal, steady⟩
  rcases rest between steady with ⟨ended, equalRest, steady⟩
  refine ⟨ended, ?_, steady⟩
  rw [bind_apply, equal]
  exact equalRest

theorem yields_forM {γ : Type} {items : List γ} {action : γ → Action σ Unit}
    (each : ∀ item ∈ items, (action item).Yields call stage stage (.ok ())) :
    (items.forM action).Yields call stage stage (.ok ()) := by
  induction items with
  | nil =>
      intro world steady
      exact ⟨world, rfl, steady⟩
  | cons item rest induction =>
      apply Yields.bind (each item (by simp))
      apply induction
      intro other member
      exact each other (by simp [member])

theorem Yields.outside {action : Action σ α} {call : Nat} {first last : σ → Prop}
    {outcome : Except Failure α} (yields : action.Yields call first last outcome)
    (keeps : action.Keeps Outside) {world : World σ} (steady : world.Steady first call) :
    ∃ ended, action world = ending outcome ended ∧ ended.Steady last call ∧
      world.Outside ended ∧ ended.progressOf call = world.progressOf call := by
  rcases yields world steady with ⟨ended, equal, steady⟩
  have kept := keeps world
  have same : action.after world = ended := by
    cases outcome with
    | ok value => exact after_eq_of_ok equal
    | error failure => exact after_eq_of_error equal
  rw [same] at kept
  exact ⟨ended, equal, steady, kept, kept.progressOf_of_uncancelled steady.uncancelled⟩

end Yields

end Action

/-- The script that the caller's code follows in a call. At a stage, as many attempts
were begun as its number says. -/
structure Environment.Conduct (environment : Environment σ) (call : Call) (kind : WaitKind)
    (operation : Arguments → Behaviour σ α) (arguments : Arguments) (stage : Nat → σ → Prop)
    (outcome : Nat → Except Failure α) (retryable : Nat → Bool) (interval : Nat → Scalar) :
    Prop where
  operates : ∀ number, (environment.run (operation arguments)).Yields call.number (stage number)
    (stage (number + 1)) (outcome (number + 1))
  classifies : ∀ {number failure}, 0 < number → outcome number = .error failure →
    failure.isA .ordinary = true →
    (environment.isRetryable call.policy.config (some failure)).Yields call.number (stage number)
      (stage number) (.ok (retryable number))
  computes : ∀ {number : Nat}, 0 < number →
    (environment.delay call.policy.config.interval number).Yields call.number (stage number)
      (stage number) (.ok (interval number))
  writes : ∀ {number}, 0 < number → ∃ shown, (interval number).fixedText = .ok shown
  waits : ∀ {number}, 0 < number →
    (environment.run (environment.wait kind (interval number))).Yields call.number (stage number)
      (stage number) (.ok ())
  lags : ∀ {number}, 0 < number →
    (environment.run (environment.lag kind)).Yields call.number (stage number) (stage number)
      (.ok ())
  /-- What the log says of the failures of the operation can be written. -/
  words : ∀ {number failure}, outcome number = .error failure → failure.isA .ordinary = true →
    failure.isWorded = true
  /-- A listener that is called answers or raises a failure that can be reported. -/
  listens : ∀ {number} {world : World σ} (listener : Listener) (event : Event),
    world.Steady (stage number) call.number → ∃ outcome ended,
      (environment.listener call.policy.publisher listener event).perform
        (environment.deliverWithin environment.depth) world = Action.ending outcome ended ∧
      (∀ failure, outcome = .error failure → failure.isReportable = true) ∧
      ended.Steady (stage number) call.number

namespace Environment.Conduct

open World

variable {environment : Environment σ} {call : Call} {kind : WaitKind}
  {operation : Arguments → Behaviour σ α} {arguments : Arguments} {stage : Nat → σ → Prop}
  {outcome : Nat → Except Failure α} {retryable : Nat → Bool} {interval : Nat → Scalar}
  (conduct : Conduct environment call kind operation arguments stage outcome retryable interval)

include conduct

theorem notifies (number : Nat) (event : Event) (eventKind : EventKind) (listener : Listener) :
    (environment.notify (environment.deliverWithin environment.depth) call.policy.publisher event
      eventKind listener).Yields call.number (stage number) (stage number) (.ok ()) := by
  intro world steady
  have delivered := steady.observe (.delivered call.policy.publisher listener event world.links)
  rcases conduct.listens listener event delivered with ⟨result, ended, equal, reportable, steady⟩
  rw [notify_apply, equal]
  cases result with
  | ok value => exact ⟨ended, rfl, steady⟩
  | error failure =>
      rcases Failure.exists_text_of_isReportable (reportable failure rfl) with
        ⟨ordinary, text, written⟩
      simp only [Action.ending, ordinary, if_true, written]
      exact ⟨_, rfl, steady.observe _⟩

theorem publishes (number : Nat) {event : Event} {eventKind : EventKind}
    (known : event.kind? = some eventKind) :
    (environment.publish call.policy.publisher event).Yields call.number (stage number)
      (stage number) (.ok ()) := by
  intro world steady
  simp only [publish, deliverWithin, known, Action.bind_apply, Action.get_apply]
  apply Action.yields_forM _ world steady
  intro listener _
  exact conduct.notifies number event eventKind listener

theorem announces (number : Nat) (detail : EventDetail) {eventKind : EventKind}
    (known : detail.kind? = some eventKind) (attempts : Nat) (failure : Option Failure)
    {world : World σ} (steady : world.Steady (stage number) call.number) :
    ∃ after, environment.announce call detail attempts failure world = .ok () after ∧
      after.Steady (stage number) call.number ∧
      Leads call id (world.announcement call (call.event detail attempts failure)) world after ∧
      after.progressOf call.number = world.progressOf call.number := by
  have outside := environment.outside_announce call detail attempts failure world
  have ends : ∃ after, environment.announce call detail attempts failure world = .ok () after ∧
      after.Steady (stage number) call.number := by
    cases heard : world.hears call (call.event detail attempts failure) with
    | false => exact ⟨world, environment.announce_of_unheard call heard, steady⟩
    | true =>
        have carried : (call.event detail attempts failure).kind? = some eventKind := known
        rw [environment.announce_of_heard call heard, announcing, if_pos heard]
        exact conduct.publishes number carried _ (steady.note _)
  rcases ends with ⟨after, equal, steady⟩
  rw [Action.after_eq_of_ok equal] at outside
  refine ⟨after, equal, steady, (Leads.announcing _).trans_outside outside, ?_⟩
  rw [outside.progressOf_of_uncancelled steady.uncancelled, progressOf_announcing]

end Environment.Conduct

end Reattempt
