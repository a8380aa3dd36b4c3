import Reattempt.Proofs.Outside

/-! Recording a failure, exit by exit. The record is described by the worlds in which
the caller's code runs and by what the engine writes in between. The exits follow the
order in which the code of the caller may fail. -/

namespace Reattempt

variable {σ α : Type}

def Call.event (call : Call) (detail : EventDetail) (attempts : Nat)
    (lastFailure : Option Failure) : Event :=
  { detail, policyName := call.policy.name, attempts, lastFailure }

namespace World

variable (world : World σ) (call : Call)

def attemptsOf : Nat :=
  (world.progressOf call.number).attempts

/-! ## What the engine writes -/

def counting (failure : Option Failure) : World σ :=
  (world.note call (.classified failure true)).changeProgress call.number
    fun progress => progress.count call.policy.config.limit failure

def rejecting (failure : Option Failure) : World σ :=
  ((world.note call (.classified failure false)).changeProgress call.number .reject).changeCounters
    call.policy.number .countRejection

def exhausting (failure : Option Failure) : World σ :=
  (world.counting call failure).changeCounters call.policy.number .countExhaustion

def relinking (failures : Nat) (links : CauseLinks) : World σ :=
  { world with failures, links }

def hears (event : Event) : Bool :=
  (world.listenersOf call.policy.publisher).hasListeners event.kind?

def announcing (event : Event) : World σ :=
  if world.hears call event then world.note call (.announced event) else world

/-- The step of announcing an event, which is left out when nobody listens. -/
def announcement (event : Event) : List CallStep :=
  if world.hears call event then [.announced event] else []

/-! ## What it leaves alone -/

variable (failure : Option Failure) (event : Event)

@[simp] theorem stepsOf_counting :
    (world.counting call failure).stepsOf call.number =
      world.stepsOf call.number ++ [.classified failure true] := by
  simp [counting]

@[simp] theorem stepsOf_rejecting :
    (world.rejecting call failure).stepsOf call.number =
      world.stepsOf call.number ++ [.classified failure false] := by
  simp [rejecting]

@[simp] theorem stepsOf_exhausting :
    (world.exhausting call failure).stepsOf call.number =
      world.stepsOf call.number ++ [.classified failure true] := by
  simp [exhausting]

@[simp] theorem stepsOf_relinking (failures : Nat) (links : CauseLinks) (other : Nat) :
    (world.relinking failures links).stepsOf other = world.stepsOf other :=
  rfl

@[simp] theorem progressOf_relinking (failures : Nat) (links : CauseLinks) (other : Nat) :
    (world.relinking failures links).progressOf other = world.progressOf other :=
  rfl

@[simp] theorem stepsOf_announcing :
    (world.announcing call event).stepsOf call.number =
      world.stepsOf call.number ++ world.announcement call event := by
  rw [announcing, announcement]
  split <;> simp

@[simp] theorem progressOf_counting :
    (world.counting call failure).progressOf call.number =
      (world.progressOf call.number).count call.policy.config.limit failure := by
  simp [counting]

@[simp] theorem progressOf_rejecting :
    (world.rejecting call failure).progressOf call.number =
      (world.progressOf call.number).reject := by
  simp [rejecting]

@[simp] theorem progressOf_exhausting :
    (world.exhausting call failure).progressOf call.number =
      (world.progressOf call.number).count call.policy.config.limit failure := by
  simp [exhausting]

@[simp] theorem progressOf_announcing (other : Nat) :
    (world.announcing call event).progressOf other = world.progressOf other := by
  rw [announcing]
  split <;> rfl

@[simp] theorem countersOf_announcing (policy : Nat) :
    (world.announcing call event).countersOf policy = world.countersOf policy := by
  rw [announcing]
  split <;> rfl

@[simp] theorem announcement_observe (observation : Observation) :
    (world.observe observation).announcement call event = world.announcement call event :=
  rfl

end World

namespace Environment

open World

variable (environment : Environment σ) (call : Call)

theorem step_apply (step : CallStep) (world : World σ) :
    Action.step call.number step world = .ok () (world.note call step) :=
  rfl

/-! ## Announcing -/

theorem announce_of_heard {detail : EventDetail} {attempts : Nat} {lastFailure : Option Failure}
    {world : World σ}
    (heard : world.hears call (call.event detail attempts lastFailure) = true) :
    environment.announce call detail attempts lastFailure world =
      environment.publish call.policy.publisher (call.event detail attempts lastFailure)
        (world.announcing call (call.event detail attempts lastFailure)) := by
  have listening : (world.listenersOf call.policy.publisher).hasListeners detail.kind? = true :=
    heard
  simp only [announce, Action.bind_apply, Action.get_apply, listening, if_true, step_apply,
    World.announcing, heard]
  rfl

theorem announce_of_unheard {detail : EventDetail} {attempts : Nat} {lastFailure : Option Failure}
    {world : World σ}
    (unheard : world.hears call (call.event detail attempts lastFailure) = false) :
    environment.announce call detail attempts lastFailure world = .ok () world := by
  have listening : (world.listenersOf call.policy.publisher).hasListeners detail.kind? = false :=
    unheard
  simp [announce, Action.bind_apply, listening]

theorem outside_announce (detail : EventDetail) (attempts : Nat) (lastFailure : Option Failure)
    (world : World σ) :
    (world.announcing call (call.event detail attempts lastFailure)).Outside
      ((environment.announce call detail attempts lastFailure).after world) := by
  cases heard : world.hears call (call.event detail attempts lastFailure) with
  | false =>
      rw [Action.after_eq_of_ok (environment.announce_of_unheard call heard)]
      simp only [announcing, heard]
      exact Outside.refl world
  | true =>
      simp only [Action.after, environment.announce_of_heard call heard]
      exact environment.keeps_publish _ _ _

/-- Write the log record of the end of a call, announce the end and raise the failure of the
call. -/
def conclude (detail : EventDetail) (attempts : Nat) (failure : Option Failure) (wording : Wording)
    (entry : String → LogEntry) : Action σ α := do
  let text ← Action.write wording
  Action.observe (.logged (entry text))
  environment.announce call detail attempts failure
  Action.raise failure

section conclude

variable {detail : EventDetail} {attempts : Nat} {wording : Wording} {entry : String → LogEntry}
  {world : World σ}

theorem conclude_of_unwritten {failure : Option Failure} {refusal : Refusal}
    (unwritten : wording = .error refusal) :
    environment.conclude (α := α) call detail attempts failure wording entry world =
      .error (refusal.toFailure (.made world.failures))
        (world.relinking (world.failures + 1) world.links) := by
  rw [unwritten]
  rfl

theorem conclude_of_written {failure : Option Failure} {text : String}
    (written : wording = .ok text) :
    environment.conclude (α := α) call detail attempts failure wording entry world =
      (environment.announce call detail attempts failure >>= fun _ => Action.raise failure)
        (world.observe (.logged (entry text))) := by
  rw [written]
  rfl

theorem conclude_of_announced {failure : Failure} {text : String} {after : World σ}
    (written : wording = .ok text)
    (announced : environment.announce call detail attempts (some failure)
      (world.observe (.logged (entry text))) = .ok () after) :
    environment.conclude (α := α) call detail attempts (some failure) wording entry world =
      .error failure after := by
  simp only [environment.conclude_of_written call written, Action.bind_apply, announced,
    Action.raise, Action.throw_apply]

end conclude

inductive Concluding (environment : Environment σ) (call : Call) (detail : EventDetail)
    (attempts : Nat) (failure : Option Failure) (world : World σ) :
    EStateM.Result Failure (World σ) α → Prop
  | unwritten (refusal : Refusal) :
      Concluding environment call detail attempts failure world
        (.error (refusal.toFailure (.made world.failures))
          (world.relinking (world.failures + 1) world.links))
  | announced {raised : Failure} {entry : LogEntry} {after : World σ}
      (outside : ((world.observe (.logged entry)).announcing call
        (call.event detail attempts failure)).Outside after) :
      Concluding environment call detail attempts failure world (.error raised after)

theorem concluding_conclude (detail : EventDetail) (attempts : Nat) (failure : Option Failure)
    (wording : Wording) (entry : String → LogEntry) (world : World σ) :
    Concluding environment call detail attempts failure world
      (environment.conclude (α := α) call detail attempts failure wording entry world) := by
  cases written : wording with
  | error refusal =>
      rw [environment.conclude_of_unwritten call rfl]
      exact .unwritten refusal
  | ok text =>
      have outside := environment.outside_announce call detail attempts failure
        (world.observe (.logged (entry text)))
      simp only [environment.conclude_of_written call rfl, Action.bind_apply]
      cases announced : environment.announce call detail attempts failure
          (world.observe (.logged (entry text))) with
      | error raised after =>
          rw [Action.after_eq_of_error announced] at outside
          exact .announced outside
      | ok value after =>
          rw [Action.after_eq_of_ok announced] at outside
          cases failure with
          | some failure => exact .announced outside
          | none => exact .announced (outside.trans (Outside.newIdentity after))

theorem conclude_error (detail : EventDetail) (attempts : Nat) (failure : Option Failure)
    (wording : Wording) (entry : String → LogEntry) (world : World σ) :
    ∃ raised after, environment.conclude (α := α) call detail attempts failure wording entry world =
      .error raised after := by
  have concluding := environment.concluding_conclude (α := α) call detail attempts failure wording
    entry world
  generalize environment.conclude call detail attempts failure wording entry world = result
    at concluding
  cases concluding with
  | unwritten refusal => exact ⟨_, _, rfl⟩
  | announced outside => exact ⟨_, _, rfl⟩

/-! ## Recording a failure -/

theorem reject_apply (failure : Option Failure) (world : World σ) :
    ∃ entry,
      environment.reject (α := α) call failure (world.note call (.classified failure false)) =
        environment.conclude call .ignoredError (world.attemptsOf call) failure
          (Failure.text? failure) entry (world.rejecting call failure) := by
  simp only [reject, conclude, Action.bind_apply, Action.changeProgress_apply,
    Action.progressOf_apply, Action.changeCounters_apply, Action.log,
    progressOf_changeProgress_self]
  exact ⟨fun text => _, rfl⟩

theorem exhaust_apply (attempts : Nat) (failure : Option Failure) (world : World σ) :
    ∃ entry,
      environment.exhaust (α := α) call attempts failure (world.counting call failure) =
        environment.conclude call .error attempts failure (Failure.shown? failure) entry
          (world.exhausting call failure) := by
  simp only [exhaust, conclude, Action.bind_apply, Action.changeCounters_apply, Action.log]
  exact ⟨fun text => _, rfl⟩

inductive Planning (environment : Environment σ) (call : Call) (attempts : Nat)
    (failure : Option Failure) (asking : World σ) : EStateM.Result Failure (World σ) Scalar → Prop
  /-- The interval function raises a failure. -/
  | uncomputed {raised : Failure} {after : World σ}
      (computes : environment.delay call.policy.config.interval attempts asking =
        .error raised after) :
      Planning environment call attempts failure asking (.error raised after)
  /-- The interval is too large a number to be written into the log. -/
  | unwritten {interval : Scalar} {computed : World σ} {fault : ArithmeticFault}
      (computes : environment.delay call.policy.config.interval attempts asking =
        .ok interval computed)
      (unwritten : interval.fixedText = .error fault) :
      Planning environment call attempts failure asking
        (.error (fault.toFailure (.made computed.failures))
          (computed.relinking (computed.failures + 1) computed.links))
  /-- A listener raises a failure that is not ordinary. -/
  | unannounced {interval : Scalar} {computed after : World σ} {shown : String} {entry : LogEntry}
      {raised : Failure}
      (computes : environment.delay call.policy.config.interval attempts asking =
        .ok interval computed)
      (written : interval.fixedText = .ok shown)
      (announces : environment.announce call (.retry interval) attempts failure
        (computed.observe (.logged entry)) = .error raised after) :
      Planning environment call attempts failure asking (.error raised after)
  | announced {interval : Scalar} {computed after : World σ} {shown : String} {entry : LogEntry}
      (computes : environment.delay call.policy.config.interval attempts asking =
        .ok interval computed)
      (written : interval.fixedText = .ok shown)
      (announces : environment.announce call (.retry interval) attempts failure
        (computed.observe (.logged entry)) = .ok () after) :
      Planning environment call attempts failure asking (.ok interval after)

def announceWait (attempts : Nat) (failure : Option Failure) (interval : Scalar) :
    Action σ Scalar := do
  environment.announce call (.retry interval) attempts failure
  return interval

theorem planWait_apply {attempts : Nat} (failure : Option Failure) {world computed : World σ}
    {interval : Scalar} {shown : String}
    (computes : environment.delay call.policy.config.interval attempts
      (world.note call (.intervalAsked attempts)) = .ok interval computed)
    (written : interval.fixedText = .ok shown) :
    ∃ entry, environment.planWait call attempts failure world =
      environment.announceWait call attempts failure interval
        (computed.observe (.logged entry)) := by
  simp only [planWait, announceWait, Action.bind_apply, step_apply, computes, written,
    Action.calculate_ok, Action.log_apply]
  exact ⟨_, rfl⟩

theorem planning_planWait (attempts : Nat) (failure : Option Failure) (world : World σ) :
    Planning environment call attempts failure (world.note call (.intervalAsked attempts))
      (environment.planWait call attempts failure world) := by
  cases computes : environment.delay call.policy.config.interval attempts
      (world.note call (.intervalAsked attempts)) with
  | error raised after =>
      simp only [planWait, Action.bind_apply, step_apply, computes]
      exact .uncomputed computes
  | ok interval computed =>
      cases written : interval.fixedText with
      | error fault =>
          simp only [planWait, Action.bind_apply, step_apply, computes, written,
            Action.calculate_error]
          exact .unwritten computes written
      | ok shown =>
          rcases environment.planWait_apply call failure computes written with
            ⟨entry, equal⟩
          simp only [equal, announceWait, Action.bind_apply]
          cases announces : environment.announce call (.retry interval) attempts failure
              (computed.observe (.logged entry)) with
          | ok _ after => exact .announced computes written announces
          | error raised after => exact .unannounced computes written announces

def proceed (attempts : Nat) (failure : Option Failure) : Action σ Scalar :=
  if call.policy.config.limit.isReached attempts then environment.exhaust call attempts failure
  else environment.planWait call attempts failure

inductive Recording (environment : Environment σ) (call : Call) (failure : Option Failure)
    (before : World σ) : EStateM.Result Failure (World σ) Scalar → Prop
  /-- The predicate raises a failure. -/
  | unclassified {raised : Failure} {after : World σ}
      (asked : environment.isRetryable call.policy.config failure before = .error raised after) :
      Recording environment call failure before (.error raised after)
  | rejected {judged after : World σ} {entry : String → LogEntry} {raised : Failure}
      (asked : environment.isRetryable call.policy.config failure before = .ok false judged)
      (concludes : environment.conclude (α := Scalar) call .ignoredError (judged.attemptsOf call)
        failure (Failure.text? failure) entry (judged.rejecting call failure) =
          .error raised after) :
      Recording environment call failure before (.error raised after)
  | exhausted {judged after : World σ} {entry : String → LogEntry} {raised : Failure}
      (asked : environment.isRetryable call.policy.config failure before = .ok true judged)
      (reached : call.policy.config.limit.isReached (judged.attemptsOf call + 1) = true)
      (concludes : environment.conclude (α := Scalar) call .error (judged.attemptsOf call + 1)
        failure (Failure.shown? failure) entry (judged.exhausting call failure) =
          .error raised after) :
      Recording environment call failure before (.error raised after)
  | planned {judged : World σ} {result : EStateM.Result Failure (World σ) Scalar}
      (asked : environment.isRetryable call.policy.config failure before = .ok true judged)
      (allowed : call.policy.config.limit.isReached (judged.attemptsOf call + 1) = false)
      (planning : Planning environment call (judged.attemptsOf call + 1) failure
        ((judged.counting call failure).note call (.intervalAsked (judged.attemptsOf call + 1)))
        result) :
      Recording environment call failure before result

theorem recordFailure_of_retryable {failure : Option Failure} {before judged : World σ}
    (asked : environment.isRetryable call.policy.config failure before = .ok true judged) :
    environment.recordFailure call failure before =
      environment.proceed call (judged.attemptsOf call + 1) failure
        (judged.counting call failure) := by
  have counted : (judged.counting call failure).attemptsOf call = judged.attemptsOf call + 1 := by
    simp [attemptsOf]
  rw [← counted]
  simp only [recordFailure, Action.bind_apply, asked]
  rfl

theorem recordFailure_of_rejected {failure : Option Failure} {before judged : World σ}
    (asked : environment.isRetryable call.policy.config failure before = .ok false judged) :
    environment.recordFailure call failure before =
      environment.reject call failure (judged.note call (.classified failure false)) := by
  simp only [recordFailure, Action.bind_apply, asked]
  rfl

theorem recording_recordFailure (failure : Option Failure) (before : World σ) :
    Recording environment call failure before (environment.recordFailure call failure before) := by
  cases asked : environment.isRetryable call.policy.config failure before with
  | error raised after =>
      simp only [recordFailure, Action.bind_apply, asked]
      exact .unclassified asked
  | ok retryable judged =>
      cases retryable with
      | false =>
          rcases environment.reject_apply call failure judged with ⟨entry, rejects⟩
          rcases environment.conclude_error call .ignoredError (judged.attemptsOf call) failure
            (Failure.text? failure) entry (judged.rejecting call failure) with
            ⟨raised, after, concludes⟩
          rw [environment.recordFailure_of_rejected call asked, rejects, concludes]
          exact .rejected asked concludes
      | true =>
          rw [environment.recordFailure_of_retryable call asked, proceed]
          by_cases reached : call.policy.config.limit.isReached (judged.attemptsOf call + 1) = true
          · rcases environment.exhaust_apply call (judged.attemptsOf call + 1) failure judged with
              ⟨entry, exhausts⟩
            rcases environment.conclude_error call .error (judged.attemptsOf call + 1) failure
              (Failure.shown? failure) entry (judged.exhausting call failure) with
              ⟨raised, after, concludes⟩
            rw [if_pos reached, exhausts, concludes]
            exact .exhausted asked reached concludes
          · rw [if_neg reached]
            exact .planned asked (Bool.eq_false_iff.mpr reached)
              (environment.planning_planWait call _ failure _)

/-! ## What a report keeps -/

/-- The relation does not look at what the engine writes about a report, and listeners keep
it. -/
structure IgnoresReports (environment : Environment σ) (call : Call)
    (relation : World σ → World σ → Prop) : Prop where
  observe : ∀ world observation, relation world (world.observe observation)
  counting : ∀ world failure, relation world
    (world.changeProgress call.number fun progress =>
      progress.count call.policy.config.limit failure)
  rejecting : ∀ world, relation world (world.changeProgress call.number .reject)
  succeeding : ∀ world, relation world (world.changeProgress call.number .succeed)
  changeCounters : ∀ world change, relation world
    (world.changeCounters call.policy.number change)
  newIdentity : ∀ world, relation world { world with failures := world.failures + 1 }
  publishes : ∀ event, (environment.publish call.policy.publisher event).Keeps relation

namespace IgnoresReports

open Reattempt.Action

variable {environment call} {relation : World σ → World σ → Prop}
  (ignores : IgnoresReports environment call relation)

include ignores

theorem keeps_observe (observation : Observation) :
    (Action.observe observation : Action σ Unit).Keeps relation :=
  fun world => ignores.observe world observation

theorem keeps_changeCounters (change : Counters → Counters) :
    (Action.changeCounters call.policy.number change : Action σ Unit).Keeps relation :=
  fun world => ignores.changeCounters world change

theorem keeps_newIdentity : (Action.newIdentity : Action σ Identity).Keeps relation :=
  ignores.newIdentity

variable [IsPreorder (World σ) relation]

theorem keeps_raise (failure : Option Failure) : (raise failure : Action σ α).Keeps relation := by
  cases failure with
  | some failure => exact keeps_throw failure
  | none => exact Keeps.bind ignores.keeps_newIdentity fun identity => keeps_throw _

theorem keeps_announce (detail : EventDetail) (attempts : Nat) (lastFailure : Option Failure) :
    (environment.announce call detail attempts lastFailure).Keeps relation := by
  apply keeps_get_bind
  intro world
  split
  · exact Keeps.bind (ignores.keeps_observe _) fun _ => ignores.publishes _
  · exact keeps_pure ()

theorem keeps_reject (failure : Option Failure) :
    (environment.reject call failure : Action σ α).Keeps relation := by
  have rejected : (changeProgress call.number .reject : Action σ Unit).Keeps relation :=
    ignores.rejecting
  apply Keeps.bind rejected
  intro _
  refine Keeps.bind (keeps_progressOf _) fun progress => ?_
  apply Keeps.bind (ignores.keeps_changeCounters _)
  intro _
  apply Keeps.bind (keeps_write ignores.newIdentity _)
  intro _
  apply Keeps.bind (ignores.keeps_observe _)
  intro _
  apply Keeps.bind (ignores.keeps_announce _ _ _)
  intro _
  exact ignores.keeps_raise failure

theorem keeps_exhaust (attempts : Nat) (failure : Option Failure) :
    (environment.exhaust call attempts failure : Action σ α).Keeps relation := by
  apply Keeps.bind (ignores.keeps_changeCounters _)
  intro _
  apply Keeps.bind (keeps_write ignores.newIdentity _)
  intro _
  apply Keeps.bind (ignores.keeps_observe _)
  intro _
  apply Keeps.bind (ignores.keeps_announce _ _ _)
  intro _
  exact ignores.keeps_raise failure

theorem keeps_planWait {attempts : Nat}
    (computes : (environment.delay call.policy.config.interval attempts).Keeps relation)
    (failure : Option Failure) : (environment.planWait call attempts failure).Keeps relation := by
  apply Keeps.bind (ignores.keeps_observe _)
  intro _
  apply Keeps.bind computes
  intro interval
  apply Keeps.bind (keeps_calculate ignores.newIdentity _)
  intro shown
  apply Keeps.bind (ignores.keeps_observe _)
  intro _
  apply Keeps.bind (ignores.keeps_announce _ _ _)
  intro _
  exact keeps_pure interval

theorem keeps_recordFailure {failure : Option Failure}
    (judges : (environment.isRetryable call.policy.config failure).Keeps relation)
    (computes : ∀ attempts : Nat,
      (environment.delay call.policy.config.interval attempts).Keeps relation) :
    (environment.recordFailure call failure).Keeps relation := by
  apply Keeps.bind judges
  intro retryable
  apply Keeps.bind (ignores.keeps_observe _)
  intro _
  split
  · refine Keeps.bind (fun world => ignores.counting world failure) fun _ => ?_
    refine Keeps.bind (keeps_progressOf _) fun progress => ?_
    dsimp only
    split
    · exact ignores.keeps_exhaust _ failure
    · exact ignores.keeps_planWait (computes _) failure
  · exact ignores.keeps_reject failure

theorem keeps_onSuccess : (environment.onSuccess call).Keeps relation := by
  have succeeded : (changeProgress call.number .succeed : Action σ Unit).Keeps relation :=
    ignores.succeeding
  apply Keeps.bind succeeded
  intro _
  refine Keeps.bind (keeps_progressOf _) fun progress => ?_
  dsimp only
  split
  · refine Keeps.bind (ignores.keeps_changeCounters _) fun _ => ?_
    apply Keeps.bind (ignores.keeps_observe _)
    intro _
    exact ignores.keeps_announce _ _ _
  · exact ignores.keeps_changeCounters _

end IgnoresReports

end Environment

end Reattempt
