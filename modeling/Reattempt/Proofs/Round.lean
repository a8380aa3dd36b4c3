import Reattempt.Proofs.Wait

/-! Rounds and endings. An attempt is followed by another one only through a full
round: the operation raises an ordinary failure, the failure is found worth another
attempt and within the limit, the interval is computed and announced, and the wait is
over. Every other attempt is the last one. -/

namespace Reattempt

variable {σ α : Type}

namespace Environment

open World

variable (environment : Environment σ) (call : Call) (kind : WaitKind)

theorem attempt_apply (operation : Arguments → Behaviour σ α) (arguments : Arguments)
    (world : World σ) :
    environment.attempt call operation arguments world =
      match environment.run (operation arguments) (world.note call (.attempted arguments)) with
      | .ok value after => .ok (.ok value) after
      | .error failure after =>
          if failure.isA .ordinary then .ok (.error failure) after else .error failure after := by
  rw [attempt]
  simp only [Action.bind_apply, step_apply, Action.tryCatch_apply]
  cases environment.run (operation arguments) (world.note call (.attempted arguments)) with
  | ok value after => rfl
  | error failure after =>
      cases ordinary : failure.isA .ordinary with
      | true =>
          simp only [ordinary, if_true]
          rfl
      | false =>
          simp only [ordinary, Bool.false_eq_true, if_false]
          rfl

/-! ## Reporting a success -/

theorem onSuccess_at_once {world : World σ} (never : world.attemptsOf call = 0) :
    environment.onSuccess call world =
      .ok () ((world.changeProgress call.number .succeed).changeCounters call.policy.number
        (·.countSuccess false)) := by
  have attempts : ((world.progressOf call.number).succeed).attempts = 0 := never
  simp only [onSuccess, Action.bind_apply, Action.changeProgress_apply, Action.progressOf_apply,
    progressOf_changeProgress_self, attempts]
  rfl

theorem onSuccess_after_retry {world : World σ} (retried : 0 < world.attemptsOf call) :
    ∃ entry, environment.onSuccess call world =
      environment.announce call .success (world.attemptsOf call)
        (world.progressOf call.number).lastFailure
        (((world.changeProgress call.number .succeed).changeCounters call.policy.number
          (·.countSuccess true)).observe (.logged entry)) := by
  have attempts : 0 < ((world.progressOf call.number).succeed).attempts := retried
  simp only [onSuccess, Action.bind_apply, Action.changeProgress_apply, Action.progressOf_apply,
    progressOf_changeProgress_self, if_pos attempts, Action.changeCounters_apply, Action.log_apply]
  exact ⟨_, rfl⟩

/-! ## Reporting a failure -/

/-- A failure is reported and the operation may be attempted again: the steps in
between, with the number of the failure among those that were counted. -/
inductive Retried (environment : Environment σ) (call : Call) (kind : WaitKind)
    (failure : Option Failure) (number : Nat) (before : World σ) : List CallStep → World σ → Prop
  | intro {interval : Scalar} {judged computed announced slept : World σ} {shown : String}
      {entry : LogEntry}
      (asked : environment.isRetryable call.policy.config failure before = .ok true judged)
      (allowed : call.policy.config.limit.isReached number = false)
      (computes : environment.delay call.policy.config.interval number
        ((judged.counting call failure).note call (.intervalAsked number)) = .ok interval computed)
      (written : interval.fixedText = .ok shown)
      (announces : environment.announce call (.retry interval) number failure
        (computed.observe (.logged entry)) = .ok () announced)
      (uncancelled : (announced.progressOf call.number).cancelled = false)
      (passes : environment.passTime call kind interval
        (announced.beginning call kind interval) = .ok false slept) :
      Retried environment call kind failure number before
        ([.classified failure true, .intervalAsked number] ++
          computed.announcement call (call.event (.retry interval) number failure) ++
          [.waitBegun kind interval, .waitOver kind interval])
        ((slept.note call (.waitOver kind interval)).changeProgress call.number .resume)

/-- A full round: one attempt that fails, and everything up to the next attempt. -/
inductive Round (environment : Environment σ) (call : Call) (kind : WaitKind)
    (operation : Arguments → Behaviour σ α) (arguments : Arguments) (number : Nat)
    (before : World σ) : List CallStep → World σ → Prop
  | intro {failure : Failure} {raised after : World σ} {steps : List CallStep}
      (raises : environment.run (operation arguments) (before.note call (.attempted arguments)) =
        .error failure raised)
      (ordinary : failure.isA .ordinary = true)
      (retried : Retried environment call kind (some failure) number raised steps after) :
      Round environment call kind operation arguments number before
        (.attempted arguments :: steps) after

inductive Rounds (environment : Environment σ) (call : Call) (kind : WaitKind)
    (operation : Arguments → Behaviour σ α) (arguments : Arguments) :
    Nat → World σ → List CallStep → Nat → World σ → Prop
  | none (number : Nat) (world : World σ) :
      Rounds environment call kind operation arguments number world [] number world
  | more {number last : Nat} {before next after : World σ} {steps later : List CallStep}
      (round : Round environment call kind operation arguments (number + 1) before steps next)
      (rest : Rounds environment call kind operation arguments (number + 1) next later last after) :
      Rounds environment call kind operation arguments number before (steps ++ later) last after

/-! ## A report that ends normally -/

variable {environment call kind}

theorem attemptsOf_eq_of_outside {before after : World σ} (outside : before.Outside after)
    (call : Call) : after.attemptsOf call = before.attemptsOf call :=
  outside.attempts call.number

theorem stepsOf_of_announce {detail : EventDetail} {attempts : Nat} {failure : Option Failure}
    {world after : World σ}
    (announces : (environment.announce call detail attempts failure).after world = after) :
    after.stepsOf call.number = world.stepsOf call.number ++
      world.announcement call (call.event detail attempts failure) := by
  subst announces
  rw [(environment.outside_announce call detail attempts failure world).stepsOf]
  exact stepsOf_announcing world call _

theorem attempts_of_announce {detail : EventDetail} {attempts : Nat} {failure : Option Failure}
    {world after : World σ}
    (announces : (environment.announce call detail attempts failure).after world = after) :
    (after.progressOf call.number).attempts = (world.progressOf call.number).attempts := by
  subst announces
  rw [(environment.outside_announce call detail attempts failure world).attempts,
    progressOf_announcing]

theorem outside_of_isRetryable {failure : Option Failure} {before judged : World σ} {verdict : Bool}
    (asked : environment.isRetryable call.policy.config failure before = .ok verdict judged) :
    before.Outside judged :=
  (environment.keeps_isRetryable _ _).of_ok asked

theorem retried_of_onFailure {failure : Option Failure} {before after : World σ}
    (ends : environment.onFailure call kind failure before = .ok () after) :
    ∃ steps, Retried environment call kind failure (before.attemptsOf call + 1) before steps
      after := by
  rw [onFailure_eq, WaitKind.enclose_ok_iff, recordAndWait_apply] at ends
  have recording := environment.recording_recordFailure call failure before
  generalize environment.recordFailure call failure before = recorded at ends recording
  cases recording with
  | unclassified => cases ends
  | rejected => cases ends
  | exhausted => cases ends
  | planned asked allowed planning =>
      have counted := attemptsOf_eq_of_outside (outside_of_isRetryable asked) call
      rw [counted] at allowed planning
      cases planning with
      | uncomputed => cases ends
      | unwritten => cases ends
      | unannounced => cases ends
      | announced computes written announces =>
          rename_i interval computed announced shown entry
          have waiting := environment.waiting_waitBefore call kind interval announced
          dsimp only at ends
          generalize environment.waitBefore call kind interval announced = waited at ends waiting
          cases waiting with
          | skipped cancelled interrupted => cases interrupted <;> cases ends
          | interrupted uncancelled passes interrupts interrupted =>
              cases interrupted <;> cases ends
          | escaped => cases ends
          | noticed uncancelled passes interrupted => cases interrupted <;> cases ends
          | elapsed uncancelled passes =>
              cases ends
              exact ⟨_, .intro asked allowed computes written announces uncancelled passes⟩

theorem outside_of_delay {backoff : Backoff} {attempt : Int} {asking computed : World σ}
    {interval : Scalar}
    (computes : environment.delay backoff attempt asking = .ok interval computed) :
    asking.Outside computed :=
  (environment.keeps_delay _ _).of_ok computes

theorem stepsOf_asking {failure : Option Failure} {before judged : World σ}
    (asked : environment.isRetryable call.policy.config failure before = .ok true judged)
    (number : Nat) :
    ((judged.counting call failure).note call (.intervalAsked number)).stepsOf call.number =
      before.stepsOf call.number ++ [.classified failure true, .intervalAsked number] := by
  rw [stepsOf_note, stepsOf_counting, (outside_of_isRetryable asked).stepsOf]
  simp

theorem Retried.stepsOf {failure : Option Failure} {number : Nat} {before after : World σ}
    {steps : List CallStep}
    (retried : Retried environment call kind failure number before steps after) :
    after.stepsOf call.number = before.stepsOf call.number ++ steps := by
  cases retried with
  | intro asked allowed computes written announces uncancelled passes =>
      rw [stepsOf_changeProgress, stepsOf_note, ((environment.outside_passTime call _ _).of_ok passes).stepsOf, stepsOf_beginning,
        stepsOf_of_announce (Action.after_eq_of_ok announces), stepsOf_logged,
        (outside_of_delay computes).stepsOf, stepsOf_asking asked, announcement_observe]
      simp

theorem Retried.attemptsOf {failure : Option Failure} {number : Nat} {before after : World σ}
    {steps : List CallStep}
    (retried : Retried environment call kind failure number before steps after) :
    after.attemptsOf call = before.attemptsOf call + 1 := by
  cases retried with
  | intro asked allowed computes written announces uncancelled passes =>
      have judged := (outside_of_isRetryable asked).attempts call.number
      have computed := (outside_of_delay computes).attempts call.number
      have announced := attempts_of_announce (Action.after_eq_of_ok announces)
      have slept := ((environment.outside_passTime call _ _).of_ok passes).attempts call.number
      simp only [progressOf_note, progressOf_counting, progressOf_observe, attempts_beginning,
        Progress.attempts_count] at computed announced slept
      simp only [World.attemptsOf, progressOf_changeProgress_self, progressOf_note, Progress.resume]
      rw [slept, announced, computed, judged]

end Environment

end Reattempt
