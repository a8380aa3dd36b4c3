import Reattempt.Proofs.Cancelled

/-! Cancelling a call while it runs. A run is divided into the parts in which the caller's
code runs, and a cancellation comes in one of them or before the run. Whichever it is, no
wait begins any more, and at most one attempt. -/

namespace Reattempt

variable {σ α : Type}

/-- The parts of a run in which the caller's code runs: it carries out the operation, it is
asked and told about the outcome, it waits, or the time of the wait is over, but the call
does not go on yet. -/
inductive Part where
  | attempt
  | report
  | wait
  | lag
  deriving DecidableEq, Repr

/-- The number of attempts that may still begin after a cancellation in this part. A sleep
function does not notice it, and after the time of a wait it comes too late. -/
def Part.attemptsLeft (kind : WaitKind) : Part → Nat
  | .attempt | .report => 0
  | .wait => if kind = .sleeping then 1 else 0
  | .lag => 1

namespace Environment

open World Reattempt.Action CallStep

variable {environment : Environment σ} {call : Call} {kind : WaitKind}
  {operation : Arguments → Behaviour σ α} {arguments : Arguments}

/-- A run from this world with this budget comes to a part, which it enters and leaves in
these worlds. -/
inductive Visits (environment : Environment σ) (call : Call) (kind : WaitKind)
    (operation : Arguments → Behaviour σ α) (arguments : Arguments) :
    Nat → World σ → Part → World σ → World σ → Prop
  | attempt {budget : Nat} {before : World σ} :
      Visits environment call kind operation arguments (budget + 1) before .attempt
        (before.note call (.attempted arguments))
        ((environment.run (operation arguments)).after (before.note call (.attempted arguments)))
  | success {budget : Nat} {before answered : World σ} {value : α}
      (runs : environment.run (operation arguments) (before.note call (.attempted arguments)) =
        .ok value answered) :
      Visits environment call kind operation arguments (budget + 1) before .report answered
        ((environment.onSuccess call).after answered)
  | failure {budget : Nat} {before failed : World σ} {failure : Failure}
      (runs : environment.run (operation arguments) (before.note call (.attempted arguments)) =
        .error failure failed)
      (ordinary : failure.isA .ordinary = true) :
      Visits environment call kind operation arguments (budget + 1) before .report failed
        ((environment.recordFailure call (some failure)).after failed)
  | wait {budget : Nat} {before failed planned : World σ} {failure : Failure} {interval : Scalar}
      (runs : environment.run (operation arguments) (before.note call (.attempted arguments)) =
        .error failure failed)
      (ordinary : failure.isA .ordinary = true)
      (records : environment.recordFailure call (some failure) failed = .ok interval planned)
      (uncancelled : (planned.progressOf call.number).cancelled = false) :
      Visits environment call kind operation arguments (budget + 1) before .wait
        (planned.beginning call kind interval)
        ((environment.run (environment.wait kind interval)).after
          (planned.beginning call kind interval))
  | lag {budget : Nat} {before failed planned waited : World σ} {failure : Failure}
      {interval : Scalar}
      (runs : environment.run (operation arguments) (before.note call (.attempted arguments)) =
        .error failure failed)
      (ordinary : failure.isA .ordinary = true)
      (records : environment.recordFailure call (some failure) failed = .ok interval planned)
      (uncancelled : (planned.progressOf call.number).cancelled = false)
      (notices : kind ≠ .sleeping)
      (waits : environment.runDuring kind (environment.wait kind interval)
        (planned.beginning call kind interval) = .ok () waited) :
      Visits environment call kind operation arguments (budget + 1) before .lag waited
        ((environment.run (environment.lag kind)).after waited)
  | later {budget : Nat} {before failed next entered left : World σ} {failure : Failure}
      {part : Part}
      (runs : environment.run (operation arguments) (before.note call (.attempted arguments)) =
        .error failure failed)
      (ordinary : failure.isA .ordinary = true)
      (reports : environment.onFailure call kind (some failure) failed = .ok () next)
      (rest : Visits environment call kind operation arguments budget next part entered left) :
      Visits environment call kind operation arguments (budget + 1) before part entered left

/-! ## One round -/

section Round

variable {before : World σ}

theorem after_attemptWithin_of_answered {answered : World σ} {value : α}
    (runs : environment.run (operation arguments) (before.note call (.attempted arguments)) =
      .ok value answered) (budget : Nat) :
    (environment.attemptWithin call kind operation arguments (budget + 1)).after before =
      (environment.onSuccess call).after answered := by
  simp only [after, attemptWithin_succ, runs]
  cases environment.onSuccess call answered <;> rfl

variable {failed : World σ} {failure : Failure}
  (runs : environment.run (operation arguments) (before.note call (.attempted arguments)) =
    .error failure failed)

include runs

private theorem after_attemptWithin_of_special (special : failure.isA .ordinary = false)
    (budget : Nat) :
    (environment.attemptWithin call kind operation arguments (budget + 1)).after before =
      failed := by
  simp only [after, attemptWithin_succ, runs, special]
  rfl

variable (ordinary : failure.isA .ordinary = true)

include ordinary

private theorem after_attemptWithin_of_raised {raised : Failure} {stopped : World σ}
    (reports : environment.onFailure call kind (some failure) failed = .error raised stopped)
    (budget : Nat) :
    (environment.attemptWithin call kind operation arguments (budget + 1)).after before =
      stopped := by
  simp only [after, attemptWithin_succ, runs, if_pos ordinary, reports]
  rfl

private theorem after_attemptWithin_of_retried {next : World σ}
    (reports : environment.onFailure call kind (some failure) failed = .ok () next)
    (budget : Nat) :
    (environment.attemptWithin call kind operation arguments (budget + 1)).after before =
      (environment.attemptWithin call kind operation arguments budget).after next := by
  simp only [after, attemptWithin_succ, runs, if_pos ordinary, reports]

end Round

/-- How a wait that begins goes on when its time has passed. It adds no step unless it is
over, and then a cancellation was not noticed. -/
theorem Waits.slept {failure : Failure} {interval : Scalar} {planned : World σ}
    {ending : WaitEnding} {result : EStateM.Result Failure (World σ) Unit}
    (waits : Waits environment call kind failure interval planned ending result)
    (uncancelled : (planned.progressOf call.number).cancelled = false) :
    let begun := planned.beginning call kind interval
    let slept := (environment.passTime call kind interval).after begun
    ((lastWorld result).progressOf call.number).cancelled =
        (slept.progressOf call.number).cancelled ∧
      ((∃ raised stopped, result = .error raised stopped ∧
          stopped.stepsOf call.number = begun.stepsOf call.number) ∨
        ∃ next, result = .ok () next ∧
          next.stepsOf call.number = begun.stepsOf call.number ++ [.waitOver kind interval] ∧
          environment.passTime call kind interval begun = .ok false slept) := by
  intro begun slept
  have outside := environment.outside_passTime call kind interval
  have interrupted {cause? : Option Failure} {again : Bool} {called : WaitEnding}
      {world : World σ}
      (ends : Interrupted call failure cause? again called world ending result) :
      ((lastWorld result).progressOf call.number).cancelled =
          (world.progressOf call.number).cancelled ∧
        ∃ raised stopped, result = .error raised stopped ∧
          stopped.stepsOf call.number = world.stepsOf call.number := by
    refine ⟨by rw [ends.progress]; rfl, ?_⟩
    cases ends with
    | raised worded => exact ⟨_, _, rfl, stepsOf_interrupting _ _ _ _ _ _⟩
    | unworded refused new => exact ⟨_, _, rfl, stepsOf_muting _ _ _ _⟩
  cases waits with
  | skipped cancelled =>
      rw [uncancelled] at cancelled
      cases cancelled
  | interrupted _ passes interrupts ends =>
      have same : slept = _ := after_eq_of_error passes
      have kept := outside.of_error passes
      rcases interrupted ends with ⟨cancelled, raised, stopped, ends, steps⟩
      rw [same]
      exact ⟨cancelled, .inl ⟨raised, stopped, ends, steps.trans (kept.stepsOf call.number)⟩⟩
  | escaped _ passes escapes =>
      have same : slept = _ := after_eq_of_error passes
      have kept := outside.of_error passes
      rw [same]
      refine ⟨?_, .inl ⟨_, _, rfl, ?_⟩⟩
      · rw [lastWorld, progressOf_leaving, Progress.cancelled_settle]
      · rw [stepsOf_leaving, kept.stepsOf]
  | noticed _ passes ends =>
      have same : slept = _ := after_eq_of_ok passes
      have kept := outside.of_ok passes
      rcases interrupted ends with ⟨cancelled, raised, stopped, ends, steps⟩
      rw [same]
      exact ⟨cancelled, .inl ⟨raised, stopped, ends, steps.trans (kept.stepsOf call.number)⟩⟩
  | elapsed _ passes =>
      have same : slept = _ := after_eq_of_ok passes
      have kept := outside.of_ok passes
      rw [same]
      refine ⟨?_, .inr ⟨_, rfl, ?_, passes⟩⟩
      · rw [lastWorld, progressOf_changeProgress_self, progressOf_note]
        rfl
      · rw [stepsOf_changeProgress, stepsOf_note, kept.stepsOf]

section Time

variable {interval : Scalar} {begun : World σ}

private theorem cancelled_of_after_passTime
    (cancelled : (((environment.passTime call kind interval).after begun).progressOf
      call.number).cancelled = true) :
    (((environment.run (environment.wait kind interval)).after begun).progressOf
        call.number).cancelled = true ∨
      ∃ waited, kind ≠ .sleeping ∧
        environment.runDuring kind (environment.wait kind interval) begun = .ok () waited ∧
        (waited.progressOf call.number).cancelled = false ∧
        (((environment.run (environment.lag kind)).after waited).progressOf
          call.number).cancelled = true := by
  have passing := environment.passing_passTime call kind interval begun
  rw [after] at cancelled
  generalize environment.passTime call kind interval begun = result at passing cancelled
  rw [← environment.after_runDuring kind]
  cases passing with
  | broken waits => exact .inl (after_eq_of_error waits ▸ cancelled)
  | slept sleeping waits => exact .inl (after_eq_of_ok waits ▸ cancelled)
  | brokenLate notices waits lags =>
      rename_i waited late
      cases earlier : (waited.progressOf call.number).cancelled with
      | true => exact .inl (after_eq_of_ok waits ▸ earlier)
      | false =>
          refine .inr ⟨waited, notices, waits, earlier, ?_⟩
          rw [← environment.after_runDuring kind, after_eq_of_error lags]
          exact cancelled
  | decided notices waits lags =>
      rename_i waited late
      cases earlier : (waited.progressOf call.number).cancelled with
      | true => exact .inl (after_eq_of_ok waits ▸ earlier)
      | false =>
          refine .inr ⟨waited, notices, waits, earlier, ?_⟩
          rw [← environment.after_runDuring kind, after_eq_of_ok lags]
          exact cancelled

private theorem cancelled_after_passTime
    (cancelled : (((environment.run (environment.wait kind interval)).after begun).progressOf
      call.number).cancelled = true) :
    (((environment.passTime call kind interval).after begun).progressOf call.number).cancelled =
      true := by
  have lagged := keeps_runDuring kind (environment.keeps_run (environment.lag kind))
  have passing := environment.passing_passTime call kind interval begun
  rw [← environment.after_runDuring kind] at cancelled
  rw [after]
  generalize environment.passTime call kind interval begun = result at passing
  cases passing with
  | broken waits => exact after_eq_of_error waits ▸ cancelled
  | slept sleeping waits => exact after_eq_of_ok waits ▸ cancelled
  | brokenLate notices waits lags =>
      rw [after_eq_of_ok waits] at cancelled
      exact StaysCancelled.of_outside (lagged.of_error lags) cancelled
  | decided notices waits lags =>
      rw [after_eq_of_ok waits] at cancelled
      exact StaysCancelled.of_outside (lagged.of_ok lags) cancelled

private theorem after_passTime_of_waited (call : Call) {waited : World σ}
    (notices : kind ≠ .sleeping)
    (waits : environment.runDuring kind (environment.wait kind interval) begun =
      .ok () waited) :
    (environment.passTime call kind interval).after begun =
      (environment.run (environment.lag kind)).after waited := by
  have passing := environment.passing_passTime call kind interval begun
  rw [after, ← environment.after_runDuring kind]
  generalize environment.passTime call kind interval begun = result at passing
  cases passing with
  | broken fails =>
      rw [waits] at fails
      cases fails
  | slept sleeping same => exact absurd sleeping notices
  | brokenLate _ same lags =>
      cases waits.symm.trans same
      rw [after_eq_of_error lags, lastWorld]
  | decided _ same lags =>
      cases waits.symm.trans same
      rw [after_eq_of_ok lags, lastWorld]

theorem sleeping_of_unnoticed {slept : World σ}
    (passes : environment.passTime call kind interval begun = .ok false slept)
    (cancelled : (((environment.run (environment.wait kind interval)).after begun).progressOf
      call.number).cancelled = true) : kind = .sleeping := by
  have passing := environment.passing_passTime call kind interval begun
  rw [passes] at passing
  generalize unnoticed : false = signalled at passing
  cases passing with
  | slept sleeping waits => exact sleeping
  | decided notices waits lags =>
      rw [← environment.after_runDuring kind, after_eq_of_ok waits, ← unnoticed] at cancelled
      cases cancelled

end Time

/-- A call that is cancelled after the report of a failure was cancelled while the failure was
recorded, or while the call waited, or afterwards. -/
theorem cancelled_of_onFailure {failure : Failure} {before : World σ}
    (cancelled : (((environment.onFailure call kind (some failure)).after before).progressOf
      call.number).cancelled = true) :
    (((environment.recordFailure call (some failure)).after before).progressOf
        call.number).cancelled = true ∨
      ∃ interval planned, environment.recordFailure call (some failure) before =
          .ok interval planned ∧
        (planned.progressOf call.number).cancelled = false ∧
        (((environment.passTime call kind interval).after
          (planned.beginning call kind interval)).progressOf call.number).cancelled = true := by
  rcases kind.after_enclose (environment.recordAndWait call kind (some failure)) before with
    ⟨failures, -, enclosed⟩
  rw [onFailure_eq, enclosed, progressOf_relinking] at cancelled
  cases recorded : (((environment.recordFailure call (some failure)).after before).progressOf
      call.number).cancelled with
  | true => exact .inl rfl
  | false =>
      cases records : environment.recordFailure call (some failure) before with
      | error raised stopped =>
          have reports : environment.recordAndWait call kind (some failure) before =
              .error raised stopped := by
            rw [recordAndWait_apply, records]
          rw [after_eq_of_error records] at recorded
          rw [after_eq_of_error reports, recorded] at cancelled
          cases cancelled
      | ok interval planned =>
          rw [after_eq_of_ok records] at recorded
          rcases exists_waits environment kind interval (lastFailure_of_recordFailure records) with
            ⟨ending, waits⟩
          have slept := (waits.slept recorded).1
          rw [after, recordAndWait_of_recordFailure kind records, slept] at cancelled
          exact .inr ⟨interval, planned, rfl, recorded, cancelled⟩

/-! ## After a cancellation -/

section Quiet

variable {budget : Nat} {before : World σ}

variable (kind budget) in
/-- When the call is cancelled at the end of the operation, its outcome is the last thing that
is reported. -/
theorem quiet_of_attempt
    (cancelled : (((environment.run (operation arguments)).after
      (before.note call (.attempted arguments))).progressOf call.number).cancelled = true) :
    ∃ steps, ((environment.attemptWithin call kind operation arguments (budget + 1)).after
        before).stepsOf call.number =
      (before.note call (.attempted arguments)).stepsOf call.number ++ steps ∧ Quiet 0 steps := by
  cases runs : environment.run (operation arguments) (before.note call (.attempted arguments)) with
  | ok value answered =>
      have kept := (environment.keeps_run _).of_ok runs
      rcases quiet_onSuccess environment call answered with ⟨steps, added, quiet⟩
      refine ⟨steps, ?_, quiet⟩
      rw [after_attemptWithin_of_answered runs, added, kept.stepsOf]
  | error failure failed =>
      have kept := (environment.keeps_run _).of_error runs
      rw [after_eq_of_error runs] at cancelled
      cases ordinary : failure.isA .ordinary with
      | false =>
          refine ⟨[], ?_, quiet_nil⟩
          rw [after_attemptWithin_of_special runs ordinary, kept.stepsOf, List.append_nil]
      | true =>
          have recorded := environment.staysCancelled_recordFailure call (some failure) failed
            cancelled
          rcases quiet_onFailure recorded kind with ⟨raised, after, steps, reports, added, quiet⟩
          refine ⟨steps, ?_, quiet⟩
          rw [after_attemptWithin_of_raised runs ordinary reports, added, kept.stepsOf]

/-- A run of a cancelled call attempts the operation once at most. -/
theorem quiet_of_cancelled (cancelled : (before.progressOf call.number).cancelled = true) :
    ∃ steps, ((environment.attemptWithin call kind operation arguments budget).after
        before).stepsOf call.number = before.stepsOf call.number ++ steps ∧ Quiet 1 steps := by
  cases budget with
  | zero => exact ⟨[], (List.append_nil _).symm, nofun, Nat.zero_le 1⟩
  | succ budget =>
      have attempted : Quiet 1 [.attempted arguments] := ⟨by simp, by simp [isAttempt]⟩
      have left := StaysCancelled.of_outside (environment.keeps_run (operation arguments)
        (before.note call (.attempted arguments))) cancelled
      rcases quiet_of_attempt kind budget left with ⟨steps, added, quiet⟩
      refine ⟨.attempted arguments :: steps, ?_, attempted.append quiet⟩
      rw [added, stepsOf_note, List.append_assoc]
      rfl

/-- When the call is cancelled at the end of the time of its wait, one more attempt is possible,
if that is not noticed. -/
theorem quiet_of_passTime {failed planned : World σ} {failure : Failure} {interval : Scalar}
    (runs : environment.run (operation arguments) (before.note call (.attempted arguments)) =
      .error failure failed)
    (ordinary : failure.isA .ordinary = true)
    (records : environment.recordFailure call (some failure) failed = .ok interval planned)
    (uncancelled : (planned.progressOf call.number).cancelled = false) :
    let begun := planned.beginning call kind interval
    let slept := (environment.passTime call kind interval).after begun
    (slept.progressOf call.number).cancelled = true →
    ∃ steps, ((environment.attemptWithin call kind operation arguments (budget + 1)).after
        before).stepsOf call.number = begun.stepsOf call.number ++ steps ∧ Quiet 1 steps ∧
      (Quiet 0 steps ∨ environment.passTime call kind interval begun = .ok false slept) := by
  intro begun slept cancelled
  have waiting := recordAndWait_of_recordFailure kind records
  rcases exists_waits environment kind interval (lastFailure_of_recordFailure records) with
    ⟨ending, waits⟩
  rcases waits.slept uncancelled with
    ⟨same, ⟨raised, stopped, ends, kept⟩ | ⟨next, ends, added, passes⟩⟩
  · rcases kind.exists_error_of_enclose (waiting.trans ends) with ⟨released, failures, reports⟩
    rw [← onFailure_eq] at reports
    refine ⟨[], ?_, quiet_nil.mono (Nat.zero_le 1), .inl quiet_nil⟩
    rw [after_attemptWithin_of_raised runs ordinary reports, stepsOf_relinking, kept,
      List.append_nil]
  · have reports : environment.onFailure call kind (some failure) failed = .ok () next := by
      rw [onFailure_eq, WaitKind.enclose_ok_iff]
      exact waiting.trans ends
    rw [ends, lastWorld] at same
    rcases quiet_of_cancelled (same.trans cancelled) with ⟨steps, later, quiet⟩
    have elapsed : Quiet 0 [.waitOver kind interval] := ⟨by simp, by simp [isAttempt]⟩
    refine ⟨.waitOver kind interval :: steps, ?_, elapsed.append quiet, .inr passes⟩
    rw [after_attemptWithin_of_retried runs ordinary reports, later, added, List.append_assoc]
    rfl

theorem quiet_of_visits {part : Part} {entered left : World σ}
    (visits : Visits environment call kind operation arguments budget before part entered left)
    (cancelled : (left.progressOf call.number).cancelled = true) :
    ∃ steps, ((environment.attemptWithin call kind operation arguments budget).after
        before).stepsOf call.number = entered.stepsOf call.number ++ steps ∧
      Quiet (part.attemptsLeft kind) steps := by
  induction visits with
  | attempt => exact quiet_of_attempt kind _ cancelled
  | success runs =>
      rw [after_attemptWithin_of_answered runs]
      exact quiet_onSuccess environment call _
  | failure runs ordinary =>
      rcases quiet_onFailure cancelled kind with ⟨raised, after, steps, reports, added, quiet⟩
      rw [after_attemptWithin_of_raised runs ordinary reports]
      exact ⟨steps, added, quiet⟩
  | later runs ordinary reports rest quiet =>
      rw [after_attemptWithin_of_retried runs ordinary reports]
      exact quiet cancelled
  | wait runs ordinary records uncancelled =>
      rcases quiet_of_passTime runs ordinary records uncancelled
          (cancelled_after_passTime cancelled) with ⟨steps, added, quiet, silent | passes⟩
      · exact ⟨steps, added, silent.mono (Nat.zero_le _)⟩
      · -- A wait that is over all the same was spent in a sleep function, which does not notice.
        refine ⟨steps, added, ?_⟩
        rw [Part.attemptsLeft, if_pos (sleeping_of_unnoticed passes cancelled)]
        exact quiet
  | lag runs ordinary records uncancelled notices waits =>
      have slept := after_passTime_of_waited call notices waits
      have waited := (keeps_runDuring kind (environment.keeps_run _)).of_ok waits
      rcases quiet_of_passTime runs ordinary records uncancelled (slept ▸ cancelled) with
        ⟨steps, added, quiet, -⟩
      exact ⟨steps, added.trans (congrArg (· ++ steps) (waited.stepsOf call.number).symm), quiet⟩

theorem exists_visits_of_report {failed : World σ} {failure : Failure}
    (runs : environment.run (operation arguments) (before.note call (.attempted arguments)) =
      .error failure failed)
    (ordinary : failure.isA .ordinary = true)
    (uncancelled : (failed.progressOf call.number).cancelled = false)
    (cancelled : (((environment.onFailure call kind (some failure)).after failed).progressOf
      call.number).cancelled = true) :
    ∃ part entered left,
      Visits environment call kind operation arguments (budget + 1) before part entered left ∧
        (entered.progressOf call.number).cancelled = false ∧
        (left.progressOf call.number).cancelled = true := by
  rcases cancelled_of_onFailure cancelled with recorded | ⟨interval, planned, records, still, slept⟩
  · exact ⟨.report, _, _, .failure runs ordinary, uncancelled, recorded⟩
  · rcases cancelled_of_after_passTime slept with waited | ⟨waited, notices, waits, yet, late⟩
    · refine ⟨.wait, _, _, .wait runs ordinary records still, ?_, waited⟩
      rw [progressOf_beginning_settle, Progress.cancelled_settle]
      exact still
    · exact ⟨.lag, _, _, .lag runs ordinary records still notices waits, yet, late⟩

/-- A call that is cancelled in a run is cancelled in one of its parts. -/
theorem exists_visits (uncancelled : (before.progressOf call.number).cancelled = false)
    (cancelled : (((environment.attemptWithin call kind operation arguments budget).after
      before).progressOf call.number).cancelled = true) :
    ∃ part entered left,
      Visits environment call kind operation arguments budget before part entered left ∧
        (entered.progressOf call.number).cancelled = false ∧
        (left.progressOf call.number).cancelled = true := by
  -- The first part that the call leaves cancelled is in this round or in the rest of the run.
  induction budget generalizing before with
  | zero => exact absurd cancelled (Bool.eq_false_iff.mp uncancelled)
  | succ budget induction =>
      cases attempted : (((environment.run (operation arguments)).after
          (before.note call (.attempted arguments))).progressOf call.number).cancelled with
      | true => exact ⟨.attempt, _, _, .attempt, uncancelled, attempted⟩
      | false =>
          cases runs : environment.run (operation arguments)
              (before.note call (.attempted arguments)) with
          | ok value answered =>
              rw [after_eq_of_ok runs] at attempted
              rw [after_attemptWithin_of_answered runs] at cancelled
              exact ⟨.report, _, _, .success runs, attempted, cancelled⟩
          | error failure failed =>
              rw [after_eq_of_error runs] at attempted
              cases ordinary : failure.isA .ordinary with
              | false =>
                  rw [after_attemptWithin_of_special runs ordinary, attempted] at cancelled
                  cases cancelled
              | true =>
                  cases reports : environment.onFailure call kind (some failure) failed with
                  | error raised stopped =>
                      rw [after_attemptWithin_of_raised runs ordinary reports] at cancelled
                      apply exists_visits_of_report runs ordinary attempted
                      rwa [after_eq_of_error reports]
                  | ok value next =>
                      cases resumed : (next.progressOf call.number).cancelled with
                      | true =>
                          apply exists_visits_of_report runs ordinary attempted
                          rwa [after_eq_of_ok reports]
                      | false =>
                          rw [after_attemptWithin_of_retried runs ordinary reports] at cancelled
                          rcases induction resumed cancelled with
                            ⟨part, entered, left, visits, enters, leaves⟩
                          exact ⟨part, entered, left, .later runs ordinary reports visits, enters,
                            leaves⟩

end Quiet

/-- A cancellation is never lost. Whatever happens after it, to this call and to others, the
call stays cancelled; every report of a failure raises one and begins no wait, and the failure
comes to the surface if its interval is computed and written. In a run, no wait begins after a
cancellation, and an attempt only if the call was cancelled before the run, in a sleep function
or after the time of a wait. -/
theorem quiet_after_cancel (environment : Environment σ) (call : Call) :
    (∀ {origin world : World σ} {incidents},
      ((Action.cancel call.number).after origin).Becomes incidents world →
      (world.progressOf call.number).cancelled = true ∧
      ∀ kind failure,
        (∃ raised after steps,
          environment.onFailure call kind (some failure) world = .error raised after ∧
          after.stepsOf call.number = world.stepsOf call.number ++ steps ∧ Quiet 0 steps) ∧
        ∀ {judged computed interval shown},
          environment.isRetryable call.policy.config (some failure) world = .ok true judged →
          call.policy.config.limit.isReached (world.attemptsOf call + 1) = false →
          environment.delay call.policy.config.interval (world.attemptsOf call + 1 : Nat)
            ((judged.counting call (some failure)).note call
              (.intervalAsked (world.attemptsOf call + 1))) = .ok interval computed →
          interval.fixedText = .ok shown →
          ∃ raised after,
            environment.onFailure call kind (some failure) world =
              kind.enclose (throw raised) after ∧
            Surfaces call kind failure interval world computed raised after) ∧
    ∀ kind (operation : Arguments → Behaviour σ α) arguments budget before,
      let final := (environment.attemptWithin call kind operation arguments budget).after before
      ((before.progressOf call.number).cancelled = true →
        ∃ steps, final.stepsOf call.number = before.stepsOf call.number ++ steps ∧
          Quiet 1 steps) ∧
      (∀ {part entered left},
        Visits environment call kind operation arguments budget before part entered left →
        (left.progressOf call.number).cancelled = true →
        ∃ steps, final.stepsOf call.number = entered.stepsOf call.number ++ steps ∧
          Quiet (part.attemptsLeft kind) steps) ∧
      ((before.progressOf call.number).cancelled = false →
        (final.progressOf call.number).cancelled = true →
        ∃ part entered left,
          Visits environment call kind operation arguments budget before part entered left ∧
          (entered.progressOf call.number).cancelled = false ∧
          (left.progressOf call.number).cancelled = true) := by
  constructor
  · intro origin world incidents past
    have asked : (((Action.cancel call.number).after origin).progressOf call.number).cancelled =
        true := by
      rw [progressOf_cancel]
      rfl
    have cancelled := past.cancelled asked
    refine ⟨cancelled, ?_⟩
    intro kind failure
    constructor
    · exact quiet_onFailure
        (environment.staysCancelled_recordFailure call (some failure) world cancelled) kind
    · intro judged computed interval shown retryable allowed computes written
      exact surfaces_of_cancelled retryable allowed computes kind cancelled written
  · intro kind operation arguments budget before final
    exact ⟨quiet_of_cancelled, quiet_of_visits, exists_visits⟩

theorem quiet_after_cancel_impatient :
    let world : World Unit := { memory := () }
    let cancelled := (Action.cancel 0).after world
    let operation : Arguments → Behaviour Unit Unit := fun _ => .raise Impatient.unreachable
    (∃ raised after, Impatient.environment.onFailure Impatient.call .blocking
        (some Impatient.unreachable) cancelled = .error raised after ∧
      Surfaces Impatient.call .blocking Impatient.unreachable Backoff.defaultDelay cancelled
        ((cancelled.counting Impatient.call (some Impatient.unreachable)).note Impatient.call
          (.intervalAsked 1)) raised after) ∧
      ∃ steps, ((Impatient.environment.attemptWithin Impatient.call .blocking operation {} 3).after
          cancelled).stepsOf 0 = cancelled.stepsOf 0 ++ steps ∧ Quiet 1 steps := by
  intro world cancelled operation
  have quiet := quiet_after_cancel (α := Unit) Impatient.environment Impatient.call
  have unchanged : cancelled.Becomes [] cancelled := .origin
  have asked : Impatient.environment.isRetryable Config.default (some Impatient.unreachable)
      cancelled = .ok true cancelled := rfl
  constructor
  · exact ((quiet.1 unchanged).2 .blocking Impatient.unreachable).2 asked rfl rfl rfl
  · exact (quiet.2 .blocking operation {} 3 cancelled).1 rfl

end Environment

/-! ## A failure that does not come to the surface -/

namespace Environment

open World Reattempt.Action CallStep

namespace Strict

def environment : Environment Unit where
  interval _ _ := .answer Backoff.defaultDelay
  predicate _ _ := .answer true
  listener _ _ _ := .raise (.ofMessage (.given 1) .keyboardInterrupt "stop")
  wait _ _ := .answer ()
  draw _ _ := .answer 0.0
  depth := 0

def world : World Unit :=
  ({ memory := () } : World Unit).register 0 [.retry] "auditor"

def patient : Call where
  number := 0
  policy :=
    { number := 0
      name := "backend"
      shared :=
        { number := 0
          config := { Config.default with interval := .constant (.whole (Nat.pow 10 400)) } }
      publisher := 0
      sleeps := false }

private theorem fixedText_interval :
    (Scalar.whole (Nat.pow 10 400)).fixedText = .error .wholeTooLarge := by
  have unconverted : Binary64.ofInt? (Nat.pow 10 400) = none := by decide +kernel
  rw [Scalar.fixedText, Scalar.toReal, unconverted]
  rfl

end Strict

/-- The failure of a cancelled call is worth another attempt and its interval is computed, but
if the interval cannot be written, nothing is announced to the listener: another failure is
raised before. If it can, the failure is announced, but the one of the listener is raised. -/
theorem unannounced_after_cancel :
    let cancelled := (Action.cancel 0).after Strict.world
    let asking := (cancelled.counting Strict.patient (some Impatient.unreachable)).note
      Strict.patient (.intervalAsked 1)
    let report (call : Call) := Strict.environment.onFailure call .blocking
      (some Impatient.unreachable) cancelled
    Strict.environment.isRetryable Strict.patient.policy.config (some Impatient.unreachable)
        cancelled = .ok true cancelled ∧
      Strict.patient.policy.config.limit.isReached 1 = false ∧
      Strict.environment.delay Strict.patient.policy.config.interval 1 asking =
        .ok (.whole (Nat.pow 10 400)) asking ∧
      cancelled.hears Strict.patient (Strict.patient.event (.retry (.whole (Nat.pow 10 400))) 1
        (some Impatient.unreachable)) = true ∧
      (∃ raised after, report Strict.patient = .error raised after ∧
        raised.isA .overflow = true ∧
        after.stepsOf 0 = [.classified (some Impatient.unreachable) true, .intervalAsked 1]) ∧
      ∃ raised after, report Impatient.call = .error raised after ∧
        raised.isA .keyboardInterrupt = true ∧
        after.stepsOf 0 = [.classified (some Impatient.unreachable) true, .intervalAsked 1,
          .announced (Impatient.call.event (.retry Backoff.defaultDelay) 1
            (some Impatient.unreachable))] := by
  intro cancelled asking report
  have listens : cancelled.hears Strict.patient (Strict.patient.event
      (.retry (.whole (Nat.pow 10 400))) 1 (some Impatient.unreachable)) = true := by
    decide
  have asked : Strict.environment.isRetryable Strict.patient.policy.config
      (some Impatient.unreachable) cancelled = .ok true cancelled := rfl
  refine ⟨rfl, rfl, rfl, listens, ?_, ?_⟩
  · rcases unannounced_of_unwritten asked rfl rfl .blocking Strict.fixedText_interval with
      ⟨identity, after, reports, steps⟩
    exact ⟨_, after, reports, rfl, steps⟩
  · exact ⟨_, _, rfl, rfl, rfl⟩

end Environment

end Reattempt
