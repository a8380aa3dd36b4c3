import Reattempt.Proofs.Border

/-! Waiting before another attempt, exit by exit. A wait is skipped when the call was
cancelled before; otherwise the caller's code runs until the wait is over, is
interrupted or is left behind. -/

namespace Reattempt

variable {σ α : Type}

/-- Whether a failure that is raised during a wait interrupts it. Any other failure goes
through the wait. -/
def WaitKind.interruptedBy : WaitKind → Failure → Bool
  | .blocking, _ => false
  | .sleeping, failure => failure.interruptsSleep
  | .suspended, failure => failure.taskEffect = .cancelsCall

def Failure.warning (interruption : Failure) (lastFailure : Option Failure) : Wording := do
  let text ← interruption.text
  let shown ← Failure.shown? lastFailure
  return s!"{text}; re-raising last failure {shown}"

def CauseLinks.attach (links : CauseLinks) (failure? : Option Failure) (cause : Failure) :
    CauseLinks :=
  match failure? with
  | none => links
  | some failure => links.set failure.identity cause

namespace World

variable (world : World σ) (call : Call) (kind : WaitKind) (interval : Scalar)

def beginning (kind : WaitKind) (interval : Scalar) : World σ :=
  if kind = .suspended then
    (world.note call (.waitBegun kind interval)).changeProgress call.number (.setStranded false)
  else world.note call (.waitBegun kind interval)

def leaving (kind : WaitKind) : World σ :=
  if kind = .suspended then world.changeProgress call.number (.setStranded true) else world

def interruption : Failure :=
  .interruption (.made world.failures) call.policy.name (world.attemptsOf call)

/-- An interrupted wait ends without a record of it, because the record cannot be written. -/
def muting (failures : Nat) : World σ :=
  (world.changeProgress call.number .interrupt).relinking failures world.links

/-- An interrupted wait ends: only the mark of the interruption and the causes of
failures change. -/
def interrupting (entry : LogEntry) (failures : Nat) (links : CauseLinks) : World σ :=
  ((world.changeProgress call.number .interrupt).observe (.logged entry)).relinking failures links

@[simp] theorem stepsOf_beginning :
    (world.beginning call kind interval).stepsOf call.number =
      world.stepsOf call.number ++ [.waitBegun kind interval] := by
  rw [beginning]
  split <;> simp

@[simp] theorem attempts_beginning :
    ((world.beginning call kind interval).progressOf call.number).attempts =
      (world.progressOf call.number).attempts := by
  rw [beginning]
  split <;> simp [Progress.setStranded]

theorem progressOf_beginning {world : World σ} {call : Call}
    (unstranded : (world.progressOf call.number).stranded = false) :
    (world.beginning call kind interval).progressOf call.number =
      world.progressOf call.number := by
  rw [beginning]
  split
  · rw [progressOf_changeProgress_self, progressOf_note, Progress.setStranded, ← unstranded]
  · exact progressOf_note world call _ call.number

@[simp] theorem stepsOf_leaving (other : Nat) :
    (world.leaving call kind).stepsOf other = world.stepsOf other := by
  rw [leaving]
  split <;> simp

@[simp] theorem stepsOf_interrupting (entry : LogEntry) (failures : Nat) (links : CauseLinks)
    (other : Nat) :
    (world.interrupting call entry failures links).stepsOf other = world.stepsOf other := by
  simp [interrupting]

@[simp] theorem stepsOf_muting (failures other : Nat) :
    (world.muting call failures).stepsOf other = world.stepsOf other :=
  rfl

@[simp] theorem progressOf_muting (failures : Nat) :
    (world.muting call failures).progressOf call.number =
      (world.progressOf call.number).interrupt :=
  progressOf_changeProgress_self call.number .interrupt world

@[simp] theorem progressOf_interrupting (entry : LogEntry) (failures : Nat) (links : CauseLinks) :
    (world.interrupting call entry failures links).progressOf call.number =
      (world.progressOf call.number).interrupt :=
  progressOf_changeProgress_self call.number .interrupt world

end World

namespace Environment

open World

variable (environment : Environment σ) (call : Call)

theorem newInterruption_apply (world : World σ) :
    newInterruption call world =
      .ok (world.interruption call) (world.relinking (world.failures + 1) world.links) :=
  rfl

theorem isA_interruption (world : World σ) :
    (world.interruption call).isA .waitInterrupted = true :=
  FailureType.covers_refl .waitInterrupted

theorem interruption_interrupt (world : World σ) :
    (world.changeProgress call.number .interrupt).interruption call = world.interruption call := by
  simp only [World.interruption, attemptsOf, progressOf_changeProgress_self, Progress.interrupt]
  rfl

/-! ## Interrupted waits -/

/-- An interrupted wait raises the last failure of the call with the interruption as its
cause, or the interruption itself if there was no failure. -/
theorem raiseInterrupted_of_native {cause : Failure} (native : cause.isA .waitInterrupted = true)
    (world : World σ) :
    raiseInterrupted (α := α) call cause world =
      match cause.warning (world.progressOf call.number).lastFailure with
      | .error refusal =>
          .error (refusal.toFailure (.made world.failures)) (world.muting call (world.failures + 1))
      | .ok message =>
          .error ((world.progressOf call.number).lastFailure.getD cause)
            (world.interrupting call { level := .warning, source := .call, message, fields := [] }
              world.failures
              (world.links.attach (world.progressOf call.number).lastFailure cause)) := by
  simp only [raiseInterrupted, Action.bind_apply, Action.changeProgress_apply,
    Action.progressOf_apply, interruptionBy, native, if_true, Action.pure_apply,
    progressOf_changeProgress_self, Progress.interrupt, Failure.warning]
  cases cause.text with
  | error refusal => rfl
  | ok text =>
  cases Failure.shown? (world.progressOf call.number).lastFailure with
  | error refusal => rfl
  | ok shown =>
      cases (world.progressOf call.number).lastFailure <;> rfl

theorem raiseInterrupted_of_foreign {cause : Failure} (foreign : cause.isA .waitInterrupted = false)
    (world : World σ) :
    raiseInterrupted (α := α) call cause world =
      match (world.interruption call).warning (world.progressOf call.number).lastFailure with
      | .error refusal =>
          .error (refusal.toFailure (.made (world.failures + 1)))
            (world.muting call (world.failures + 2))
      | .ok message =>
          .error ((world.progressOf call.number).lastFailure.getD (world.interruption call))
            (world.interrupting call { level := .warning, source := .call, message, fields := [] }
              (world.failures + 1)
              (CauseLinks.attach (world.links.set (world.interruption call).identity cause)
                (world.progressOf call.number).lastFailure (world.interruption call))) := by
  have text : (world.interruption call).text =
      .ok (FailureContent.waitMessage call.policy.name (world.attemptsOf call)) := rfl
  simp only [raiseInterrupted, Action.bind_apply, Action.changeProgress_apply,
    Action.progressOf_apply, interruptionBy, foreign, Bool.false_eq_true, if_false,
    newInterruption_apply, progressOf_changeProgress_self, Progress.interrupt, Failure.warning,
    interruption_interrupt, text, Action.write_ok]
  cases Failure.shown? (world.progressOf call.number).lastFailure with
  | error refusal => rfl
  | ok shown =>
      cases (world.progressOf call.number).lastFailure <;> rfl

def endCancelled : Action σ α := do
  raiseInterrupted call (← newInterruption call)

theorem endCancelled_apply (world : World σ) :
    endCancelled (α := α) call world =
      match (world.interruption call).warning (world.progressOf call.number).lastFailure with
      | .error refusal =>
          .error (refusal.toFailure (.made (world.failures + 1)))
            (world.muting call (world.failures + 2))
      | .ok message =>
          .error ((world.progressOf call.number).lastFailure.getD (world.interruption call))
            (world.interrupting call { level := .warning, source := .call, message, fields := [] }
              (world.failures + 1)
              (world.links.attach (world.progressOf call.number).lastFailure
                (world.interruption call))) :=
  raiseInterrupted_of_native call (isA_interruption call world)
    (world.relinking (world.failures + 1) world.links)

inductive Interrupting (call : Call) (world : World σ) : EStateM.Result Failure (World σ) α → Prop
  | raised {interruption : Failure} {entry : LogEntry} {failures : Nat} {links : CauseLinks} :
      Interrupting call world
        (.error ((world.progressOf call.number).lastFailure.getD interruption)
          (world.interrupting call entry failures links))
  | unwritten (refusal : Refusal) (number : Nat) :
      Interrupting call world
        (.error (refusal.toFailure (.made number)) (world.muting call (number + 1)))

theorem interrupting_raiseInterrupted (cause : Failure) (world : World σ) :
    Interrupting call world (raiseInterrupted (α := α) call cause world) := by
  cases native : cause.isA .waitInterrupted with
  | true =>
      rw [raiseInterrupted_of_native call native]
      split
      · exact .unwritten _ _
      · exact .raised
  | false =>
      rw [raiseInterrupted_of_foreign call native]
      split
      · exact .unwritten _ _
      · exact .raised

theorem interrupting_endCancelled (world : World σ) :
    Interrupting call world (endCancelled (α := α) call world) := by
  rw [endCancelled_apply]
  split
  · exact .unwritten _ _
  · exact .raised

theorem raiseInterrupted_error {β : Type} (cause : Failure) (world : World σ) :
    ∃ raised after, raiseInterrupted (α := α) call cause world = .error raised after ∧
      raiseInterrupted (α := β) call cause world = .error raised after := by
  cases native : cause.isA .waitInterrupted with
  | true =>
      simp only [raiseInterrupted_of_native call native]
      split <;> exact ⟨_, _, rfl, rfl⟩
  | false =>
      simp only [raiseInterrupted_of_foreign call native]
      split <;> exact ⟨_, _, rfl, rfl⟩

theorem endCancelled_bind (next : Unit → Action σ Unit) (world : World σ) :
    ((do raiseInterrupted call (← newInterruption call)) >>= next) world =
      endCancelled call world := by
  rcases raiseInterrupted_error (α := Unit) (β := Unit) call (world.interruption call)
    (world.relinking (world.failures + 1) world.links) with ⟨raised, after, ends, -⟩
  simp only [endCancelled, Action.bind_apply, newInterruption_apply, ends]

/-! ## The time of a wait -/

def passTime (kind : WaitKind) (interval : Scalar) : Action σ Bool :=
  match kind with
  | .blocking => environment.awaitSignal call interval
  | .sleeping => do
      environment.run (environment.wait .sleeping interval)
      return false
  | .suspended => return .wakeup ∈ (← environment.firstDone call interval)

def runDuring (kind : WaitKind) (code : Behaviour σ Unit) : Action σ Unit :=
  match kind with
  | .suspended => environment.runTasks code
  | .blocking | .sleeping => environment.run code

theorem runDuring_of_ok {kind : WaitKind} {code : Behaviour σ Unit} {before after : World σ}
    (runs : environment.run code before = .ok () after) :
    environment.runDuring kind code before = .ok () after := by
  cases kind with
  | suspended => simp only [runDuring, runTasks, Action.tryCatch_apply, runs]
  | blocking | sleeping => exact runs

theorem runDuring_of_error {kind : WaitKind} {code : Behaviour σ Unit} {before after : World σ}
    {failure : Failure} (runs : environment.run code before = .error failure after) :
    environment.runDuring kind code before =
      if kind = .suspended ∧ failure.taskEffect = .endsTask then .ok () after
      else .error failure after := by
  cases kind with
  | suspended =>
      simp only [runDuring, runTasks, Action.tryCatch_apply, runs]
      by_cases ends : failure.taskEffect = .endsTask
      · simp only [ends, if_true, and_self, Action.pure_apply]
      · simp only [ends, if_false, and_false, Action.throw_apply]
  | blocking | sleeping => simpa [runDuring] using runs

/-- The code of a wait runs first. Only then it is decided whether the call was cancelled
in time. -/
theorem passTime_apply (kind : WaitKind) (interval : Scalar) (begun : World σ) :
    environment.passTime call kind interval begun =
      match environment.runDuring kind (environment.wait kind interval) begun with
      | .ok _ waited =>
          if kind = .sleeping then .ok false waited
          else
            match environment.runDuring kind (environment.lag kind) waited with
            | .ok _ slept => .ok (waited.progressOf call.number).cancelled slept
            | .error failure slept => .error failure slept
      | .error failure waited => .error failure waited := by
  cases kind with
  | sleeping =>
      simp only [passTime, runDuring, Action.bind_apply, if_true]
      cases environment.run (environment.wait .sleeping interval) begun <;> rfl
  | blocking =>
      simp only [passTime, awaitSignal, runDuring, Action.bind_apply, Action.progressOf_apply,
        reduceCtorEq, if_false]
      cases environment.run (environment.wait .blocking interval) begun with
      | error failure waited => rfl
      | ok _ waited =>
          dsimp only
          cases environment.run (environment.lag .blocking) waited <;> rfl
  | suspended =>
      simp only [passTime, firstDone, runDuring, Action.bind_apply, Action.progressOf_apply,
        reduceCtorEq, if_false]
      cases environment.runTasks (environment.wait .suspended interval) begun with
      | error failure waited => rfl
      | ok _ waited =>
          dsimp only
          cases environment.runTasks (environment.lag .suspended) waited with
          | error failure slept => rfl
          | ok _ slept => cases (waited.progressOf call.number).cancelled <;> rfl

theorem after_runDuring (kind : WaitKind) (code : Behaviour σ Unit) (world : World σ) :
    (environment.runDuring kind code).after world = (environment.run code).after world := by
  simp only [Action.after]
  cases runs : environment.run code world with
  | ok value after => rw [environment.runDuring_of_ok runs]
  | error failure after =>
      rw [environment.runDuring_of_error runs]
      split <;> rfl

inductive Passing (environment : Environment σ) (call : Call) (kind : WaitKind)
    (interval : Scalar) (begun : World σ) : EStateM.Result Failure (World σ) Bool → Prop
  | broken {failure : Failure} {waited : World σ}
      (waits : environment.runDuring kind (environment.wait kind interval) begun =
        .error failure waited) :
      Passing environment call kind interval begun (.error failure waited)
  /-- A sleep function of the caller does not notice a cancellation. -/
  | slept {waited : World σ} (sleeping : kind = .sleeping)
      (waits : environment.runDuring kind (environment.wait kind interval) begun =
        .ok () waited) :
      Passing environment call kind interval begun (.ok false waited)
  | brokenLate {failure : Failure} {waited late : World σ} (notices : kind ≠ .sleeping)
      (waits : environment.runDuring kind (environment.wait kind interval) begun =
        .ok () waited)
      (lags : environment.runDuring kind (environment.lag kind) waited = .error failure late) :
      Passing environment call kind interval begun (.error failure late)
  /-- A cancellation after the end of the time is not noticed. -/
  | decided {waited late : World σ} (notices : kind ≠ .sleeping)
      (waits : environment.runDuring kind (environment.wait kind interval) begun =
        .ok () waited)
      (lags : environment.runDuring kind (environment.lag kind) waited = .ok () late) :
      Passing environment call kind interval begun
        (.ok (waited.progressOf call.number).cancelled late)

theorem passing_passTime (kind : WaitKind) (interval : Scalar) (begun : World σ) :
    Passing environment call kind interval begun
      (environment.passTime call kind interval begun) := by
  rw [passTime_apply]
  cases waits : environment.runDuring kind (environment.wait kind interval) begun with
  | error failure waited => exact .broken waits
  | ok _ waited =>
      by_cases sleeping : kind = .sleeping
      · dsimp only
        rw [if_pos sleeping]
        exact .slept sleeping waits
      · dsimp only
        rw [if_neg sleeping]
        cases lags : environment.runDuring kind (environment.lag kind) waited with
        | error failure late => exact .brokenLate sleeping waits lags
        | ok _ late => exact .decided sleeping waits lags

def waitBefore (kind : WaitKind) (interval : Scalar) : Action σ Unit :=
  match kind with
  | .blocking => environment.waitBlocking call interval
  | .sleeping => environment.waitSleeping call interval
  | .suspended => environment.waitSuspended call interval

theorem waitBefore_of_cancelled (kind : WaitKind) (interval : Scalar) {before : World σ}
    (cancelled : (before.progressOf call.number).cancelled = true) :
    environment.waitBefore call kind interval before =
      endCancelled call (before.note call (.waitSkipped kind interval)) := by
  cases kind with
  | blocking =>
      rw [← endCancelled_bind call]
      simp only [waitBefore, waitBlocking, Action.bind_apply, Action.progressOf_apply, cancelled,
        if_true, step_apply]
      rfl
  | suspended =>
      rw [← endCancelled_bind call]
      simp only [waitBefore, waitSuspended, Action.bind_apply, Action.progressOf_apply, cancelled,
        if_true, step_apply]
      rfl
  | sleeping =>
      have interrupts (world : World σ) : (world.interruption call).interruptsSleep = true := by
        rw [Failure.interruptsSleep, isA_interruption, Bool.true_or]
      rw [← endCancelled_bind call fun _ => Action.step call.number (.waitOver .sleeping interval)]
      simp only [waitBefore, waitSleeping, Action.bind_apply, Action.tryCatch_apply,
        Action.progressOf_apply, cancelled, if_true, step_apply, newInterruption_apply,
        Action.throw_apply, interrupts]

section Uncancelled

/-- What follows the time of a wait, by how it passed. -/
def afterTime (call : Call) (kind : WaitKind) (interval : Scalar) :
    EStateM.Result Failure (World σ) Bool → EStateM.Result Failure (World σ) Unit
  | .ok true slept => endCancelled call slept
  | .ok false slept => .ok () (slept.note call (.waitOver kind interval))
  | .error failure slept =>
      if kind.interruptedBy failure then raiseInterrupted call failure slept
      else .error failure (slept.leaving call kind)

variable (interval : Scalar) {before : World σ}
  (uncancelled : (before.progressOf call.number).cancelled = false)

include uncancelled

private theorem waitBlocking_of_uncancelled :
    environment.waitBlocking call interval before =
      afterTime call .blocking interval
        (environment.passTime call .blocking interval
          (before.beginning call .blocking interval)) := by
  have begins : before.beginning call .blocking interval =
    before.note call (.waitBegun .blocking interval) := rfl
  simp only [waitBlocking, Action.bind_apply, Action.progressOf_apply, uncancelled,
    Bool.false_eq_true, if_false, step_apply, passTime, begins]
  cases environment.awaitSignal call interval
      (before.note call (.waitBegun .blocking interval)) with
  | error failure slept => rfl
  | ok noticed slept =>
      cases noticed with
      | false => rfl
      | true => exact endCancelled_bind call _ slept

private theorem waitSleeping_of_uncancelled :
    environment.waitSleeping call interval before =
      afterTime call .sleeping interval
        (environment.passTime call .sleeping interval
          (before.beginning call .sleeping interval)) := by
  have begins : before.beginning call .sleeping interval =
    before.note call (.waitBegun .sleeping interval) := rfl
  simp only [waitSleeping, Action.bind_apply, Action.tryCatch_apply, Action.progressOf_apply,
    uncancelled, Bool.false_eq_true, if_false, step_apply, passTime, begins]
  cases environment.run (environment.wait .sleeping interval)
      (before.note call (.waitBegun .sleeping interval)) with
  | ok value slept => rfl
  | error failure slept =>
      cases interrupts : failure.interruptsSleep with
      | true =>
          rcases raiseInterrupted_error (α := Unit) (β := Unit) call failure slept with
            ⟨raised, after, ends, -⟩
          simp only [afterTime, interrupts, WaitKind.interruptedBy, if_true, ends]
      | false =>
          simp only [afterTime, interrupts, WaitKind.interruptedBy, Bool.false_eq_true, if_false,
            Action.throw_apply]
          rfl

private theorem waitSuspended_of_uncancelled :
    environment.waitSuspended call interval before =
      afterTime call .suspended interval
        (environment.passTime call .suspended interval
          (before.beginning call .suspended interval)) := by
  have begins : before.beginning call .suspended interval =
    (before.note call (.waitBegun .suspended interval)).changeProgress call.number
      (.setStranded false) := rfl
  simp only [waitSuspended, Action.bind_apply, Action.tryCatch_apply, Action.progressOf_apply,
    uncancelled, Bool.false_eq_true, if_false, step_apply, passTime, Action.changeProgress_apply,
    begins]
  cases environment.firstDone call interval _ with
  | ok done slept =>
      by_cases noticed : WaitTask.wakeup ∈ done
      · simp only [Action.pure_apply, noticed, decide_true, if_true]
        exact endCancelled_bind call _ slept
      · simp only [Action.pure_apply, noticed, decide_false, if_false, step_apply, afterTime]
  | error failure slept =>
      cases effect : failure.taskEffect with
      | cancelsCall =>
          rcases raiseInterrupted_error (α := List WaitTask) (β := Unit) call failure slept with
            ⟨raised, after, ends, same⟩
          simp only [afterTime, effect, WaitKind.interruptedBy, decide_true, if_true, ends, same]
      | stopsLoop | endsTask =>
          simp only [afterTime, effect, WaitKind.interruptedBy, reduceCtorEq, decide_false,
            Bool.false_eq_true, if_false, Action.bind_apply, Action.changeProgress_apply,
            Action.throw_apply]
          rfl

end Uncancelled

theorem waitBefore_of_uncancelled (kind : WaitKind) (interval : Scalar) {before : World σ}
    (uncancelled : (before.progressOf call.number).cancelled = false) :
    environment.waitBefore call kind interval before =
      match environment.passTime call kind interval (before.beginning call kind interval) with
      | .ok true slept => endCancelled call slept
      | .ok false slept => .ok () (slept.note call (.waitOver kind interval))
      | .error failure slept =>
          if kind.interruptedBy failure then raiseInterrupted call failure slept
          else .error failure (slept.leaving call kind) := by
  cases kind with
  | blocking => exact environment.waitBlocking_of_uncancelled call interval uncancelled
  | sleeping => exact environment.waitSleeping_of_uncancelled call interval uncancelled
  | suspended => exact environment.waitSuspended_of_uncancelled call interval uncancelled

/-! ## The exits of a wait -/

inductive Waiting (environment : Environment σ) (call : Call) (kind : WaitKind)
    (interval : Scalar) (before : World σ) : EStateM.Result Failure (World σ) Unit → Prop
  | skipped {result : EStateM.Result Failure (World σ) Unit}
      (cancelled : (before.progressOf call.number).cancelled = true)
      (ends : Interrupting call (before.note call (.waitSkipped kind interval)) result) :
      Waiting environment call kind interval before result
  | interrupted {cause : Failure} {slept : World σ}
      {result : EStateM.Result Failure (World σ) Unit}
      (uncancelled : (before.progressOf call.number).cancelled = false)
      (passes : environment.passTime call kind interval (before.beginning call kind interval) =
        .error cause slept)
      (interrupts : kind.interruptedBy cause = true)
      (ends : Interrupting call slept result) :
      Waiting environment call kind interval before result
  | escaped {failure : Failure} {slept : World σ}
      (uncancelled : (before.progressOf call.number).cancelled = false)
      (passes : environment.passTime call kind interval (before.beginning call kind interval) =
        .error failure slept)
      (escapes : kind.interruptedBy failure = false) :
      Waiting environment call kind interval before (.error failure (slept.leaving call kind))
  /-- A cancellation during the wait is noticed at its end. -/
  | noticed {slept : World σ} {result : EStateM.Result Failure (World σ) Unit}
      (uncancelled : (before.progressOf call.number).cancelled = false)
      (passes : environment.passTime call kind interval (before.beginning call kind interval) =
        .ok true slept)
      (ends : Interrupting call slept result) :
      Waiting environment call kind interval before result
  | elapsed {slept : World σ}
      (uncancelled : (before.progressOf call.number).cancelled = false)
      (passes : environment.passTime call kind interval (before.beginning call kind interval) =
        .ok false slept) :
      Waiting environment call kind interval before
        (.ok () (slept.note call (.waitOver kind interval)))

theorem waiting_waitBefore (kind : WaitKind) (interval : Scalar) (before : World σ) :
    Waiting environment call kind interval before
      (environment.waitBefore call kind interval before) := by
  cases cancelled : (before.progressOf call.number).cancelled with
  | true =>
      rw [environment.waitBefore_of_cancelled call kind interval cancelled]
      exact .skipped cancelled (interrupting_endCancelled call _)
  | false =>
      rw [environment.waitBefore_of_uncancelled call kind interval cancelled]
      cases passes : environment.passTime call kind interval
          (before.beginning call kind interval) with
      | ok noticed slept =>
          cases noticed with
          | true => exact .noticed cancelled passes (interrupting_endCancelled call slept)
          | false => exact .elapsed cancelled passes
      | error failure slept =>
          cases interrupts : kind.interruptedBy failure with
          | true =>
              simp only [interrupts, if_true]
              exact .interrupted cancelled passes interrupts
                (interrupting_raiseInterrupted call failure slept)
          | false =>
              simp only [interrupts, Bool.false_eq_true, if_false]
              exact .escaped cancelled passes interrupts

/-! ## What a wait keeps -/

section passTime

variable {environment} {relation : World σ → World σ → Prop} [IsPreorder (World σ) relation]

theorem keeps_runDuring (kind : WaitKind) {code : Behaviour σ Unit}
    (kept : (environment.run code).Keeps relation) :
    (environment.runDuring kind code).Keeps relation := by
  cases kind with
  | blocking | sleeping => exact kept
  | suspended =>
      apply Action.Keeps.tryCatch kept
      intro failure
      split
      · exact Action.keeps_pure ()
      · exact Action.keeps_throw failure

theorem keeps_passTime {kind : WaitKind} {interval : Scalar}
    (sleeps : (environment.run (environment.wait kind interval)).Keeps relation)
    (lags : (environment.run (environment.lag kind)).Keeps relation) :
    (environment.passTime call kind interval).Keeps relation := by
  intro begun
  have waited := keeps_runDuring kind sleeps
  have lagged := keeps_runDuring kind lags
  have passing := environment.passing_passTime call kind interval begun
  rw [Action.after]
  generalize environment.passTime call kind interval begun = result at passing
  cases passing with
  | broken waits => exact waited.of_error waits
  | slept sleeping waits => exact waited.of_ok waits
  | brokenLate notices waits lags =>
      exact trans_of relation (waited.of_ok waits) (lagged.of_error lags)
  | decided notices waits lags =>
      exact trans_of relation (waited.of_ok waits) (lagged.of_ok lags)

end passTime

theorem outside_passTime (kind : WaitKind) (interval : Scalar) :
    (environment.passTime call kind interval).Keeps Outside :=
  keeps_passTime call (environment.keeps_run _) (environment.keeps_run _)

/-- The relation does not look at what the engine writes about a wait. -/
structure IgnoresWaits (call : Call) (relation : World σ → World σ → Prop) : Prop where
  note : ∀ world step, relation world (world.note call step)
  logged : ∀ world entry, relation world (world.observe (.logged entry))
  changeProgress : ∀ world change, relation world (world.changeProgress call.number change)
  relinking : ∀ world failures links, relation world (world.relinking failures links)

section IgnoresWaits

variable {environment call} {relation : World σ → World σ → Prop}
  [IsPreorder (World σ) relation] (ignores : IgnoresWaits call relation)

include ignores

theorem IgnoresWaits.beginning (kind : WaitKind) (interval : Scalar) (world : World σ) :
    relation world (world.beginning call kind interval) := by
  have begun := ignores.note world (.waitBegun kind interval)
  rw [World.beginning]
  split
  · exact trans_of relation begun (ignores.changeProgress _ _)
  · exact begun

theorem IgnoresWaits.leaving (kind : WaitKind) (world : World σ) :
    relation world (world.leaving call kind) := by
  rw [World.leaving]
  split
  · exact ignores.changeProgress _ _
  · exact refl_of relation world

theorem IgnoresWaits.interrupting {world : World σ}
    {result : EStateM.Result Failure (World σ) α} (ends : Interrupting call world result) :
    relation world (Action.lastWorld result) := by
  have marked := ignores.changeProgress world .interrupt
  cases ends with
  | raised =>
      exact trans_of relation (trans_of relation marked (ignores.logged _ _))
        (ignores.relinking _ _ _)
  | unwritten refusal number => exact trans_of relation marked (ignores.relinking _ _ _)

theorem IgnoresWaits.keeps_waitBefore {kind : WaitKind} {interval : Scalar}
    (kept : (environment.passTime call kind interval).Keeps relation) :
    (environment.waitBefore call kind interval).Keeps relation := by
  intro before
  have begun := ignores.beginning kind interval before
  have waiting := environment.waiting_waitBefore call kind interval before
  rw [Action.after]
  generalize environment.waitBefore call kind interval before = result at waiting ⊢
  cases waiting with
  | skipped cancelled ends =>
      exact trans_of relation (ignores.note _ _) (ignores.interrupting ends)
  | interrupted uncancelled passes interrupts ends =>
      exact trans_of relation (trans_of relation begun (kept.of_error passes))
        (ignores.interrupting ends)
  | escaped uncancelled passes escapes =>
      exact trans_of relation (trans_of relation begun (kept.of_error passes))
        (ignores.leaving _ _)
  | noticed uncancelled passes ends =>
      exact trans_of relation (trans_of relation begun (kept.of_ok passes))
        (ignores.interrupting ends)
  | elapsed uncancelled passes =>
      exact trans_of relation (trans_of relation begun (kept.of_ok passes)) (ignores.note _ _)

end IgnoresWaits

/-! ## Reports of failures -/

def recordAndWait (kind : WaitKind) (failure : Option Failure) : Action σ Unit := do
  let interval ← environment.recordFailure call failure
  environment.waitBefore call kind interval
  Action.changeProgress call.number .resume

/-- The reports in a thread and in a coroutine differ in their waits, and in what leaves
them. -/
theorem onFailure_eq (kind : WaitKind) (failure : Option Failure) :
    environment.onFailure call kind failure =
      kind.enclose (environment.recordAndWait call kind failure) := by
  cases kind <;> rfl

theorem onFailure_of_error {kind : WaitKind} {failure : Option Failure} {raised : Failure}
    {before stopped : World σ}
    (waits : environment.recordAndWait call kind failure before = .error raised stopped) :
    environment.onFailure call kind failure before = kind.enclose (throw raised) stopped := by
  rw [onFailure_eq]
  exact WaitKind.enclose_congr waits

theorem recordAndWait_apply (kind : WaitKind) (failure : Option Failure) (before : World σ) :
    environment.recordAndWait call kind failure before =
      match environment.recordFailure call failure before with
      | .error raised after => .error raised after
      | .ok interval planned =>
          match environment.waitBefore call kind interval planned with
          | .error raised after => .error raised after
          | .ok () waited => .ok () (waited.changeProgress call.number .resume) := by
  simp only [recordAndWait, Action.bind_apply]
  cases environment.recordFailure call failure before with
  | error raised after => rfl
  | ok interval planned =>
      dsimp only
      cases environment.waitBefore call kind interval planned with
      | error raised after => rfl
      | ok value waited => rfl

end Environment

end Reattempt
