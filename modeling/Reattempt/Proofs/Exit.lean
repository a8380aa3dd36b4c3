import Reattempt.Proofs.Conduct
import Reattempt.Proofs.Ledger
import Reattempt.Proofs.Untouched

/-! What the report of a failure comes to. Its exits are told apart by what the caller's
code said, and each of them fixes the result of the report, how far the call has come,
the acts of the call, what is counted and which causes are attached to failures. Only the
listeners and a cancellation are left open. -/

namespace Reattempt

variable {σ α : Type}

/-! ## Exits -/

inductive WaitEnding where
  /-- The call was cancelled before. -/
  | skipped
  | interrupted (cause : Failure)
  | escaped (raised : Failure)
  /-- The call was cancelled meanwhile. -/
  | noticed
  /-- The wait was interrupted before or after it had begun, but the log record of that cannot
  be written. -/
  | unworded (begun : Bool) (raised : Failure)
  | elapsed

/-- What becomes of the report of a failure, with what is raised if the call does not
come to its wait. -/
inductive Exit where
  | unclassified (raised : Failure)
  | rejected (raised : Failure)
  | exhausted (raised : Failure)
  /-- The interval is not computed, not written into the log or not announced. -/
  | unplanned (raised : Failure)
  | waited (interval : Scalar) (ending : WaitEnding)

/-- The causes that an interrupted wait attaches: the interruption to the failure that was
reported and, if the engine made the interruption because of another failure, this one to
the interruption. -/
structure Chain where
  failure : Failure
  interruption : Failure
  origin? : Option Failure := none

def CauseLinks.extend (links : CauseLinks) : Option Chain → CauseLinks
  | none => links
  | some { failure, interruption, origin? } =>
      (match origin? with
        | none => links
        | some origin => links.set interruption.identity origin).set failure.identity interruption

theorem CauseLinks.find?_extend {links : CauseLinks} {chain : Chain} {identity : Identity}
    (different : identity ≠ chain.failure.identity) :
    (links.extend (some chain)).find? identity =
      if chain.interruption.identity = identity then chain.origin?.or (links.find? identity)
      else links.find? identity := by
  rcases chain with ⟨failure, interruption, _ | origin⟩
  · simp [extend, OrderedMap.find?_set_of_ne _ different]
  · simp [extend, OrderedMap.find?_set_of_ne _ different, OrderedMap.find?_set, eq_comm]

namespace Progress

def heed (cancelled : Bool) (progress : Progress) : Progress :=
  if cancelled then progress.cancel else progress

def settle (kind : WaitKind) (stranded : Bool) (progress : Progress) : Progress :=
  if kind = .suspended then progress.setStranded stranded else progress

section heed

variable (cancelled : Bool) (progress : Progress)

@[simp] theorem heed_false : progress.heed false = progress :=
  rfl

@[simp] theorem heed_heed (again : Bool) :
    (progress.heed cancelled).heed again = progress.heed (cancelled || again) := by
  cases cancelled <;> cases again <;> rfl

@[simp] theorem attempts_heed : (progress.heed cancelled).attempts = progress.attempts := by
  cases cancelled <;> rfl

@[simp] theorem lastFailure_heed :
    (progress.heed cancelled).lastFailure = progress.lastFailure := by
  cases cancelled <;> rfl

@[simp] theorem phase_heed : (progress.heed cancelled).phase = progress.phase := by
  cases cancelled <;> rfl

@[simp] theorem interrupted_heed :
    (progress.heed cancelled).interrupted = progress.interrupted := by
  cases cancelled <;> rfl

@[simp] theorem cancelled_heed :
    (progress.heed cancelled).cancelled = (progress.cancelled || cancelled) := by
  cases cancelled
  · exact (Bool.or_false _).symm
  · exact (Bool.or_true _).symm

/-! A cancellation does not disturb what else happens to the call. -/

@[simp] theorem heed_count (limit : AttemptLimit) (failure : Option Failure) :
    (progress.heed cancelled).count limit failure =
      (progress.count limit failure).heed cancelled := by
  cases cancelled <;> rfl

@[simp] theorem heed_reject :
    (progress.heed cancelled).reject = progress.reject.heed cancelled := by
  cases cancelled <;> rfl

@[simp] theorem heed_resume :
    (progress.heed cancelled).resume = progress.resume.heed cancelled := by
  cases cancelled <;> rfl

@[simp] theorem heed_interrupt :
    (progress.heed cancelled).interrupt = progress.interrupt.heed cancelled := by
  cases cancelled <;> rfl

@[simp] theorem heed_settle (kind : WaitKind) (stranded : Bool) :
    (progress.heed cancelled).settle kind stranded =
      (progress.settle kind stranded).heed cancelled := by
  cases cancelled <;> cases kind <;> rfl

end heed

@[simp] theorem attempts_settle (kind : WaitKind) (stranded : Bool) (progress : Progress) :
    (progress.settle kind stranded).attempts = progress.attempts := by
  cases kind <;> rfl

@[simp] theorem lastFailure_settle (kind : WaitKind) (stranded : Bool) (progress : Progress) :
    (progress.settle kind stranded).lastFailure = progress.lastFailure := by
  cases kind <;> rfl

@[simp] theorem cancelled_count (progress : Progress) (limit : AttemptLimit)
    (failure : Option Failure) : (progress.count limit failure).cancelled = progress.cancelled :=
  rfl

@[simp] theorem cancelled_settle (kind : WaitKind) (stranded : Bool) (progress : Progress) :
    (progress.settle kind stranded).cancelled = progress.cancelled := by
  cases kind <;> rfl

end Progress

namespace CallStep

def isAct : CallStep → Bool
  | .announced _ => false
  | _ => true

end CallStep

namespace World

def actsOf (world : World σ) (call : Nat) : List CallStep :=
  (world.stepsOf call).filter CallStep.isAct

theorem Outside.heeds {before after : World σ} (outside : before.Outside after) (call : Nat) :
    ∃ cancelled, after.progressOf call = (before.progressOf call).heed cancelled := by
  rcases outside.progress call with equal | equal
  · exact ⟨false, equal⟩
  · exact ⟨true, equal⟩

variable (world : World σ) (call : Call) (kind : WaitKind)

@[simp] theorem progressOf_beginning_settle (interval : Scalar) :
    (world.beginning call kind interval).progressOf call.number =
      (world.progressOf call.number).settle kind false := by
  rw [beginning, Progress.settle]
  split <;> simp

@[simp] theorem progressOf_leaving :
    (world.leaving call kind).progressOf call.number =
      (world.progressOf call.number).settle kind true := by
  rw [leaving, Progress.settle]
  split <;> simp

@[simp] theorem links_beginning (interval : Scalar) :
    (world.beginning call kind interval).links = world.links := by
  rw [beginning]
  split <;> rfl

@[simp] theorem links_leaving : (world.leaving call kind).links = world.links := by
  rw [leaving]
  split <;> rfl

@[simp] theorem failures_beginning (interval : Scalar) :
    (world.beginning call kind interval).failures = world.failures := by
  rw [beginning]
  split <;> rfl

@[simp] theorem failures_leaving : (world.leaving call kind).failures = world.failures := by
  rw [leaving]
  split <;> rfl

section Slept

variable {call kind} {interval : Scalar} {before slept : World σ}
  (outside : (before.beginning call kind interval).Outside slept)

include outside

theorem Outside.attempts_slept : slept.attemptsOf call = before.attemptsOf call := by
  rw [Environment.attemptsOf_eq_of_outside outside]
  exact attempts_beginning before call kind interval

theorem Outside.links_slept : slept.links = before.links := by
  rw [outside.links, links_beginning]

theorem Outside.failures_slept : before.failures ≤ slept.failures := by
  rw [← before.failures_beginning call kind interval]
  exact outside.failures

end Slept

end World

/-! ## What an exit means -/

namespace WaitEnding

/-- The result of a report that comes to its wait. An interrupted wait raises the failure
that was reported. -/
def outcome (failure : Failure) : WaitEnding → Except Failure Unit
  | .elapsed => .ok ()
  | .escaped raised | .unworded _ raised => .error raised
  | .skipped | .interrupted _ | .noticed => .error failure

def advance (kind : WaitKind) (progress : Progress) : WaitEnding → Progress
  | .skipped | .unworded false _ => progress.interrupt
  | .interrupted _ | .noticed | .unworded true _ => (progress.settle kind false).interrupt
  | .escaped _ => (progress.settle kind false).settle kind true
  | .elapsed => (progress.settle kind false).resume

theorem advance_heed (kind : WaitKind) (progress : Progress) (cancelled : Bool)
    (ending : WaitEnding) : ending.advance kind (progress.heed cancelled) =
      (ending.advance kind progress).heed cancelled := by
  cases ending with
  | unworded begun raised => cases begun <;> simp [advance]
  | _ => simp [advance]

def acts (kind : WaitKind) (interval : Scalar) : WaitEnding → List CallStep
  | .skipped | .unworded false _ => [.waitSkipped kind interval]
  | .interrupted _ | .escaped _ | .noticed | .unworded true _ => [.waitBegun kind interval]
  | .elapsed => [.waitBegun kind interval, .waitOver kind interval]

def chain? (failure interruption : Failure) : WaitEnding → Option Chain
  | .skipped | .noticed => some { failure, interruption }
  | .interrupted cause =>
      if cause.isA .waitInterrupted then some { failure, interruption := cause }
      else some { failure, interruption, origin? := some cause }
  | .escaped _ | .unworded _ _ | .elapsed => none

def isInterruption : WaitEnding → Bool
  | .skipped | .interrupted _ | .noticed => true
  | .escaped _ | .unworded _ _ | .elapsed => false

def marks : WaitEnding → Bool
  | .skipped | .interrupted _ | .noticed | .unworded _ _ => true
  | .escaped _ | .elapsed => false

end WaitEnding

namespace Exit

variable (failure : Failure)

def outcome : Exit → Except Failure Unit
  | .unclassified raised | .rejected raised | .exhausted raised | .unplanned raised =>
      .error raised
  | .waited _ ending => ending.outcome failure

def advance (limit : AttemptLimit) (kind : WaitKind) (progress : Progress) : Exit → Progress
  | .unclassified _ => progress
  | .rejected _ => progress.reject
  | .exhausted _ | .unplanned _ => progress.count limit (some failure)
  | .waited _ ending => ending.advance kind (progress.count limit (some failure))

def acts (kind : WaitKind) (number : Nat) : Exit → List CallStep
  | .unclassified _ => []
  | .rejected _ => [.classified (some failure) false]
  | .exhausted _ => [.classified (some failure) true]
  | .unplanned _ => [.classified (some failure) true, .intervalAsked number]
  | .waited interval ending =>
      .classified (some failure) true :: .intervalAsked number :: ending.acts kind interval

def ledger : Exit → List Entry
  | .rejected _ => [.rejected]
  | .exhausted _ => [.exhausted]
  | .unclassified _ | .unplanned _ | .waited _ _ => []

def kind? : Exit → Option EventKind
  | .unclassified _ => none
  | .rejected _ => some .ignoredError
  | .exhausted _ => some .error
  | .unplanned _ | .waited _ _ => some .retry

def chain? (interruption : Failure) : Exit → Option Chain
  | .waited _ ending => ending.chain? failure interruption
  | _ => none

/-- The report ends well, and the operation may be attempted again. -/
def isAgain : Exit → Bool
  | .waited _ .elapsed => true
  | _ => false

theorem outcome_eq_ok_iff (exit : Exit) : exit.outcome failure = .ok () ↔ exit.isAgain = true := by
  cases exit with
  | waited interval ending => cases ending <;> simp [outcome, WaitEnding.outcome, isAgain]
  | _ => simp [outcome, isAgain]

theorem eq_of_isAgain {exit : Exit} (again : exit.isAgain = true) :
    ∃ interval, exit = .waited interval .elapsed := by
  cases exit with
  | waited interval ending => cases ending <;> first | exact ⟨interval, rfl⟩ | cases again
  | _ => cases again

end Exit

namespace Environment

open World Reattempt.Action

/-! ## Waits -/

/-- What decides whether the log can say that a wait was interrupted. An interruption that the
engine makes can be printed. -/
def warningAbout (cause? : Option Failure) (failure : Failure) : Wording :=
  match cause? with
  | some cause =>
      if cause.isA .waitInterrupted then cause.warning (some failure) else failure.shown
  | none => failure.shown

/-- The number of failures that were made when a wait has ended with this cause. A cause that
is an interruption itself needs no other one. -/
def failuresAfter (cause? : Option Failure) (world : World σ) : Nat :=
  if (cause?.any (·.isA .waitInterrupted)) then world.failures else world.failures + 1

/-- How an interrupted wait ends that the failure led to, given the world at its end. What
interrupted it from outside is known, whether it had begun, and what its ending is called
if the log record can be written. -/
inductive Interrupted (call : Call) (failure : Failure) (cause? : Option Failure) (begun : Bool)
    (called : WaitEnding) (world : World σ) :
    WaitEnding → EStateM.Result Failure (World σ) α → Prop
  | raised {entry : LogEntry} {text : String}
      (worded : warningAbout cause? failure = .ok text) :
      Interrupted call failure cause? begun called world called
        (.error failure (world.interrupting call entry (failuresAfter cause? world)
          (world.links.extend (called.chain? failure (world.interruption call)))))
  | unworded {refusal : Refusal} {number : Nat}
      (refused : warningAbout cause? failure = .error refusal) (new : world.failures ≤ number) :
      Interrupted call failure cause? begun called world
        (.unworded begun (refusal.toFailure (.made number)))
        (.error (refusal.toFailure (.made number)) (world.muting call (number + 1)))

inductive Waits (environment : Environment σ) (call : Call) (kind : WaitKind) (failure : Failure)
    (interval : Scalar) (before : World σ) :
    WaitEnding → EStateM.Result Failure (World σ) Unit → Prop
  | skipped {ending : WaitEnding} {result : EStateM.Result Failure (World σ) Unit}
      (cancelled : (before.progressOf call.number).cancelled = true)
      (ends : Interrupted call failure none false .skipped
        (before.note call (.waitSkipped kind interval)) ending result) :
      Waits environment call kind failure interval before ending result
  | interrupted {cause : Failure} {slept : World σ} {ending : WaitEnding}
      {result : EStateM.Result Failure (World σ) Unit}
      (uncancelled : (before.progressOf call.number).cancelled = false)
      (passes : environment.passTime call kind interval (before.beginning call kind interval) =
        .error cause slept)
      (interrupts : kind.interruptedBy cause = true)
      (ends : Interrupted call failure (some cause) true (.interrupted cause) slept ending result) :
      Waits environment call kind failure interval before ending result
  | escaped {raised : Failure} {slept : World σ}
      (uncancelled : (before.progressOf call.number).cancelled = false)
      (passes : environment.passTime call kind interval (before.beginning call kind interval) =
        .error raised slept)
      (escapes : kind.interruptedBy raised = false) :
      Waits environment call kind failure interval before (.escaped raised)
        (.error raised (slept.leaving call kind))
  | noticed {slept : World σ} {ending : WaitEnding}
      {result : EStateM.Result Failure (World σ) Unit}
      (uncancelled : (before.progressOf call.number).cancelled = false)
      (passes : environment.passTime call kind interval (before.beginning call kind interval) =
        .ok true slept)
      (ends : Interrupted call failure none true .noticed slept ending result) :
      Waits environment call kind failure interval before ending result
  | elapsed {slept : World σ}
      (uncancelled : (before.progressOf call.number).cancelled = false)
      (passes : environment.passTime call kind interval (before.beginning call kind interval) =
        .ok false slept) :
      Waits environment call kind failure interval before .elapsed
        (.ok () ((slept.note call (.waitOver kind interval)).changeProgress call.number .resume))

section Interrupted

variable {call : Call} {failure : Failure} {world : World σ}

theorem Interrupted.of_worded {cause? : Option Failure} {begun : Bool} {called : WaitEnding}
    {text : String} {entry : LogEntry} {failures : Nat} {links : CauseLinks}
    (worded : warningAbout cause? failure = .ok text)
    (made : failuresAfter cause? world = failures)
    (linked : world.links.extend (called.chain? failure (world.interruption call)) = links) :
    Interrupted (α := α) call failure cause? begun called world called
      (.error failure (world.interrupting call entry failures links)) := by
  rw [← made, ← linked]
  exact .raised worded

theorem warning_interruption (world : World σ) (call : Call) (failure : Failure) :
    (world.interruption call).warning (some failure) = do
      let text := FailureContent.waitMessage call.policy.name (world.attemptsOf call)
      let shown ← failure.shown
      return s!"{text}; re-raising last failure {shown}" := by
  have text : (world.interruption call).text =
      .ok (FailureContent.waitMessage call.policy.name (world.attemptsOf call)) := rfl
  rw [Failure.warning, text]
  rfl

theorem interrupted_raiseInterrupted (cause : Failure)
    (last : (world.progressOf call.number).lastFailure = some failure) :
    ∃ ending, Interrupted call failure (some cause) true (.interrupted cause) world ending
      (raiseInterrupted (α := α) call cause world) := by
  cases native : cause.isA .waitInterrupted with
  | true =>
      have about : warningAbout (some cause) failure = cause.warning (some failure) :=
        if_pos native
      rw [raiseInterrupted_of_native call native, last]
      cases warning : cause.warning (some failure) with
      | error refusal => exact ⟨_, .unworded (about.trans warning) (Nat.le_refl _)⟩
      | ok message =>
          refine ⟨_, .of_worded (about.trans warning) ?_ ?_⟩
          · simp [failuresAfter, native]
          · simp only [WaitEnding.chain?, native, if_true]
            rfl
  | false =>
      have about : warningAbout (some cause) failure = failure.shown := by
        simp [warningAbout, native]
      rw [raiseInterrupted_of_foreign call native, last, warning_interruption]
      cases shown : failure.shown with
      | error refusal => exact ⟨_, .unworded (about.trans shown) (Nat.le_succ _)⟩
      | ok text =>
          refine ⟨_, .of_worded (about.trans shown) ?_ ?_⟩
          · simp [failuresAfter, native]
          · simp only [WaitEnding.chain?, native, Bool.false_eq_true, if_false]
            rfl

theorem interrupted_endCancelled (begun : Bool) (called : WaitEnding)
    (chain : ∀ interruption, called.chain? failure interruption = some { failure, interruption })
    (last : (world.progressOf call.number).lastFailure = some failure) :
    ∃ ending, Interrupted call failure none begun called world ending
      (endCancelled (α := α) call world) := by
  rw [endCancelled_apply, last, warning_interruption]
  cases shown : failure.shown with
  | error refusal => exact ⟨_, .unworded shown (Nat.le_succ _)⟩
  | ok text =>
      refine ⟨_, .of_worded shown rfl ?_⟩
      rw [chain]
      rfl

variable {cause? : Option Failure} {begun : Bool} {called ending : WaitEnding}
  {result : EStateM.Result Failure (World σ) α}
  (ends : Interrupted call failure cause? begun called world ending result)

include ends

theorem Interrupted.ending_eq :
    ending = called ∨ ∃ raised, ending = .unworded begun raised := by
  cases ends with
  | raised worded => exact .inl rfl
  | unworded refused new => exact .inr ⟨_, rfl⟩

theorem Interrupted.progress :
    (lastWorld result).progressOf call.number = (world.progressOf call.number).interrupt := by
  cases ends with
  | raised worded => exact progressOf_interrupting world call _ _ _
  | unworded refused new => exact progressOf_muting world call _

theorem Interrupted.leads : Leads call id [] world (lastWorld result) := by
  cases ends with
  | raised worded => exact ⟨by simp [lastWorld], rfl, fun _ => rfl, id⟩
  | unworded refused new => exact ⟨by simp [lastWorld], rfl, fun _ => rfl, id⟩

theorem Interrupted.links : (lastWorld result).links =
    world.links.extend (ending.chain? failure (world.interruption call)) := by
  cases ends <;> rfl

end Interrupted

variable {environment : Environment σ} {call : Call} {kind : WaitKind} {failure : Failure}

theorem lastFailure_of_outside {interval : Scalar} {before slept : World σ}
    (last : (before.progressOf call.number).lastFailure = some failure)
    (outside : (before.beginning call kind interval).Outside slept) :
    (slept.progressOf call.number).lastFailure = some failure := by
  rcases outside.heeds call.number with ⟨cancelled, equal⟩
  simp [equal, last]

theorem cancelled_of_passTime {interval : Scalar} {begun slept : World σ}
    (passes : environment.passTime call kind interval begun = .ok true slept) :
    (slept.progressOf call.number).cancelled = true := by
  have passing := environment.passing_passTime call kind interval begun
  rw [passes] at passing
  generalize noticed : true = signalled at passing
  cases passing with
  | slept sleeping waits => cases noticed
  | decided notices waits lags =>
      have kept := (keeps_runDuring kind (environment.keeps_run _)).of_ok lags
      rcases kept.heeds call.number with ⟨again, equal⟩
      rw [equal, Progress.cancelled_heed, ← noticed, Bool.true_or]

theorem waitAndResume_of_error {interval : Scalar} {before after : World σ} {raised : Failure}
    (waits : environment.waitBefore call kind interval before = .error raised after) :
    environment.waitAndResume call kind interval before = .error raised after := by
  rw [waitAndResume, bind_apply, waits]

theorem waitAndResume_of_interrupted {interval : Scalar} {before world : World σ}
    {cause? : Option Failure} {begun : Bool} {called ending : WaitEnding}
    {result : EStateM.Result Failure (World σ) Unit}
    (ends : Interrupted call failure cause? begun called world ending result)
    (waits : environment.waitBefore call kind interval before = result) :
    environment.waitAndResume call kind interval before = result := by
  cases ends <;> exact waitAndResume_of_error waits

theorem exists_waits (environment : Environment σ) (kind : WaitKind) (interval : Scalar)
    {before : World σ} (last : (before.progressOf call.number).lastFailure = some failure) :
    ∃ ending, Waits environment call kind failure interval before ending
      (environment.waitAndResume call kind interval before) := by
  cases cancelled : (before.progressOf call.number).cancelled with
  | true =>
      have waits := environment.waitBefore_of_cancelled call kind interval cancelled
      have skipped : ((before.note call (.waitSkipped kind interval)).progressOf
          call.number).lastFailure = some failure := last
      rcases interrupted_endCancelled (α := Unit) false .skipped (fun _ => rfl) skipped with
        ⟨ending, ends⟩
      rw [waitAndResume_of_interrupted ends waits]
      exact ⟨ending, .skipped cancelled ends⟩
  | false =>
      have waits := environment.waitBefore_of_uncancelled call kind interval cancelled
      have outside := environment.outside_passTime call kind interval
      cases passes : environment.passTime call kind interval
          (before.beginning call kind interval) with
      | ok noticed slept =>
          rw [passes] at waits
          have lastSlept := lastFailure_of_outside last (outside.of_ok passes)
          cases noticed with
          | true =>
              rcases interrupted_endCancelled (α := Unit) true .noticed (fun _ => rfl)
                lastSlept with ⟨ending, ends⟩
              rw [waitAndResume_of_interrupted ends waits]
              exact ⟨ending, .noticed cancelled passes ends⟩
          | false =>
              rw [waitAndResume, bind_apply, waits]
              exact ⟨_, .elapsed cancelled passes⟩
      | error cause slept =>
          rw [passes] at waits
          have lastSlept := lastFailure_of_outside last (outside.of_error passes)
          cases interrupts : kind.interruptedBy cause with
          | true =>
              simp only [interrupts, if_true] at waits
              rcases interrupted_raiseInterrupted (α := Unit) cause lastSlept with
                ⟨ending, ends⟩
              rw [waitAndResume_of_interrupted ends waits]
              exact ⟨ending, .interrupted cancelled passes interrupts ends⟩
          | false =>
              simp only [interrupts, Bool.false_eq_true, if_false] at waits
              rw [waitAndResume_of_error waits]
              exact ⟨_, .escaped cancelled passes interrupts⟩

namespace Waits

variable {interval : Scalar} {before : World σ} {ending : WaitEnding}
  {result : EStateM.Result Failure (World σ) Unit}
  (waits : Waits environment call kind failure interval before ending result)

include waits

theorem ends : result = Action.ending (ending.outcome failure) (lastWorld result) := by
  cases waits with
  | skipped cancelled ends => cases ends <;> rfl
  | interrupted uncancelled passes interrupts ends => cases ends <;> rfl
  | noticed uncancelled passes ends => cases ends <;> rfl
  | escaped uncancelled passes escapes => rfl
  | elapsed uncancelled passes => rfl

theorem progress : ∃ cancelled, (lastWorld result).progressOf call.number =
    (ending.advance kind (before.progressOf call.number)).heed cancelled := by
  have outside := environment.outside_passTime call kind interval
  cases waits with
  | skipped cancelled ends =>
      refine ⟨false, ?_⟩
      rw [ends.progress]
      rcases ends.ending_eq with rfl | ⟨raised, rfl⟩ <;> rfl
  | interrupted uncancelled passes interrupts ends =>
      rcases (outside.of_error passes).heeds call.number with ⟨heeded, equal⟩
      refine ⟨heeded, ?_⟩
      rw [ends.progress, equal]
      rcases ends.ending_eq with rfl | ⟨raised, rfl⟩ <;> simp [WaitEnding.advance]
  | escaped uncancelled passes escapes =>
      rcases (outside.of_error passes).heeds call.number with ⟨heeded, equal⟩
      exact ⟨heeded, by simp [lastWorld, WaitEnding.advance, equal]⟩
  | noticed uncancelled passes ends =>
      rcases (outside.of_ok passes).heeds call.number with ⟨heeded, equal⟩
      refine ⟨heeded, ?_⟩
      rw [ends.progress, equal]
      rcases ends.ending_eq with rfl | ⟨raised, rfl⟩ <;> simp [WaitEnding.advance]
  | elapsed uncancelled passes =>
      rcases (outside.of_ok passes).heeds call.number with ⟨heeded, equal⟩
      exact ⟨heeded, by simp [lastWorld, WaitEnding.advance, equal]⟩

theorem leads : Leads call id (ending.acts kind interval) before (lastWorld result) := by
  have outside := environment.outside_passTime call kind interval
  have begun : Leads call id [.waitBegun kind interval] before
      (before.beginning call kind interval) := Leads.beginning kind interval
  cases waits with
  | skipped cancelled ends =>
      have skipped := (Leads.note (.waitSkipped kind interval)).trans ends.leads
      rcases ends.ending_eq with rfl | ⟨raised, rfl⟩ <;> exact skipped
  | interrupted uncancelled passes interrupts ends =>
      have interrupted := (begun.trans_outside (outside.of_error passes)).trans ends.leads
      rcases ends.ending_eq with rfl | ⟨raised, rfl⟩ <;> exact interrupted
  | escaped uncancelled passes escapes =>
      have left {world : World σ} : Leads call id [] world (world.leaving call kind) := by
        rw [World.leaving]
        split
        · exact Leads.changeProgress _
        · exact Leads.outside (Outside.refl world)
      exact (begun.trans_outside (outside.of_error passes)).trans left
  | noticed uncancelled passes ends =>
      have noticed := (begun.trans_outside (outside.of_ok passes)).trans ends.leads
      rcases ends.ending_eq with rfl | ⟨raised, rfl⟩ <;> exact noticed
  | elapsed uncancelled passes =>
      exact (begun.trans_outside (outside.of_ok passes)).trans
        ((Leads.note _).trans (Leads.changeProgress _))

theorem links : ∃ number, (lastWorld result).links =
    before.links.extend (ending.chain? failure
      (.interruption (.made number) call.policy.name (before.attemptsOf call))) := by
  have outside := environment.outside_passTime call kind interval
  cases waits with
  | skipped cancelled ends => exact ⟨before.failures, ends.links⟩
  | interrupted uncancelled passes interrupts ends =>
      rename_i cause slept
      have outside := outside.of_error passes
      refine ⟨slept.failures, ?_⟩
      rw [← outside.attempts_slept, ← outside.links_slept, ends.links]
      rfl
  | escaped uncancelled passes escapes =>
      have outside := outside.of_error passes
      refine ⟨0, ?_⟩
      rw [lastWorld, links_leaving, outside.links_slept]
      rfl
  | noticed uncancelled passes ends =>
      rename_i slept
      have outside := outside.of_ok passes
      refine ⟨slept.failures, ?_⟩
      rw [← outside.attempts_slept, ← outside.links_slept, ends.links]
      rfl
  | elapsed uncancelled passes =>
      have same := (outside.of_ok passes).links_slept
      exact ⟨0, same⟩

end Waits

end Environment

end Reattempt
