import Reattempt.Proofs.Reference

/-! How a call closes by its script. There are five ways, each with its result, its last
steps and what is counted. -/

namespace Reattempt

variable {σ α : Type}

/-- The end of a call: the number of its attempts, what the last one and the call come
to, how its failure is classified, the event that is announced, what is counted and how
far the call has come. -/
structure Closing (α : Type) where
  attempts : Nat
  outcome : Except Failure α
  classified : List CallStep := []
  event? : Option Event := none
  count : Counters → Counters := id
  progress : Progress

namespace Closing

def steps (closing : Closing α) (heard : Bool) : List CallStep :=
  closing.classified ++ if heard then closing.event?.toList.map .announced else []

def result (closing : Closing α) : Action σ (Option α) :=
  match closing.outcome with
  | .ok value => pure (some value)
  | .error failure => throw failure

/-! ## The five ways -/

variable (call : Call) (number : Nat) (lastFailure : Option Failure) (failure : Failure) (value : α)

/-- The limit is reached by a failure that is worth another attempt. -/
def exhausted : Closing α where
  attempts := number + 1
  outcome := .error failure
  classified := [.classified (some failure) true]
  event? := some (call.event .error (number + 1) (some failure))
  count := .countExhaustion
  progress := { attempts := number + 1, lastFailure := some failure, phase := .exhausted }

def rejected : Closing α where
  attempts := number + 1
  outcome := .error failure
  classified := [.classified (some failure) false]
  event? := some (call.event .ignoredError number (some failure))
  count := .countRejection
  progress := { attempts := number, lastFailure, phase := .rejected }

def escaped : Closing α where
  attempts := number + 1
  outcome := .error failure
  progress := { attempts := number, lastFailure }

def succeededAtOnce : Closing α where
  attempts := 1
  outcome := .ok value
  count := (·.countSuccess false)
  progress := { phase := .succeeded }

def succeeded : Closing α where
  attempts := number + 1
  outcome := .ok value
  event? := some (call.event .success number lastFailure)
  count := (·.countSuccess true)
  progress := { attempts := number, lastFailure, phase := .succeeded }

end Closing

namespace Environment

open World

structure Concluded (call : Call) (arguments : Arguments) (closing : Closing α) (heard : Bool)
    (before after : World σ) : Prop where
  passage : Leads call closing.count (.attempted arguments :: closing.steps heard) before after
  progress : after.progressOf call.number = closing.progress
  event : ∀ {event eventKind}, closing.event? = some event → event.kind? = some eventKind →
    Heard call eventKind before heard after

namespace Conduct

variable {environment : Environment σ} {call : Call} {kind : WaitKind}
  {operation : Arguments → Behaviour σ α} {arguments : Arguments} {stage : Nat → σ → Prop}
  {outcome : Nat → Except Failure α} {retryable : Nat → Bool} {interval : Nat → Scalar}
  (conduct : Conduct environment call kind operation arguments stage outcome retryable interval)
  {number : Nat} {before : World σ} (reached : Reached outcome call stage number before)

include conduct reached

theorem classified {failure : Failure} (raised : outcome (number + 1) = .error failure)
    (ordinary : failure.isA .ordinary = true) :
    ∃ failed judged,
      environment.run (operation arguments) (before.note call (.attempted arguments)) =
        .error failure failed ∧
      environment.isRetryable call.policy.config (some failure) failed =
        .ok (retryable (number + 1)) judged ∧
      judged.Steady (stage (number + 1)) call.number ∧
      Leads call id [.attempted arguments] before judged ∧
      judged.progressOf call.number =
        { attempts := number, lastFailure := lastFailure outcome number } := by
  rcases conduct.attempts reached with ⟨failed, runs, steady, attempted, failedProgress⟩
  rw [raised] at runs
  rcases (conduct.classifies (Nat.succ_pos number) raised ordinary).outside
    (environment.keeps_isRetryable _ _) steady with ⟨judged, asked, steady, outside, progress⟩
  refine ⟨failed, judged, runs, asked, steady, attempted.trans_outside outside, ?_⟩
  rw [progress, failedProgress]

theorem exhausts {failure : Failure} (raised : outcome (number + 1) = .error failure)
    (ordinary : failure.isA .ordinary = true) (worth : retryable (number + 1) = true)
    (limit : call.policy.config.limit.isReached (number + 1) = true) :
    ∃ heard after,
      (∀ budget, environment.attemptWithin call kind operation arguments (budget + 1) before =
        kind.enclose (throw failure) after) ∧
      Concluded call arguments (Closing.exhausted (α := α) call number failure) heard before
        after := by
  rcases conduct.classified reached raised ordinary with
    ⟨failed, judged, runs, asked, steady, attempted, progress⟩
  rw [worth] at asked
  have counted : judged.attemptsOf call = number := by rw [attemptsOf, progress]
  rcases Failure.exists_shown (conduct.words raised ordinary) with ⟨shown, written⟩
  change Failure.shown? (some failure) = .ok shown at written
  rcases environment.exhaust_apply (α := Scalar) call (number + 1) (some failure) judged with
    ⟨entry, exhausts⟩
  rcases conduct.announces (number + 1) .error rfl (number + 1) (some failure)
    ((steady.exhausting (some failure)).observe (.logged (entry shown))) with
    ⟨after, announces, steady, announced, afterProgress⟩
  have records : environment.recordFailure call (some failure) failed = .error failure after := by
    rw [environment.recordFailure_of_retryable call asked, counted, proceed, if_pos limit, exhausts,
      environment.conclude_of_announced call written announces]
  have passage := (attempted.trans (.exhausting (some failure))).trans
    ((Leads.logged _).trans announced)
  refine ⟨judged.hears call (call.event .error (number + 1) (some failure)), after, ?_, ?_⟩
  · exact attemptWithin_of_recordFailure runs ordinary records
  · constructor
    · exact passage
    · rw [afterProgress, progressOf_observe, progressOf_exhausting, progress]
      simp [Closing.exhausted, Progress.count, limit]
    · intro event eventKind announced known
      cases announced
      cases known
      exact ⟨attempted.listening, fun heard => announced.listening heard⟩

theorem rejects {failure : Failure} (raised : outcome (number + 1) = .error failure)
    (ordinary : failure.isA .ordinary = true) (worthless : retryable (number + 1) = false) :
    ∃ heard after,
      (∀ budget, environment.attemptWithin call kind operation arguments (budget + 1) before =
        kind.enclose (throw failure) after) ∧
      Concluded call arguments
        (Closing.rejected (α := α) call number (lastFailure outcome number) failure) heard before
        after := by
  rcases conduct.classified reached raised ordinary with
    ⟨failed, judged, runs, asked, steady, attempted, progress⟩
  rw [worthless] at asked
  have counted : judged.attemptsOf call = number := by rw [attemptsOf, progress]
  rcases Failure.exists_text (conduct.words raised ordinary) with ⟨text, written⟩
  change Failure.text? (some failure) = .ok text at written
  rcases environment.reject_apply (α := Scalar) call (some failure) judged with ⟨entry, rejects⟩
  rw [counted] at rejects
  rcases conduct.announces (number + 1) .ignoredError rfl number (some failure)
    ((steady.rejecting (some failure)).observe (.logged (entry text))) with
    ⟨after, announces, steady, announced, afterProgress⟩
  have records : environment.recordFailure call (some failure) failed = .error failure after := by
    rw [environment.recordFailure_of_rejected call asked, rejects,
      environment.conclude_of_announced call written announces]
  have passage := (attempted.trans (.rejecting (some failure))).trans
    ((Leads.logged _).trans announced)
  refine ⟨judged.hears call (call.event .ignoredError number (some failure)), after, ?_, ?_⟩
  · exact attemptWithin_of_recordFailure runs ordinary records
  · constructor
    · exact passage
    · rw [afterProgress, progressOf_observe, progressOf_rejecting, progress]
      simp [Closing.rejected, Progress.reject]
    · intro event eventKind announced known
      cases announced
      cases known
      exact ⟨attempted.listening, fun heard => announced.listening heard⟩

theorem escapes {failure : Failure} (raised : outcome (number + 1) = .error failure)
    (extraordinary : failure.isA .ordinary = false) :
    ∃ heard after,
      (∀ budget, environment.attemptWithin call kind operation arguments (budget + 1) before =
        .error failure after) ∧
      Concluded call arguments
        (Closing.escaped (α := α) number (lastFailure outcome number) failure) heard before
        after := by
  rcases conduct.attempts reached with ⟨failed, runs, steady, attempted, failedProgress⟩
  rw [raised] at runs
  refine ⟨false, failed, ?_, attempted, failedProgress, ?_⟩
  · intro budget
    rw [attemptWithin_succ, runs]
    simp [Action.ending, extraordinary]
  · intro event eventKind announced
    cases announced

theorem succeedsAtOnce {value : α} (first : number = 0)
    (answered : outcome (number + 1) = .ok value) :
    ∃ heard after,
      (∀ budget, environment.attemptWithin call kind operation arguments (budget + 1) before =
        .ok (some value) after) ∧
      Concluded call arguments (Closing.succeededAtOnce value) heard before after := by
  subst first
  rcases conduct.attempts reached with ⟨ended, runs, steady, attempted, endedProgress⟩
  rw [answered] at runs
  have never : ended.attemptsOf call = 0 := by rw [attemptsOf, endedProgress]
  have reports := environment.onSuccess_at_once call never
  have passage := attempted.trans ((Leads.changeProgress .succeed).trans
    (Leads.changeCounters (·.countSuccess false)))
  refine ⟨false, _, ?_, passage, ?_, ?_⟩
  · intro budget
    rw [attemptWithin_succ, runs]
    simp [Action.ending, reports]
  · rw [progressOf_changeCounters, progressOf_changeProgress_self, endedProgress]
    rfl
  · intro event eventKind announced
    cases announced

theorem succeeds {value : α} (positive : 0 < number) (answered : outcome (number + 1) = .ok value) :
    ∃ heard after,
      (∀ budget, environment.attemptWithin call kind operation arguments (budget + 1) before =
        .ok (some value) after) ∧
      Concluded call arguments (Closing.succeeded call number (lastFailure outcome number) value)
        heard before after := by
  rcases conduct.attempts reached with ⟨ended, runs, steady, attempted, endedProgress⟩
  rw [answered] at runs
  have counted : ended.attemptsOf call = number := by rw [attemptsOf, endedProgress]
  rcases environment.onSuccess_after_retry call (counted ▸ positive) with ⟨entry, reports⟩
  rw [counted, endedProgress] at reports
  have succeeding : (((ended.changeProgress call.number .succeed).changeCounters call.policy.number
      (·.countSuccess true)).observe (.logged entry)).Steady (stage (number + 1)) call.number := by
    apply Steady.observe
    apply Steady.changeCounters
    apply steady.changeProgress
    intro progress
    rfl
  rcases conduct.announces (number + 1) .success rfl number (lastFailure outcome number) succeeding
    with ⟨after, announces, steady, announced, afterProgress⟩
  have passage := attempted.trans (((Leads.changeProgress .succeed).trans
    (Leads.changeCounters (·.countSuccess true))).trans ((Leads.logged entry).trans announced))
  refine ⟨ended.hears call (call.event .success number (lastFailure outcome number)), after, ?_, ?_⟩
  · intro budget
    rw [attemptWithin_succ, runs]
    simp [Action.ending, reports, announces]
  · constructor
    · exact passage
    · rw [afterProgress, progressOf_observe, progressOf_changeCounters,
        progressOf_changeProgress_self, endedProgress]
      rfl
    · intro event eventKind announcedEvent known
      cases announcedEvent
      cases known
      exact ⟨attempted.listening, fun heard => announced.listening heard⟩

end Conduct

end Environment

end Reattempt
