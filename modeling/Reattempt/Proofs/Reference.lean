import Mathlib.Data.List.Basic
import Reattempt.Proofs.Conduct
import Reattempt.Proofs.Course

/-! The reference for calls that nothing disturbs. The outcomes of the operation, the
verdicts of the predicate and the intervals determine such a call completely: how
often it attempts the operation, what it announces and waits for, what it counts and
how it ends. -/

namespace Reattempt

variable {σ α : Type}

namespace Environment

open World

/-! ## The script of a call -/

section Script

variable (outcome : Nat → Except Failure α) (retryable : Nat → Bool)

def failureOf : Except Failure α → Option Failure
  | .ok _ => none
  | .error failure => some failure

def lastFailure (number : Nat) : Option Failure :=
  if number = 0 then none else failureOf (outcome number)

/-- The attempt with the number raises an ordinary failure that is worth another one. -/
def Retries (number : Nat) : Prop :=
  ∃ failure, outcome number = .error failure ∧ failure.isA .ordinary = true ∧
    retryable number = true

structure Reached (call : Call) (stage : Nat → σ → Prop) (number : Nat) (world : World σ) :
    Prop where
  memory : stage number world.memory
  progress : world.progressOf call.number =
    { attempts := number, lastFailure := lastFailure outcome number }

/-- An event of the kind is announced between two worlds, or not, because somebody
listens, or nobody does. -/
structure Heard (call : Call) (eventKind : EventKind) (before : World σ) (heard : Bool)
    (after : World σ) : Prop where
  announced : (before.listenersOf call.policy.publisher).hasListeners (some eventKind) = true →
    heard = true
  listening : heard = true →
    (after.listenersOf call.policy.publisher).hasListeners (some eventKind) = true

/-- The steps of a full round. The wait is announced if somebody listens. -/
def roundSteps (call : Call) (kind : WaitKind) (arguments : Arguments) (interval : Nat → Scalar)
    (number : Nat) (heard : Bool) : List CallStep :=
  [.attempted arguments, .classified (failureOf (outcome number)) true, .intervalAsked number] ++
    (if heard then
      [.announced (call.event (.retry (interval number)) number (failureOf (outcome number)))]
    else []) ++
    [.waitBegun kind (interval number), .waitOver kind (interval number)]

end Script

/-! ## Full rounds -/

namespace Conduct

variable {environment : Environment σ} {call : Call} {kind : WaitKind}
  {operation : Arguments → Behaviour σ α} {arguments : Arguments} {stage : Nat → σ → Prop}
  {outcome : Nat → Except Failure α} {retryable : Nat → Bool} {interval : Nat → Scalar}
  (conduct : Conduct environment call kind operation arguments stage outcome retryable interval)

include conduct

theorem records {number : Nat} (positive : 0 < number) {failure : Failure}
    (raised : outcome number = .error failure) (ordinary : failure.isA .ordinary = true)
    (worth : retryable number = true) (allowed : call.policy.config.limit.isReached number = false)
    {before : World σ} (steady : before.Steady (stage number) call.number)
    (attempts : before.attemptsOf call + 1 = number) :
    ∃ computed planned,
      environment.recordFailure call (some failure) before = .ok (interval number) planned ∧
      planned.Steady (stage number) call.number ∧
      Leads call id [.classified (some failure) true, .intervalAsked number] before computed ∧
      Leads call id (computed.announcement call
        (call.event (.retry (interval number)) number (some failure))) computed planned ∧
      planned.progressOf call.number =
        (before.progressOf call.number).count call.policy.config.limit (some failure) := by
  rcases (conduct.classifies positive raised ordinary).outside
    (environment.keeps_isRetryable _ _) steady with ⟨judged, asked, steady, outside, judgedProgress⟩
  rw [worth] at asked
  have counted : judged.attemptsOf call + 1 = number := by
    rw [← attempts, attemptsOf_eq_of_outside outside]
  have asking : Leads call id [.classified (some failure) true, .intervalAsked number] before
      ((judged.counting call (some failure)).note call (.intervalAsked number)) :=
    (Leads.outside outside).trans ((Leads.counting _).trans (.note _))
  rcases (conduct.computes positive).outside (environment.keeps_delay _ _)
    ((steady.counting _).note _) with
    ⟨computed, computes, steady, outside, computedProgress⟩
  rcases conduct.writes positive with ⟨shown, written⟩
  rcases environment.planWait_apply call (some failure) computes written with ⟨entry, plans⟩
  rcases conduct.announces number (.retry (interval number)) rfl number (some failure)
    (steady.observe (.logged entry)) with ⟨planned, announces, steady, announced, plannedProgress⟩
  refine ⟨computed, planned, ?_, steady, asking.trans_outside outside, ?_, ?_⟩
  · rw [environment.recordFailure_of_retryable call asked, counted, proceed, allowed]
    simp [plans, announceWait, Action.bind_apply, announces]
  · exact (Leads.logged entry).trans announced
  · rw [plannedProgress, progressOf_observe, computedProgress, progressOf_note,
      progressOf_counting, judgedProgress]

/-- The time of a wait passes without a cancellation. -/
theorem passes {number : Nat} (positive : 0 < number) {begun : World σ}
    (steady : begun.Steady (stage number) call.number) :
    ∃ slept, environment.passTime call kind (interval number) begun = .ok false slept ∧
      slept.Steady (stage number) call.number ∧
      begun.Outside slept ∧ slept.progressOf call.number = begun.progressOf call.number := by
  rcases conduct.waits positive begun steady with ⟨waited, waits, steadyWaited⟩
  rcases conduct.lags positive waited steadyWaited with ⟨lagged, lags, steadyLagged⟩
  have passes : ∃ slept, environment.passTime call kind (interval number) begun =
      .ok false slept ∧ slept.Steady (stage number) call.number := by
    simp only [passTime_apply, environment.runDuring_of_ok waits, environment.runDuring_of_ok lags,
      steadyWaited.uncancelled]
    split
    · exact ⟨waited, rfl, steadyWaited⟩
    · exact ⟨lagged, rfl, steadyLagged⟩
  rcases passes with ⟨slept, passes, steadySlept⟩
  have outside := (environment.outside_passTime call kind (interval number)).of_ok passes
  exact ⟨slept, passes, steadySlept, outside,
    outside.progressOf_of_uncancelled steadySlept.uncancelled⟩

theorem elapses {number : Nat} (positive : 0 < number) {before : World σ}
    (steady : before.Steady (stage number) call.number)
    (unstranded : (before.progressOf call.number).stranded = false) :
    ∃ after, environment.waitBefore call kind (interval number) before = .ok () after ∧
      after.Steady (stage number) call.number ∧
      Leads call id [.waitBegun kind (interval number), .waitOver kind (interval number)] before
        after ∧
      after.progressOf call.number = before.progressOf call.number := by
  rcases conduct.passes positive (steady.beginning kind _) with
    ⟨slept, passes, steadySlept, outside, progress⟩
  refine ⟨slept.note call (.waitOver kind (interval number)), ?_, steadySlept.note _, ?_, ?_⟩
  · rw [environment.waitBefore_of_uncancelled call _ _ steady.uncancelled, passes]
  · exact ((Leads.beginning kind _).trans_outside outside).trans (.note _)
  · rw [progressOf_note, progress, progressOf_beginning kind _ unstranded]

theorem attempts {number : Nat} {before : World σ}
    (reached : Reached outcome call stage number before) :
    ∃ ended,
      environment.run (operation arguments) (before.note call (.attempted arguments)) =
        Action.ending (outcome (number + 1)) ended ∧
      ended.Steady (stage (number + 1)) call.number ∧
      Leads call id [.attempted arguments] before ended ∧
      ended.progressOf call.number =
        { attempts := number, lastFailure := lastFailure outcome number } := by
  have steady : before.Steady (stage number) call.number := by
    refine ⟨reached.memory, ?_⟩
    rw [reached.progress]
  rcases (conduct.operates number).outside (environment.keeps_run _) (steady.note _) with
    ⟨ended, runs, steady, outside, progress⟩
  refine ⟨ended, runs, steady, (Leads.note _).trans_outside outside, ?_⟩
  rw [progress, progressOf_note, reached.progress]

theorem round {number : Nat} {before : World σ} (reached : Reached outcome call stage number before)
    (retries : Retries outcome retryable (number + 1))
    (allowed : call.policy.config.limit.isReached (number + 1) = false) :
    ∃ heard next,
      (∀ budget, environment.attemptWithin call kind operation arguments (budget + 1) before =
        environment.attemptWithin call kind operation arguments budget next) ∧
      Reached outcome call stage (number + 1) next ∧
      Leads call id (roundSteps outcome call kind arguments interval (number + 1) heard) before
        next ∧
      Heard call .retry before heard next := by
  rcases retries with ⟨failure, raised, ordinary, worth⟩
  rcases conduct.attempts reached with ⟨failed, runs, steady, attempted, failedProgress⟩
  rw [raised] at runs
  have counted : failed.attemptsOf call + 1 = number + 1 := by rw [attemptsOf, failedProgress]
  rcases conduct.records (Nat.succ_pos number) raised ordinary worth allowed steady counted with
    ⟨computed, planned, records, steady, computing, announced, plannedProgress⟩
  rw [failedProgress] at plannedProgress
  have unstranded : (planned.progressOf call.number).stranded = false := by
    rw [plannedProgress, Progress.count]
  rcases conduct.elapses (Nat.succ_pos number) steady unstranded with
    ⟨slept, waits, steady, waiting, progress⟩
  refine ⟨computed.hears call (call.event (.retry (interval (number + 1))) (number + 1)
    (some failure)), slept.changeProgress call.number .resume, ?_, ?_, ?_, ?_⟩
  · intro budget
    have reports : environment.onFailure call kind (some failure) failed =
        .ok () (slept.changeProgress call.number .resume) := by
      simp [onFailure_eq, WaitKind.enclose_ok_iff, recordAndWait_apply, records, waits]
    rw [attemptWithin_succ, runs]
    simp [Action.ending, ordinary, reports]
  · refine ⟨steady.memory, ?_⟩
    rw [progressOf_changeProgress_self, progress, plannedProgress]
    simp [Progress.count, Progress.resume, lastFailure, raised, failureOf]
  · have passage := (((attempted.trans computing).trans announced).trans waiting).trans
      (.changeProgress .resume)
    simpa [roundSteps, raised, failureOf, announcement] using passage
  · constructor
    · intro listening
      exact computing.listening (attempted.listening listening)
    · intro heard
      exact waiting.listening (announced.listening heard)

theorem rounds (count : Nat) {number : Nat} {before : World σ}
    (reached : Reached outcome call stage number before)
    (retries : ∀ {later}, number < later → later ≤ number + count →
      Retries outcome retryable later)
    (allowed : ∀ {later}, number < later → later ≤ number + count →
      call.policy.config.limit.isReached later = false) :
    ∃ (heard : Nat → Bool) (next : World σ),
      (∀ budget, environment.attemptWithin call kind operation arguments (budget + count) before =
        environment.attemptWithin call kind operation arguments budget next) ∧
      Reached outcome call stage (number + count) next ∧
      Leads call id ((List.range' (number + 1) count).flatMap fun later =>
        roundSteps outcome call kind arguments interval later (heard later)) before next ∧
      ∀ {later}, number < later → later ≤ number + count →
        Heard call .retry before (heard later) next := by
  induction count generalizing number before with
  | zero =>
      refine ⟨fun _ => false, before, fun _ => rfl, reached, .outside (.refl before), ?_⟩
      intro later above below
      omega
  | succ count induction =>
      rcases conduct.round reached (retries (by omega) (by omega)) (allowed (by omega) (by omega))
        with ⟨first, middle, equal, reachedMiddle, passage, heardFirst⟩
      rcases induction reachedMiddle (fun above below => retries (by omega) (by omega))
        (fun above below => allowed (by omega) (by omega)) with
        ⟨heard, next, equalRest, reachedNext, passageRest, heardRest⟩
      refine ⟨Function.update heard (number + 1) first, next, ?_, ?_, ?_, ?_⟩
      · intro budget
        rw [← Nat.add_assoc, equal, equalRest]
      · rw [← Nat.add_assoc, Nat.add_right_comm]
        exact reachedNext
      · have rest : ((List.range' (number + 1 + 1) count).flatMap fun later =>
            roundSteps outcome call kind arguments interval later
              (Function.update heard (number + 1) first later)) =
            (List.range' (number + 1 + 1) count).flatMap fun later =>
              roundSteps outcome call kind arguments interval later (heard later) := by
          apply List.flatMap_congr
          intro later member
          have above := (List.mem_range'_1.mp member).1
          rw [Function.update_of_ne (by omega)]
        rw [List.range'_succ, List.flatMap_cons, Function.update_self, rest]
        exact passage.trans passageRest
      · intro later above below
        by_cases same : later = number + 1
        · subst same
          rw [Function.update_self]
          exact ⟨heardFirst.announced,
            fun heard => passageRest.listening (heardFirst.listening heard)⟩
        · rw [Function.update_of_ne same]
          have after := heardRest (show number + 1 < later by omega) (by omega)
          exact ⟨fun listening => after.announced (passage.listening listening), after.listening⟩

end Conduct

end Environment

end Reattempt
