import Reattempt.Proofs.Ending

/-! The course of a call: full rounds, and after them at most one attempt more, which
is the last one. A course stops between two rounds only if no budget is left. -/

namespace Reattempt

variable {σ α : Type}

namespace Environment

open World

inductive LastAttempt (call : Call) (kind : WaitKind) (counted : Nat) : List CallStep → Prop
  /-- The operation raises a failure that is not ordinary. -/
  | unreported : LastAttempt call kind counted []
  | succeeded {announced : List CallStep} (success : AtMostAnnounced .success announced) :
      LastAttempt call kind counted announced
  | failed {failure : Option Failure} {steps : List CallStep}
      (ending : Ending call kind failure (counted + 1) steps) : LastAttempt call kind counted steps

/-- What happens in a call from a world in which a number of failures is counted. -/
inductive Course (environment : Environment σ) (call : Call) (kind : WaitKind)
    (operation : Arguments → Behaviour σ α) (arguments : Arguments) :
    Nat → World σ → List CallStep → Prop
  | paused (counted : Nat) (world : World σ) :
      Course environment call kind operation arguments counted world []
  | last {counted : Nat} {before : World σ} {steps : List CallStep}
      (attempt : LastAttempt call kind counted steps) :
      Course environment call kind operation arguments counted before
        (.attempted arguments :: steps)
  | again {counted : Nat} {before next : World σ} {steps later : List CallStep}
      (round : Round environment call kind operation arguments (counted + 1) before steps next)
      (rest : Course environment call kind operation arguments (counted + 1) next later) :
      Course environment call kind operation arguments counted before (steps ++ later)

variable {environment : Environment σ} {call : Call} {kind : WaitKind}
  {operation : Arguments → Behaviour σ α} {arguments : Arguments}

theorem Round.stepsOf {number : Nat} {before after : World σ} {steps : List CallStep}
    (round : Round environment call kind operation arguments number before steps after) :
    after.stepsOf call.number = before.stepsOf call.number ++ steps := by
  cases round with
  | intro raises ordinary retried =>
      rw [retried.stepsOf, ((environment.keeps_run _).of_error raises).stepsOf, stepsOf_note]
      simp

theorem Round.attemptsOf {number : Nat} {before after : World σ} {steps : List CallStep}
    (round : Round environment call kind operation arguments number before steps after) :
    after.attemptsOf call = before.attemptsOf call + 1 := by
  cases round with
  | intro raises ordinary retried =>
      rw [retried.attemptsOf]
      congr 1
      exact ((environment.keeps_run _).of_error raises).attempts call.number

theorem round_of_onFailure {failure : Failure} {before failed next : World σ}
    (runs : environment.run (operation arguments) (before.note call (.attempted arguments)) =
      .error failure failed)
    (ordinary : failure.isA .ordinary = true)
    (reports : environment.onFailure call kind (some failure) failed = .ok () next) :
    ∃ steps, Round environment call kind operation arguments (before.attemptsOf call + 1) before
      steps next := by
  have kept := (environment.keeps_run _).of_error runs
  rcases retried_of_onFailure reports with ⟨steps, retried⟩
  rw [attemptsOf_eq_of_outside kept] at retried
  exact ⟨_, .intro runs ordinary retried⟩

theorem steps_of_onSuccess (environment : Environment σ) (call : Call) (before : World σ) :
    ∃ announced, AtMostAnnounced .success announced ∧
      ((environment.onSuccess call).after before).stepsOf call.number =
        before.stepsOf call.number ++ announced := by
  rcases Nat.eq_zero_or_pos (before.attemptsOf call) with never | retried
  · refine ⟨[], .inl rfl, ?_⟩
    rw [Action.after_eq_of_ok (environment.onSuccess_at_once call never)]
    simp
  · rcases environment.onSuccess_after_retry call retried with ⟨entry, announces⟩
    have added := stepsOf_of_announce (Action.after_congr announces).symm
    rw [stepsOf_logged, stepsOf_changeCounters, stepsOf_changeProgress] at added
    refine ⟨_, ?_, added⟩
    exact atMostAnnounced_announcement _ _ rfl

theorem attemptWithin_succ (budget : Nat) (before : World σ) :
    environment.attemptWithin call kind operation arguments (budget + 1) before =
      match environment.run (operation arguments) (before.note call (.attempted arguments)) with
      | .ok value answered =>
          match environment.onSuccess call answered with
          | .ok () after => .ok (some value) after
          | .error raised after => .error raised after
      | .error failure failed =>
          if failure.isA .ordinary then
            match environment.onFailure call kind (some failure) failed with
            | .ok () next => environment.attemptWithin call kind operation arguments budget next
            | .error raised after => .error raised after
          else .error failure failed := by
  simp only [attemptWithin, Action.bind_apply, attempt_apply]
  cases environment.run (operation arguments) (before.note call (.attempted arguments)) with
  | ok value answered =>
      simp only [Action.bind_apply]
      cases environment.onSuccess call answered <;> rfl
  | error failure failed =>
      by_cases ordinary : failure.isA .ordinary = true
      · simp only [if_pos ordinary, Action.bind_apply]
        cases environment.onFailure call kind (some failure) failed <;> rfl
      · simp only [if_neg ordinary]

/-- A failure that leaves a report is the end of the attempts. -/
theorem attemptWithin_of_recordAndWait {failure raised : Failure} {before failed stopped : World σ}
    (runs : environment.run (operation arguments) (before.note call (.attempted arguments)) =
      .error failure failed)
    (ordinary : failure.isA .ordinary = true)
    (waits : environment.recordAndWait call kind (some failure) failed = .error raised stopped)
    (budget : Nat) :
    environment.attemptWithin call kind operation arguments (budget + 1) before =
      kind.enclose (throw raised) stopped := by
  rw [attemptWithin_succ, runs]
  simp only [if_pos ordinary, environment.onFailure_of_error call waits, WaitKind.enclose_apply,
    Action.throw_apply]
  cases kind.holdsBack raised <;> rfl

theorem attemptWithin_of_recordFailure {failure raised : Failure} {before failed after : World σ}
    (runs : environment.run (operation arguments) (before.note call (.attempted arguments)) =
      .error failure failed)
    (ordinary : failure.isA .ordinary = true)
    (records : environment.recordFailure call (some failure) failed = .error raised after)
    (budget : Nat) :
    environment.attemptWithin call kind operation arguments (budget + 1) before =
      kind.enclose (throw raised) after := by
  have waits : environment.recordAndWait call kind (some failure) failed = .error raised after := by
    rw [recordAndWait_apply, records]
  exact attemptWithin_of_recordAndWait runs ordinary waits budget

/-- Whatever the caller's code does, a call follows a course. -/
theorem course_attemptWithin (environment : Environment σ) (call : Call) (kind : WaitKind)
    (operation : Arguments → Behaviour σ α) (arguments : Arguments) (budget : Nat)
    (before : World σ) :
    ∃ steps,
      Course environment call kind operation arguments (before.attemptsOf call) before steps ∧
      ((environment.attemptWithin call kind operation arguments budget).after before).stepsOf
        call.number = before.stepsOf call.number ++ steps := by
  induction budget generalizing before with
  | zero => exact ⟨[], .paused _ before, (List.append_nil _).symm⟩
  | succ budget induction =>
      have begun := stepsOf_note before call (.attempted arguments)
      simp only [Action.after, attemptWithin_succ]
      cases runs : environment.run (operation arguments)
          (before.note call (.attempted arguments)) with
      | ok value answered =>
          have kept := (environment.keeps_run _).of_ok runs
          rcases steps_of_onSuccess environment call answered with ⟨announced, success, added⟩
          rw [kept.stepsOf, begun, List.append_assoc] at added
          refine ⟨_, .last (.succeeded success), ?_⟩
          rw [← List.singleton_append, ← added]
          cases reports : environment.onSuccess call answered with
          | ok _ after => simp only [reports, Action.lastWorld, Action.after_eq_of_ok reports]
          | error raised after =>
              simp only [reports, Action.lastWorld, Action.after_eq_of_error reports]
      | error failure failed =>
          have kept := (environment.keeps_run _).of_error runs
          by_cases ordinary : failure.isA .ordinary = true
          · simp only [if_pos ordinary]
            cases reports : environment.onFailure call kind (some failure) failed with
            | error raised after =>
                rcases ending_of_onFailure reports with ⟨steps, ending, added⟩
                rw [attemptsOf_eq_of_outside kept] at ending
                refine ⟨_, .last (.failed ending), ?_⟩
                rw [Action.lastWorld, added, kept.stepsOf, begun, List.append_assoc]
                rfl
            | ok value next =>
                rcases round_of_onFailure runs ordinary reports with ⟨steps, round⟩
                rcases induction next with ⟨later, rest, added⟩
                rw [round.attemptsOf] at rest
                refine ⟨_, .again round rest, ?_⟩
                rw [round.stepsOf, List.append_assoc] at added
                exact added
          · simp only [if_neg ordinary]
            refine ⟨_, .last .unreported, ?_⟩
            rw [Action.lastWorld, kept.stepsOf, begun]

end Environment

/-! ## Opening a call -/

namespace World

def nextCall (world : World σ) (policy : Policy) : Call :=
  { number := world.calls, policy }

def opening (world : World σ) : World σ :=
  { world with
    calls := world.calls + 1
    progress := world.progress.set world.calls .fresh }

@[simp] theorem progressOf_opening (world : World σ) :
    world.opening.progressOf world.calls = .fresh := by
  simp [opening, Situation.progressOf]

end World

theorem Environment.runUnder_apply (environment : Environment σ) (policy : Policy)
    (asynchronous : Bool) (operation : Arguments → Behaviour σ α) (arguments : Arguments)
    (budget : Nat) (world : World σ) :
    environment.runUnder policy asynchronous operation arguments budget world =
      (policy.waitKind asynchronous).enclose
        (environment.attemptWithin (world.nextCall policy) (policy.waitKind asynchronous) operation
          arguments budget) world.opening := by
  rw [runUnder, WaitKind.enclose_apply, WaitKind.enclose_apply]
  rfl

/-- At the end of a run a failure may be replaced by a new one, and that is all. -/
theorem Environment.after_runUnder (environment : Environment σ) (policy : Policy)
    (asynchronous : Bool) (operation : Arguments → Behaviour σ α) (arguments : Arguments)
    (budget : Nat) (world : World σ) :
    ∃ failures after,
      (environment.attemptWithin (world.nextCall policy) (policy.waitKind asynchronous) operation
        arguments budget).after world.opening = after ∧
      (environment.runUnder policy asynchronous operation arguments budget).after world =
        after.relinking failures after.links := by
  rw [Action.after_congr
    (environment.runUnder_apply policy asynchronous operation arguments budget world)]
  rcases WaitKind.after_enclose (policy.waitKind asynchronous)
    (environment.attemptWithin (world.nextCall policy) (policy.waitKind asynchronous) operation
      arguments budget) world.opening with ⟨failures, -, equal⟩
  exact ⟨failures, _, rfl, equal⟩

end Reattempt
