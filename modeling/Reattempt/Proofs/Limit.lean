import Reattempt.Proofs.Cancellation
import Reattempt.Proofs.Fate
import Reattempt.Proofs.Trace

/-! Raising the limit of a policy. Two runs that differ in nothing else go through the same
worlds until the lower limit is reached. If it never is, they are the same run; if it is,
they have the classification of the last failure that it allows in common, and all before. -/

namespace Reattempt

variable {σ α : Type}

/-! ## The order of limits -/

namespace AttemptLimit

def Within : AttemptLimit → AttemptLimit → Prop
  | _, .unlimited => True
  | .unlimited, .atMost _ _ => False
  | .atMost lower _, .atMost higher _ => lower ≤ higher

instance : LE AttemptLimit :=
  ⟨Within⟩

private theorem isReached_of_le {lower higher : AttemptLimit} (raised : lower ≤ higher)
    {failed : Nat} (allowed : lower.isReached failed = false) : higher.isReached failed = false := by
  cases higher with
  | unlimited => rfl
  | atMost higher _ =>
      cases lower with
      | unlimited => exact (show False from raised).elim
      | atMost lower _ =>
          have order : lower ≤ higher := raised
          simp only [isReached, decide_eq_false_iff_not] at allowed ⊢
          omega

private theorem isReached_zero {limit : AttemptLimit} : limit.isReached 0 = false := by
  cases limit with
  | unlimited => rfl
  | atMost attempts positive => exact decide_eq_false (Nat.not_le.mpr positive)

private theorem eq_of_isReached_succ {limit : AttemptLimit} {failed : Nat}
    (allowed : limit.isReached failed = false) (reached : limit.isReached (failed + 1) = true) :
    limit = .atMost (failed + 1) (Nat.succ_pos failed) := by
  cases limit with
  | unlimited => cases reached
  | atMost attempts positive =>
      simp only [isReached, decide_eq_true_eq, decide_eq_false_iff_not] at allowed reached
      have equal : attempts = failed + 1 := by omega
      subst equal
      rfl

end AttemptLimit

def Policy.withLimit (policy : Policy) (limit : AttemptLimit) : Policy :=
  { policy with shared := { policy.shared with config := { policy.config with limit } } }

def Call.withLimit (call : Call) (limit : AttemptLimit) : Call :=
  { call with policy := call.policy.withLimit limit }

namespace Environment

open World Reattempt.Action

variable {environment : Environment σ} {call : Call} {kind : WaitKind} {higher : AttemptLimit}

/-! ## Reports -/

section reports

variable (raised : call.policy.config.limit ≤ higher)

include raised

theorem counting_withLimit {judged : World σ} (failure : Option Failure)
    (allowed : call.policy.config.limit.isReached (judged.attemptsOf call + 1) = false) :
    judged.counting (call.withLimit higher) failure = judged.counting call failure := by
  have allowedHigher := AttemptLimit.isReached_of_le raised allowed
  have counted : ((judged.note call (.classified failure true)).progressOf call.number).count higher
      failure = ((judged.note call (.classified failure true)).progressOf call.number).count
        call.policy.config.limit failure := by
    rw [progressOf_note, Progress.count, Progress.count]
    rw [attemptsOf] at allowed allowedHigher
    simp only [allowed, allowedHigher]
  show (judged.note call _).changeProgress call.number (fun progress =>
    progress.count higher failure) = _
  rw [counting, World.changeProgress, World.changeProgress, counted]

theorem proceed_withLimit {attempts : Nat} (failure : Option Failure)
    (allowed : call.policy.config.limit.isReached attempts = false) :
    environment.proceed (call.withLimit higher) attempts failure =
      environment.proceed call attempts failure := by
  show (if higher.isReached attempts then _ else environment.planWait call attempts failure) = _
  rw [AttemptLimit.isReached_of_le raised allowed, proceed, allowed]
  rfl

theorem recordFailure_withLimit {failure : Option Failure} {before : World σ}
    (allowed : ∀ {judged},
      environment.isRetryable call.policy.config failure before = .ok true judged →
        call.policy.config.limit.isReached (judged.attemptsOf call + 1) = false) :
    environment.recordFailure (call.withLimit higher) failure before =
      environment.recordFailure call failure before := by
  have same : environment.isRetryable (call.withLimit higher).policy.config failure before =
      environment.isRetryable call.policy.config failure before := rfl
  cases asked : environment.isRetryable call.policy.config failure before with
  | error fault after =>
      simp only [recordFailure, bind_apply, same, asked]
  | ok retryable judged =>
      have askedHigher := same.trans asked
      cases retryable with
      | false =>
          rw [recordFailure_of_rejected _ _ asked, recordFailure_of_rejected _ _ askedHigher]
          rfl
      | true =>
          have unreached := allowed asked
          rw [recordFailure_of_retryable _ _ asked, recordFailure_of_retryable _ _ askedHigher,
            counting_withLimit raised failure unreached]
          exact congrFun (proceed_withLimit raised failure unreached) _

/-- A failure that does not use up the attempts is handled in the same way with a higher
limit. -/
theorem recordAndWait_withLimit {failure : Failure} {before : World σ} {exit : Exit}
    {result : EStateM.Result Failure (World σ) Unit}
    (exits : Exits environment call kind failure before exit result)
    (spared : exit.exhausts = false) :
    environment.recordAndWait (call.withLimit higher) kind (some failure) before =
      environment.recordAndWait call kind (some failure) before := by
  have allowed {judged : World σ}
      (asked : environment.isRetryable call.policy.config (some failure) before =
        .ok true judged) :
      call.policy.config.limit.isReached (judged.attemptsOf call + 1) = false := by
    cases exits with
    | unclassified other => rw [asked] at other; cases other
    | rejected other => rw [asked] at other; cases other
    | exhausted => cases spared
    | unplanned other allowed => rw [asked] at other; cases other; exact allowed
    | waited other allowed => rw [asked] at other; cases other; exact allowed
  rw [recordAndWait_apply, recordAndWait_apply, recordFailure_withLimit raised allowed]
  rfl

end reports

end Environment

/-! ## What is recorded -/

def CallStep.isRecorded : CallStep → Bool
  | .classified _ true => true
  | _ => false

private theorem CallStep.countP_filter_isAct (steps : List CallStep) :
    (steps.filter isAct).countP isRecorded = steps.countP isRecorded := by
  rw [List.countP_filter]
  apply List.countP_congr
  intro step _
  cases step with
  | classified failure retryable => cases retryable <;> simp [isRecorded, isAct]
  | _ => simp [isRecorded]

private theorem Exit.countP_acts (failure : Failure) (kind : WaitKind) (number : Nat)
    (exit : Exit) : (exit.acts failure kind number).countP CallStep.isRecorded =
      if exit.counts then 1 else 0 := by
  cases exit with
  | waited interval ending =>
      cases ending with
      | unworded begun raised => cases begun <;> rfl
      | _ => rfl
  | _ => rfl

def recordedIn (call : Nat) (trace : List Observation) : Nat :=
  (trace.filterMap (Observation.stepOf? call)).countP CallStep.isRecorded

namespace Environment

open World Reattempt.Action

private theorem recordedIn_note (before : World σ) (call : Call) (step : CallStep) :
    recordedIn call.number (before.note call step).trace =
      recordedIn call.number before.trace + if step.isRecorded then 1 else 0 := by
  show ((before.note call step).stepsOf call.number).countP _ = _
  rw [stepsOf_note, List.countP_append, List.countP_singleton]
  rfl

private theorem recordedIn_of_outside {before after : World σ} (outside : before.Outside after)
    (call : Nat) : recordedIn call after.trace = recordedIn call before.trace :=
  congrArg (List.countP CallStep.isRecorded) (outside.stepsOf call)

variable {environment : Environment σ} {call : Call} {kind : WaitKind}

theorem Exits.recordedIn_eq {failure : Failure} {before : World σ} {exit : Exit}
    {result : EStateM.Result Failure (World σ) Unit}
    (exits : Exits environment call kind failure before exit result) :
    recordedIn call.number (lastWorld result).trace =
      recordedIn call.number before.trace + if exit.counts then 1 else 0 := by
  rcases exits.leads with ⟨steps, leads, acts, -⟩
  show ((lastWorld result).stepsOf call.number).countP _ = _
  rw [leads.steps, List.countP_append, ← CallStep.countP_filter_isAct steps, acts,
    Exit.countP_acts]
  rfl

/-! ## Runs -/

/-- A trace that ends with the classification of the last failure that the limit allows. The
runs of a call from a world have it in common if the limit is reached in one of them. -/
structure UsesUp (call : Call) (before : World σ) (common : List Observation) : Prop where
  begins : before.trace <+: common
  ends : ∃ failure, common.getLast? = some (.ofCall call.number (.classified failure true))
  recorded : ∃ allowed positive, call.policy.config.limit = .atMost allowed positive ∧
    recordedIn call.number common + before.attemptsOf call =
      recordedIn call.number before.trace + allowed

inductive Compares (call : Call) (before : World σ) :
    (lower higher : EStateM.Result Failure (World σ) (Option α)) → Prop
  | same {result : EStateM.Result Failure (World σ) (Option α)}
      (spared : ((lastWorld result).progressOf call.number).phase ≠ .exhausted) :
      Compares call before result result
  | parted {raised : Failure} {after : World σ} {common : List Observation}
      {result : EStateM.Result Failure (World σ) (Option α)}
      (exhausted : (after.progressOf call.number).phase = .exhausted)
      (usesUp : UsesUp call before common) (earlier : common <+: after.trace)
      (later : common <+: (lastWorld result).trace) :
      Compares call before (.error raised after) result

variable {operation : Arguments → Behaviour σ α} {arguments : Arguments}

theorem classified_of_onFailure (kind : WaitKind) {failure : Failure} {before judged : World σ}
    (asked : environment.isRetryable call.policy.config (some failure) before = .ok true judged) :
    (judged.note call (.classified (some failure) true)).trace <+:
      ((environment.onFailure call kind (some failure)).after before).trace := by
  have records := recordFailure_of_retryable environment call asked
  rcases kind.after_enclose (environment.recordAndWait call kind (some failure)) before with
    ⟨failures, -, enclosed⟩
  have follows : (environment.recordAndWait call kind (some failure)).after before =
      (environment.proceed call (judged.attemptsOf call + 1) (some failure) >>=
        environment.waitAndResume call kind).after (judged.counting call (some failure)) := by
    apply after_congr
    show (environment.recordFailure call (some failure) >>= environment.waitAndResume call kind)
      before = _
    rw [bind_apply, bind_apply, records]
  rw [onFailure_eq, enclosed, follows]
  exact Keeps.bind (environment.precedes_proceed call _ _)
    (environment.precedes_waitAndResume call kind) (judged.counting call (some failure))

theorem precedes_of_onFailure (kind : WaitKind) {failure : Failure} {before failed : World σ}
    (runs : environment.run (operation arguments) (before.note call (.attempted arguments)) =
      .error failure failed)
    (ordinary : failure.isA .ordinary = true) (budget : Nat) :
    Precedes ((environment.onFailure call kind (some failure)).after failed)
      ((environment.attemptWithin call kind operation arguments (budget + 1)).after before) := by
  simp only [after, attemptWithin_succ, runs, ordinary, if_true]
  cases reports : environment.onFailure call kind (some failure) failed with
  | error raised after => exact refl_of Precedes after
  | ok value next =>
      exact environment.precedes_attemptWithin call kind operation arguments budget next

theorem usesUp_of_exhausted {failure : Failure} {before failed judged : World σ}
    (outside : (before.note call (.attempted arguments)).Outside failed)
    (asked : environment.isRetryable call.policy.config (some failure) failed = .ok true judged)
    (unreached : call.policy.config.limit.isReached (before.attemptsOf call) = false)
    (reached : call.policy.config.limit.isReached (judged.attemptsOf call + 1) = true) :
    UsesUp call before (judged.note call (.classified (some failure) true)).trace := by
  have judges := outside_of_isRetryable asked
  have attempts : judged.attemptsOf call = before.attemptsOf call :=
    (attemptsOf_eq_of_outside judges call).trans (attemptsOf_of_attempt outside)
  rw [attempts] at reached
  refine ⟨?_, ⟨some failure, ?_⟩, before.attemptsOf call + 1, Nat.succ_pos _,
    AttemptLimit.eq_of_isReached_succ unreached reached, ?_⟩
  · have begun : Precedes before (before.note call (.attempted arguments)) := .observe before _
    have ran : Precedes (before.note call (.attempted arguments)) failed := .of_outside outside
    have decided : Precedes failed judged := .of_outside judges
    have noted : Precedes judged (judged.note call (.classified (some failure) true)) :=
      .observe judged _
    exact ((begun.trans ran).trans decided).trans noted
  · rw [World.note, trace_observe, List.getLast?_concat]
  · rw [recordedIn_note, recordedIn_of_outside judges, recordedIn_of_outside outside,
      recordedIn_note]
    simp only [CallStep.isRecorded, if_true, Bool.false_eq_true, if_false]
    omega

/-- What is used up after one more attempt is used up altogether. -/
theorem UsesUp.of_again {failure : Failure} {before failed next : World σ} {interval : Scalar}
    {common : List Observation} (outside : (before.note call (.attempted arguments)).Outside failed)
    (exits : Exits environment call kind failure failed (.waited interval .elapsed) (.ok () next))
    (follows : Precedes before next) (usesUp : UsesUp call next common) :
    UsesUp call before common := by
  rcases usesUp with ⟨begins, ends, allowed, positive, limit, recorded⟩
  refine ⟨follows.trans begins, ends, allowed, positive, limit, ?_⟩
  have counted : next.attemptsOf call = before.attemptsOf call + 1 :=
    exits.next.2.1.trans (by rw [attemptsOf_of_attempt outside])
  have noted : recordedIn call.number next.trace = recordedIn call.number before.trace + 1 := by
    have last := exits.recordedIn_eq
    rw [recordedIn_of_outside outside, recordedIn_note] at last
    exact last
  rw [counted, noted] at recorded
  omega

theorem Compares.of_again {failure : Failure} {before failed next : World σ} {interval : Scalar}
    {lower higher : EStateM.Result Failure (World σ) (Option α)}
    (outside : (before.note call (.attempted arguments)).Outside failed)
    (exits : Exits environment call kind failure failed (.waited interval .elapsed) (.ok () next))
    (follows : Precedes before next) (compares : Compares call next lower higher) :
    Compares call before lower higher := by
  cases compares with
  | same spared => exact .same spared
  | parted exhausted usesUp earlier later =>
      exact .parted exhausted (usesUp.of_again outside exits follows) earlier later

theorem Compares.enclose (kind : WaitKind) {lower higher : Action σ (Option α)}
    {before world : World σ} (compares : Compares call before (lower world) (higher world)) :
    Compares call before (kind.enclose lower world) (kind.enclose higher world) := by
  rcases kind.after_enclose higher world with ⟨failures, -, left⟩
  rw [after, after] at left
  generalize lowerEnds : lower world = lowerEnd at compares
  generalize higherEnds : higher world = higherEnd at compares left
  cases compares with
  | same spared =>
      rw [WaitKind.enclose_congr (lowerEnds.trans higherEnds.symm)]
      apply Compares.same
      rw [left]
      exact spared
  | parted exhausted usesUp earlier later =>
      rcases kind.exists_error_of_enclose lowerEnds with ⟨raised, failures, leaves⟩
      rw [leaves]
      refine .parted exhausted usesUp earlier ?_
      rw [left]
      exact later

section step

variable {higher : AttemptLimit} {before : World σ} {budget : Nat}

/-- Up to its report, an attempt is the same under any limit, and an answer is reported in the
same way. -/
theorem attemptWithin_withLimit :
    environment.attemptWithin (call.withLimit higher) kind operation arguments (budget + 1)
        before =
      match environment.run (operation arguments) (before.note call (.attempted arguments)) with
      | .ok value answered =>
          match environment.onSuccess call answered with
          | .ok () after => .ok (some value) after
          | .error raised after => .error raised after
      | .error failure failed =>
          if failure.isA .ordinary then
            match environment.onFailure (call.withLimit higher) kind (some failure) failed with
            | .ok () next =>
                environment.attemptWithin (call.withLimit higher) kind operation arguments budget
                  next
            | .error raised after => .error raised after
          else .error failure failed :=
  attemptWithin_succ budget before

theorem compares_of_answered {answered : World σ} {value : α}
    (runs : environment.run (operation arguments) (before.note call (.attempted arguments)) =
      .ok value answered) :
    Compares call before
      (environment.attemptWithin call kind operation arguments (budget + 1) before)
      (environment.attemptWithin (call.withLimit higher) kind operation arguments (budget + 1)
        before) := by
  have lower : environment.attemptWithin call kind operation arguments (budget + 1) before = _ :=
    attemptWithin_succ budget before
  have extended : environment.attemptWithin (call.withLimit higher) kind operation arguments
      (budget + 1) before = _ := attemptWithin_withLimit
  rw [runs] at lower extended
  have same := extended.trans lower.symm
  have succeeded := progressOf_onSuccess environment call answered
  rw [← after_attemptWithin_of_answered runs budget] at succeeded
  rcases succeeded with ⟨cancelled, equal⟩
  rw [same]
  refine .same ?_
  rw [after] at equal
  rw [equal, Progress.phase_heed]
  exact Phase.noConfusion

variable {failure : Failure} {failed : World σ}
  (runs : environment.run (operation arguments) (before.note call (.attempted arguments)) =
    .error failure failed)
  (attempting : (failed.progressOf call.number).phase = .attempting)

include runs attempting

theorem compares_of_special (special : failure.isA .ordinary = false) :
    Compares call before
      (environment.attemptWithin call kind operation arguments (budget + 1) before)
      (environment.attemptWithin (call.withLimit higher) kind operation arguments (budget + 1)
        before) := by
  rw [attemptWithin_withLimit, attemptWithin_succ, runs]
  simp only [special, Bool.false_eq_true, if_false]
  apply Compares.same
  show (failed.progressOf call.number).phase ≠ .exhausted
  rw [attempting]
  exact Phase.noConfusion

/-- A report that does not use up the attempts ends both runs or lets both go on. -/
theorem compares_of_spared (raised : call.policy.config.limit ≤ higher)
    (ordinary : failure.isA .ordinary = true) {exit : Exit}
    (exits : Exits environment call kind failure failed exit
      (environment.recordAndWait call kind (some failure) failed))
    (spared : exit.exhausts = false)
    (rest : ∀ {interval : Scalar} {next : World σ},
      Exits environment call kind failure failed (.waited interval .elapsed) (.ok () next) →
        Compares call next
          (environment.attemptWithin call kind operation arguments budget next)
          (environment.attemptWithin (call.withLimit higher) kind operation arguments budget
            next)) :
    Compares call before
      (environment.attemptWithin call kind operation arguments (budget + 1) before)
      (environment.attemptWithin (call.withLimit higher) kind operation arguments (budget + 1)
        before) := by
  have outside := (environment.keeps_run _).of_error runs
  have same := recordAndWait_withLimit raised exits spared
  cases waits : environment.recordAndWait call kind (some failure) failed with
  | error stopped after =>
      have runsHigher : environment.run (operation arguments)
          (before.note (call.withLimit higher) (.attempted arguments)) = .error failure failed :=
        runs
      rw [attemptWithin_of_recordAndWait runs ordinary waits,
        attemptWithin_of_recordAndWait runsHigher ordinary (same.trans waits)]
      rw [waits] at exits
      have last := (exits.last (α := α) attempting).2.2
      have throws : (throw stopped : Action σ (Option α)) after = .error stopped after := rfl
      rcases kind.exists_error_of_enclose throws with ⟨raised, failures, leaves⟩
      rw [leaves]
      apply Compares.same
      change (after.progressOf call.number).phase ≠ .exhausted
      rw [last]
      cases exit with
      | exhausted => cases spared
      | _ => exact Phase.noConfusion
  | ok value next =>
      have reports : environment.onFailure call kind (some failure) failed = .ok () next := by
        rw [onFailure_eq]
        exact WaitKind.enclose_ok_iff.mpr waits
      have reportsHigher : environment.onFailure (call.withLimit higher) kind (some failure) failed =
          .ok () next := by
        rw [onFailure_eq]
        exact WaitKind.enclose_ok_iff.mpr (same.trans waits)
      rw [attemptWithin_withLimit, attemptWithin_succ, runs]
      simp only [if_pos ordinary, reports, reportsHigher]
      rw [waits] at exits
      rcases exits.again with ⟨interval, rfl⟩
      have begun : Precedes before (before.note call (.attempted arguments)) := .observe before _
      have ran : Precedes (before.note call (.attempted arguments)) failed := .of_outside outside
      have reported := (environment.precedes_onFailure call kind (some failure)).of_ok reports
      exact (rest exits).of_again outside exits ((begun.trans ran).trans reported)

/-- The last failure that the lower limit allows parts the runs after its classification. -/
theorem compares_of_exhausted (ordinary : failure.isA .ordinary = true)
    (unreached : call.policy.config.limit.isReached (before.attemptsOf call) = false)
    {stopped : Failure}
    (exits : Exits environment call kind failure failed (.exhausted stopped)
      (environment.recordAndWait call kind (some failure) failed)) :
    Compares call before
      (environment.attemptWithin call kind operation arguments (budget + 1) before)
      (environment.attemptWithin (call.withLimit higher) kind operation arguments (budget + 1)
        before) := by
  have runsHigher : environment.run (operation arguments)
      (before.note (call.withLimit higher) (.attempted arguments)) = .error failure failed := runs
  have outside := (environment.keeps_run _).of_error runs
  cases waits : environment.recordAndWait call kind (some failure) failed with
  | ok value next => rw [waits] at exits; cases exits
  | error raised after =>
      have earlier := precedes_of_onFailure kind runs ordinary budget
      have lower := attemptWithin_of_recordAndWait runs ordinary waits budget
      rw [waits] at exits
      have last := (exits.last (α := α) attempting).2.2
      cases exits with
      | exhausted asked reached =>
          rename_i judged _ _
          have earlier := (classified_of_onFailure kind asked).trans earlier
          have askedHigher : environment.isRetryable (call.withLimit higher).policy.config
              (some failure) failed = .ok true judged := asked
          have later := (classified_of_onFailure kind askedHigher).trans
            (precedes_of_onFailure kind runsHigher ordinary budget)
          have throws : (throw stopped : Action σ (Option α)) after = .error stopped after := rfl
          rcases kind.exists_error_of_enclose throws with ⟨left, failures, leaves⟩
          rw [Action.after, lower, leaves] at earlier
          rw [lower, leaves]
          exact .parted last (usesUp_of_exhausted outside asked unreached reached) earlier later

end step

/-- As long as the lower limit is not reached when they start, a run under it compares with
the one under a higher limit. -/
theorem compares_attemptWithin {higher : AttemptLimit}
    (raised : call.policy.config.limit ≤ higher) (budget : Nat) {before : World σ}
    (attempting : (before.progressOf call.number).phase = .attempting)
    (unreached : call.policy.config.limit.isReached (before.attemptsOf call) = false) :
    Compares call before
      (environment.attemptWithin call kind operation arguments budget before)
      (environment.attemptWithin (call.withLimit higher) kind operation arguments budget
        before) := by
  -- Every attempt begins in a world in which the lower limit is not reached. A report that
  -- reaches it ends the lower run, so the induction goes on only while both runs are the same.
  induction budget generalizing before with
  | zero =>
      apply Compares.same
      show (before.progressOf call.number).phase ≠ .exhausted
      rw [attempting]
      exact Phase.noConfusion
  | succ budget induction =>
      cases runs : environment.run (operation arguments)
          (before.note call (.attempted arguments)) with
      | ok value answered => exact compares_of_answered runs
      | error failure failed =>
          have outside := (environment.keeps_run _).of_error runs
          have failing := phase_of_attempt attempting outside
          cases ordinary : failure.isA .ordinary with
          | false => exact compares_of_special runs failing ordinary
          | true =>
              rcases exists_exits environment call kind failure failed with ⟨exit, exits⟩
              cases exhausts : exit.exhausts with
              | false =>
                  refine compares_of_spared runs failing raised ordinary exits exhausts ?_
                  intro interval next again
                  have reached := again.reached_eq rfl
                  have resumed := again.next
                  apply induction resumed.1
                  rw [resumed.2.1, reached]
                  rfl
              | true =>
                  cases exit with
                  | exhausted stopped =>
                      exact compares_of_exhausted runs failing ordinary unreached exits
                  | _ => cases exhausts

/-- Raising the limit of a policy only extends its runs. A run that does not use up its
attempts is the same run under the higher limit: it comes to the same world, so it has the
same trace and the same counters, and it has the same result. A run that does has the trace
up to the classification of the last failure that its limit allows in common with the run
under the higher limit. A run that returns a value returns it under the higher limit. -/
theorem runUnder_withLimit (environment : Environment σ) {policy : Policy}
    {higher : AttemptLimit} (raised : policy.config.limit ≤ higher) (asynchronous : Bool)
    (operation : Arguments → Behaviour σ α) (arguments : Arguments) (budget : Nat)
    (before : World σ) :
    let number := before.calls
    let lower := environment.runUnder policy asynchronous operation arguments budget before
    let extended := environment.runUnder (policy.withLimit higher) asynchronous operation arguments
      budget before
    (((lastWorld lower).progressOf number).phase ≠ .exhausted → extended = lower) ∧
    (((lastWorld lower).progressOf number).phase = .exhausted →
      ∃ common failure allowed positive,
        policy.config.limit = .atMost allowed positive ∧
        before.trace <+: common ∧
        common.getLast? = some (.ofCall number (.classified failure true)) ∧
        recordedIn number common = recordedIn number before.trace + allowed ∧
        common <+: (lastWorld lower).trace ∧ common <+: (lastWorld extended).trace) ∧
    ∀ {value after}, lower = .ok (some value) after → extended = .ok (some value) after := by
  intro number lower extended
  have opened : before.opening.progressOf number = .fresh := progressOf_opening before
  have attempting : (before.opening.progressOf number).phase = .attempting := by
    rw [opened]
    rfl
  have never : before.opening.attemptsOf (before.nextCall policy) = 0 := by
    rw [attemptsOf, nextCall, opened]
    rfl
  have unreached : policy.config.limit.isReached
      (before.opening.attemptsOf (before.nextCall policy)) = false := by
    rw [never]
    exact AttemptLimit.isReached_zero
  have compares : Compares (before.nextCall policy) before.opening lower extended := by
    have lowerLeaves : lower = _ := environment.runUnder_apply policy asynchronous operation
      arguments budget before
    have higherLeaves : extended = (policy.waitKind asynchronous).enclose
        (environment.attemptWithin ((before.nextCall policy).withLimit higher)
          (policy.waitKind asynchronous) operation arguments budget) before.opening :=
      environment.runUnder_apply (policy.withLimit higher) asynchronous operation arguments budget
        before
    rw [lowerLeaves, higherLeaves]
    exact Compares.enclose _ (compares_attemptWithin raised budget attempting unreached)
  generalize lower = lower, extended = extended at compares
  cases compares with
  | same spared =>
      exact ⟨fun _ => rfl, fun exhausted => absurd exhausted spared, fun returned => returned⟩
  | parted exhausted usesUp earlier later =>
      refine ⟨fun spared => absurd exhausted spared, fun _ => ?_, ?_⟩
      · rcases usesUp with ⟨begins, ⟨failure, ends⟩, allowed, positive, limit, recorded⟩
        rw [never] at recorded
        exact ⟨_, failure, allowed, positive, limit, begins, ends, recorded, earlier, later⟩
      · intro value returning returned
        cases returned

/-- The operation of the grumbling listener is attempted three times, and more often if the
limit is raised. -/
theorem runUnder_withLimit_grumbling :
    Grumbling.policy.config.limit ≤ .unlimited ∧
    ∃ common,
      common <+: (lastWorld (Grumbling.environment.runUnder Grumbling.policy true
        Grumbling.operation {} 5 Grumbling.world)).trace ∧
      common <+: (lastWorld (Grumbling.environment.runUnder (Grumbling.policy.withLimit .unlimited)
        true Grumbling.operation {} 5 Grumbling.world)).trace ∧
      recordedIn 0 common = 3 := by
  have raised : Grumbling.policy.config.limit ≤ .unlimited := trivial
  have exhausted : ((lastWorld (Grumbling.environment.runUnder Grumbling.policy true
      Grumbling.operation {} 5 Grumbling.world)).progressOf 0).phase = .exhausted := by
    decide +kernel
  rcases (runUnder_withLimit Grumbling.environment raised true Grumbling.operation {} 5
    Grumbling.world).2.1 exhausted with
    ⟨common, failure, allowed, positive, limit, begins, ends, recorded, earlier, later⟩
  cases limit
  exact ⟨raised, common, earlier, later, recorded⟩

end Environment

end Reattempt
