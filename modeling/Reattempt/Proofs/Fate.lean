import Reattempt.Proofs.Consistency
import Reattempt.Proofs.Course
import Reattempt.Proofs.Discreet

/-! The fate of a run. A run ends in one of a few ways, and it is counted once if it has an
outcome, else not at all. Nothing in a call refuses a second report after its end; it is
the run that makes none. -/

namespace Reattempt

variable {σ α : Type}

inductive Fate (α : Type) where
  /-- The budget is used up. -/
  | paused
  /-- The operation raises a failure that is not ordinary. -/
  | unreported (raised : Failure)
  | succeeded (value : α)
  /-- The report of the failure ends with an exit that allows no other attempt. -/
  | failed (failure : Failure) (exit : Exit)

namespace Fate

def outcome : Fate α → Except Failure (Option α)
  | .paused => .ok none
  | .unreported raised => .error raised
  | .succeeded value => .ok (some value)
  | .failed failure exit => (exit.outcome failure).map fun _ => none

/-- The run returns a value, propagates a rejected failure or has used up its attempts. -/
def hasOutcome : Fate α → Bool
  | .succeeded _ | .failed _ (.rejected _) | .failed _ (.exhausted _) => true
  | _ => false

/-- What is entered for the run, given how many failures were recorded and retried
before its end. -/
def ledger (recorded : Nat) : Fate α → List Entry
  | .succeeded _ => [if 0 < recorded then .succeededAfterRetry else .succeededAtOnce]
  | .failed _ (.rejected _) => [.rejected]
  | .failed _ (.exhausted _) => [.exhausted]
  | _ => []

def phase : Fate α → Phase
  | .paused | .unreported _ | .failed _ (.unclassified _) => .attempting
  | .succeeded _ => .succeeded
  | .failed _ (.rejected _) => .rejected
  | .failed _ (.exhausted _) => .exhausted
  | .failed _ (.unplanned _) | .failed _ (.waited _ _) => .waiting

end Fate

namespace Counters

private theorem total_enter (counters : Counters) {entry : Entry} (counts : entry ≠ .retried) :
    (counters.enter [entry]).total = counters.total + 1 := by
  cases entry with
  | retried => exact absurd rfl counts
  | _ => simp only [enter, total, List.count_singleton]; simp; omega

end Counters

/-- A run with an outcome is counted once. -/
theorem Fate.total_ledger (fate : Fate α) (recorded : Nat) (counters : Counters) :
    (counters.enter (fate.ledger recorded)).total =
      counters.total + (if fate.hasOutcome then 1 else 0) := by
  have once {entry : Entry} (counts : entry ≠ .retried) := counters.total_enter counts
  cases fate with
  | paused => rfl
  | unreported raised => rfl
  | succeeded value =>
      apply once
      split <;> simp
  | failed failure exit =>
      cases exit with
      | rejected raised => exact once (by simp)
      | exhausted raised => exact once (by simp)
      | _ => rfl

namespace Exit

private theorem phase_advance {limit : AttemptLimit} {failure : Failure} {kind : WaitKind}
    {progress : Progress} {exit : Exit} (attempts : progress.phase = .attempting)
    (reached : exit.counts = true → limit.isReached (progress.attempts + 1) = exit.exhausts)
    (last : exit.isAgain = false) :
    (exit.advance failure limit kind progress).phase =
      (Fate.failed (α := α) failure exit).phase := by
  have counted (counts : exit.counts = true) :
      (progress.count limit (some failure)).phase =
        if exit.exhausts = true then .exhausted else .waiting := by
    rw [Progress.phase_count, reached counts]
  cases exit with
  | unclassified raised => exact attempts
  | rejected raised => rfl
  | exhausted raised => exact counted rfl
  | unplanned raised => exact counted rfl
  | waited interval ending =>
      have waits := counted rfl
      cases ending with
      | elapsed => cases last
      | unworded begun raised => cases begun <;> cases kind <;> exact waits
      | _ => cases kind <;> exact waits

end Exit

namespace Environment

open World Reattempt.Action

/-- How a run goes from a world on: the failures that are recorded and retried, the worlds
before and after each report to the call, and how the run ends. -/
inductive Meets (environment : Environment σ) (call : Call) (kind : WaitKind)
    (operation : Arguments → Behaviour σ α) (arguments : Arguments) :
    Nat → World σ → List Failure → List (World σ × World σ) → Fate α →
      EStateM.Result Failure (World σ) (Option α) → Prop
  | paused {before : World σ} :
      Meets environment call kind operation arguments 0 before [] [] .paused (.ok none before)
  | unreported {budget : Nat} {before failed : World σ} {raised : Failure}
      (runs : environment.run (operation arguments) (before.note call (.attempted arguments)) =
        .error raised failed)
      (extraordinary : raised.isA .ordinary = false) :
      Meets environment call kind operation arguments (budget + 1) before [] []
        (.unreported raised) (.error raised failed)
  | succeeded {budget : Nat} {before answered after : World σ} {value : α}
      (runs : environment.run (operation arguments) (before.note call (.attempted arguments)) =
        .ok value answered)
      (reports : environment.onSuccess call answered = .ok () after) :
      Meets environment call kind operation arguments (budget + 1) before [] [(answered, after)]
        (.succeeded value) (.ok (some value) after)
  | failed {budget : Nat} {before failed stopped : World σ} {failure raised : Failure}
      {exit : Exit} {result : EStateM.Result Failure (World σ) (Option α)}
      (runs : environment.run (operation arguments) (before.note call (.attempted arguments)) =
        .error failure failed)
      (ordinary : failure.isA .ordinary = true)
      (exits : Exits environment call kind failure failed exit (.error raised stopped))
      (leaves : result = kind.enclose (throw raised) stopped) :
      Meets environment call kind operation arguments (budget + 1) before []
        [(failed, lastWorld result)] (.failed failure exit) result
  | again {budget : Nat} {before failed next : World σ} {failure : Failure} {interval : Scalar}
      {recorded : List Failure} {reports : List (World σ × World σ)} {fate : Fate α}
      {result : EStateM.Result Failure (World σ) (Option α)}
      (runs : environment.run (operation arguments) (before.note call (.attempted arguments)) =
        .error failure failed)
      (ordinary : failure.isA .ordinary = true)
      (exits : Exits environment call kind failure failed (.waited interval .elapsed) (.ok () next))
      (rest : Meets environment call kind operation arguments budget next recorded reports fate
        result) :
      Meets environment call kind operation arguments (budget + 1) before (failure :: recorded)
        ((failed, next) :: reports) fate result

variable {environment : Environment σ} {call : Call} {kind : WaitKind}
  {operation : Arguments → Behaviour σ α} {arguments : Arguments}

theorem Discreet.reportsSuccess {calls : Nat → Prop} (discreet : environment.Discreet calls)
    (call : Call) (before : World σ) :
    ∃ after, environment.onSuccess call before = .ok () after := by
  rcases Nat.eq_zero_or_pos (before.attemptsOf call) with never | retried
  · exact ⟨_, environment.onSuccess_at_once call never⟩
  · rcases environment.onSuccess_after_retry call retried with ⟨entry, announces⟩
    have known : EventDetail.success.kind? = some .success := rfl
    rw [announces]
    exact (discreet.announces call known _ _ _).imp fun _ told => told.1

/-- If listeners are discreet, a call that ends raises the failure that was reported, provided
that it can be written into the log. -/
theorem Discreet.concluded {calls : Nat → Prop} (discreet : environment.Discreet calls)
    {failure raised : Failure} (worded : failure.isWorded = true) {before : World σ} {exit : Exit}
    {result : EStateM.Result Failure (World σ) Unit}
    (exits : Exits environment call kind failure before exit result)
    (ends : exit = .rejected raised ∨ exit = .exhausted raised) : raised = failure := by
  rcases ends with rfl | rfl
  · rcases Failure.exists_text worded with ⟨text, written⟩
    cases exits with
    | rejected asked concludes => exact (discreet.eq_of_concludes rfl written concludes).1
  · rcases Failure.exists_shown worded with ⟨shown, written⟩
    cases exits with
    | exhausted asked reached concludes => exact (discreet.eq_of_concludes rfl written concludes).1

theorem Exits.again {failure : Failure} {before after : World σ} {exit : Exit}
    (exits : Exits environment call kind failure before exit (.ok () after)) :
    ∃ interval, exit = .waited interval .elapsed := by
  apply Exit.eq_of_isAgain
  rw [← Exit.outcome_eq_ok_iff failure]
  have ends := exits.ends
  cases outcome : exit.outcome failure with
  | ok value => rfl
  | error raised =>
      rw [outcome] at ends
      cases ends

theorem exists_meets {calls : Nat → Prop} (discreet : environment.Discreet calls) (budget : Nat)
    (before : World σ) :
    ∃ recorded reports fate,
      Meets environment call kind operation arguments budget before recorded reports fate
        (environment.attemptWithin call kind operation arguments budget before) := by
  induction budget generalizing before with
  | zero => exact ⟨_, _, _, .paused⟩
  | succ budget induction =>
      cases runs : environment.run (operation arguments)
          (before.note call (.attempted arguments)) with
      | ok value answered =>
          rcases discreet.reportsSuccess call answered with ⟨after, reports⟩
          simp only [attemptWithin_succ, runs, reports]
          exact ⟨_, _, _, .succeeded runs reports⟩
      | error failure failed =>
          cases ordinary : failure.isA .ordinary with
          | false =>
              simp only [attemptWithin_succ, runs, ordinary, Bool.false_eq_true, if_false]
              exact ⟨_, _, _, .unreported runs ordinary⟩
          | true =>
              rcases exists_exits environment call kind failure failed with ⟨exit, exits⟩
              cases waits : environment.recordAndWait call kind (some failure) failed with
              | error raised stopped =>
                  rw [waits] at exits
                  exact ⟨_, _, _, .failed runs ordinary exits
                    (attemptWithin_of_recordAndWait runs ordinary waits budget)⟩
              | ok value next =>
                  have reports : environment.onFailure call kind (some failure) failed =
                      .ok () next := by
                    rw [onFailure_eq]
                    exact WaitKind.enclose_ok_iff.mpr waits
                  rw [waits] at exits
                  rcases exits.again with ⟨interval, rfl⟩
                  rcases induction next with ⟨recorded, others, fate, rest⟩
                  simp only [attemptWithin_succ, runs, ordinary, if_true, reports]
                  exact ⟨_, _, _, .again runs ordinary exits rest⟩

/-! ## What a fate means -/

/-- A call is attempting its operation when something is reported, and unless it is again
afterwards, nothing else is reported. -/
def OneEnd (call : Call) : List (World σ × World σ) → Prop
  | [] => True
  | report :: later =>
      (report.1.progressOf call.number).phase = .attempting ∧
      ((report.2.progressOf call.number).phase ≠ .attempting → later = []) ∧
      OneEnd call later

structure Settles (call : Call) (kind : WaitKind) (before : World σ) (recorded : List Failure)
    (reports : List (World σ × World σ)) (fate : Fate α)
    (result : EStateM.Result Failure (World σ) (Option α)) : Prop where
  ends : ∃ stopped, result = kind.enclose (MonadExcept.ofExcept fate.outcome) stopped
  counters : (lastWorld result).countersOf call.policy.number =
    (before.countersOf call.policy.number).enter
      (fate.ledger (before.attemptsOf call + recorded.length))
  phase : ((lastWorld result).progressOf call.number).phase = fate.phase
  once : OneEnd call reports

theorem phase_of_attempt {before after : World σ}
    (attempts : (before.progressOf call.number).phase = .attempting)
    (outside : (before.note call (.attempted arguments)).Outside after) :
    (after.progressOf call.number).phase = .attempting := by
  rcases outside.heeds call.number with ⟨cancelled, equal⟩
  rw [equal, Progress.phase_heed, progressOf_note, attempts]

theorem attemptsOf_of_attempt {before after : World σ}
    (outside : (before.note call (.attempted arguments)).Outside after) :
    after.attemptsOf call = before.attemptsOf call :=
  attemptsOf_eq_of_outside outside call

/-- After a report that ends well the operation is attempted again. -/
theorem Exits.next {failure : Failure} {before next : World σ} {interval : Scalar}
    (exits : Exits environment call kind failure before (.waited interval .elapsed) (.ok () next)) :
    (next.progressOf call.number).phase = .attempting ∧
      next.attemptsOf call = before.attemptsOf call + 1 ∧
      next.countersOf call.policy.number = before.countersOf call.policy.number := by
  rcases exits.progress with ⟨cancelled, equal⟩
  rcases exits.leads with ⟨steps, leads, -⟩
  rw [lastWorld] at equal
  refine ⟨?_, ?_, leads.counters⟩
  · rw [equal, Progress.phase_heed]
    rfl
  · exact exits.attempts_eq

/-- A report that fails leaves the call and the counters as the fate of its run says. -/
theorem Exits.last {failure raised : Failure} {before stopped : World σ} {exit : Exit}
    (exits : Exits environment call kind failure before exit (.error raised stopped))
    (attempts : (before.progressOf call.number).phase = .attempting) :
    exit.outcome failure = .error raised ∧
      stopped.countersOf call.policy.number = (before.countersOf call.policy.number).enter
        ((Fate.failed (α := α) failure exit).ledger (before.attemptsOf call)) ∧
      (stopped.progressOf call.number).phase = (Fate.failed (α := α) failure exit).phase := by
  have ends := exits.ends
  rcases exits.leads with ⟨steps, leads, -⟩
  rcases exits.progress with ⟨cancelled, equal⟩
  rw [lastWorld] at leads equal
  have raises : exit.outcome failure = .error raised := by
    cases outcome : exit.outcome failure with
    | ok value => rw [outcome] at ends; cases ends
    | error other => rw [outcome] at ends; cases ends; rfl
  have last : exit.isAgain = false := by
    rw [← Bool.not_eq_true, ← Exit.outcome_eq_ok_iff failure, raises]
    simp
  refine ⟨raises, ?_, ?_⟩
  · rw [leads.counters]
    cases exit <;> rfl
  · rw [equal, Progress.phase_heed]
    exact Exit.phase_advance attempts exits.reached_eq last

theorem Meets.settles {budget : Nat} {before : World σ} {recorded : List Failure}
    {reports : List (World σ × World σ)} {fate : Fate α}
    {result : EStateM.Result Failure (World σ) (Option α)}
    (meets : Meets environment call kind operation arguments budget before recorded reports fate
      result)
    (attempts : (before.progressOf call.number).phase = .attempting) :
    Settles call kind before recorded reports fate result := by
  induction meets with
  | paused => exact ⟨⟨_, (kind.enclose_pure _ _).symm⟩, rfl, attempts, trivial⟩
  | unreported runs extraordinary =>
      have outside := (environment.keeps_run _).of_error runs
      have released := kind.holdsBack_of_special extraordinary
      exact ⟨⟨_, (WaitKind.enclose_of_error rfl released).symm⟩, outside.countersOf _,
        phase_of_attempt attempts outside, trivial⟩
  | succeeded runs reports =>
      rename_i budget before answered after value
      have outside := (environment.keeps_run _).of_ok runs
      have counted := environment.countersOf_onSuccess call answered
      rcases progressOf_onSuccess environment call answered with
        ⟨cancelled, equal⟩
      rw [after_eq_of_ok reports] at equal counted
      rw [entryOfSuccess, attemptsOf_of_attempt outside, outside.countersOf] at counted
      refine ⟨⟨_, (kind.enclose_pure _ _).symm⟩, counted, ?_, phase_of_attempt attempts outside,
        fun _ => rfl, trivial⟩
      rw [lastWorld, equal, Progress.phase_heed]
      rfl
  | failed runs ordinary exits leaves =>
      rename_i budget before failed stopped failure raised exit result
      have outside := (environment.keeps_run _).of_error runs
      have reported := phase_of_attempt attempts outside
      have last := exits.last (α := α) reported
      rw [outside.countersOf, attemptsOf_of_attempt outside] at last
      have left : ∃ failures, lastWorld result = stopped.relinking failures stopped.links := by
        rcases kind.after_enclose (throw raised : Action σ (Option α)) stopped with
          ⟨failures, -, equal⟩
        exact ⟨failures, leaves ▸ equal⟩
      rcases left with ⟨failures, left⟩
      refine ⟨⟨stopped, ?_⟩, ?_, ?_, reported, fun _ => rfl, trivial⟩
      · rw [leaves, Fate.outcome, last.1]
        rfl
      · rw [left]
        exact last.2.1
      · rw [left]
        exact last.2.2
  | again runs ordinary exits rest induction =>
      have outside := (environment.keeps_run _).of_error runs
      rcases exits.next with ⟨resumed, counted, kept⟩
      have settled := induction resumed
      refine ⟨settled.ends, ?_, settled.phase, phase_of_attempt attempts outside,
        fun ended => absurd resumed ended, settled.once⟩
      rw [settled.counters, kept, outside.countersOf, counted, attemptsOf_of_attempt outside,
        List.length_cons, Nat.add_right_comm, Nat.add_assoc]
      rfl

theorem Meets.concluded {calls : Nat → Prop} (discreet : environment.Discreet calls)
    {budget : Nat} {before : World σ} {recorded : List Failure}
    {reports : List (World σ × World σ)} {fate : Fate α}
    {result : EStateM.Result Failure (World σ) (Option α)}
    (meets : Meets environment call kind operation arguments budget before recorded reports fate
      result)
    {failure raised : Failure} (worded : failure.isWorded = true)
    (ends : fate = .failed failure (.rejected raised) ∨
      fate = .failed failure (.exhausted raised)) :
    raised = failure := by
  induction meets with
  | failed runs ordinary exits leaves =>
      rcases ends with equal | equal
      · cases equal
        exact discreet.concluded worded exits (.inl rfl)
      · cases equal
        exact discreet.concluded worded exits (.inr rfl)
  | again runs ordinary exits rest induction => exact induction ends
  | _ => rcases ends with equal | equal <;> cases equal

/-! ## Runs -/

end Environment

namespace Environment

open World Reattempt.Action

/-! ## A listener that raises failures -/

namespace Grumbling

def environment : Environment Unit where
  interval _ _ := .answer Backoff.defaultDelay
  predicate _ _ := .answer true
  listener _ _ _ := .raise (.ofMessage (.given 1) .value "not again")
  wait _ _ := .answer ()
  draw _ _ := .answer 0.0
  depth := 0

def operation (_ : Arguments) : Behaviour Unit Nat :=
  .raise (.ofMessage (.given 0) .connection "unreachable")

def policy : Policy where
  number := 0
  name := "backend"
  shared := { number := 0, config := .default }
  publisher := 0
  sleeps := false

def world : World Unit where
  tables := OrderedMap.empty.set 0 (ListenerTable.empty.registerAll EventKind.all "grumbler")
  memory := ()

theorem discreet (calls : Nat → Prop) : environment.Discreet calls := by
  intro publisher listener event
  exact Failure.isReportable_ofMessage (by decide) _ _

end Grumbling

namespace Grumbling

def unspeakable : Failure where
  identity := .given 1
  type := .value
  content := .arguments [.whole Scalar.writableBound]

def unspoken : Environment Unit :=
  { environment with listener := fun _ _ _ => .raise unspeakable }

def failingOnce (_ : Arguments) : Behaviour Unit Nat :=
  .look fun situation _ =>
    if (situation.progressOf 0).attempts = 0 then
      .raise (.ofMessage (.given 0) .connection "unreachable")
    else .answer 7

def hopeful : World Unit :=
  { world with tables := OrderedMap.empty.set 0 (ListenerTable.empty.register .success "grumbler") }

def belated : Environment Unit :=
  { environment with listener := fun _ _ _ => .cancel 0 (.answer ()) }

end Grumbling

end Environment

end Reattempt
