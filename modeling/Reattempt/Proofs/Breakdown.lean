import Reattempt.Proofs.Aloof
import Reattempt.Proofs.Cancelled
import Reattempt.Proofs.Fate
import Reattempt.Proofs.Quotient
import Reattempt.Proofs.Reserved

/-! Reports that break down. The caller's code may raise a failure when it classifies the
failure that is reported, when it computes the interval and when it sleeps, and an interval
may be too large to be written into the log. The report ends there. What was done before is
not undone, and nothing else is done. -/

namespace Reattempt

variable {σ α : Type}

/-- Only a whole number beyond the doubles cannot be written. -/
theorem Scalar.fixedText_eq_error_iff {value : Scalar} {fault : ArithmeticFault} :
    value.fixedText = .error fault ↔
      fault = .wholeTooLarge ∧
        ∃ number, value = .whole number ∧ Binary64.overflowBound ≤ number.natAbs := by
  cases value with
  | real value => simp [fixedText, toReal, bind, Except.bind, pure, Except.pure]
  | whole value =>
      have converts : (Scalar.whole value).fixedText = .error fault ↔
          (Scalar.whole value).toReal = .error fault := by
        rw [fixedText]
        cases (Scalar.whole value).toReal <;> simp [bind, Except.bind, pure, Except.pure]
      rw [converts, toReal_whole_eq_error_iff]
      simp

/-- Who is not cancelled any more than before is the same. -/
theorem Progress.heed_eq_self {progress : Progress} {cancelled : Bool}
    (same : (progress.heed cancelled).cancelled = progress.cancelled) :
    progress.heed cancelled = progress := by
  cases cancelled with
  | false => rfl
  | true =>
      have already : true = progress.cancelled := same
      rw [heed, if_pos rfl, cancel, already]

/-! ## Breakdowns -/

inductive Breakdown where
  | classifying
  | computing
  | writing (interval : Scalar)
  | sleeping (interval : Scalar)

namespace Breakdown

def counts : Breakdown → Bool
  | .classifying => false
  | .computing | .writing _ | .sleeping _ => true

def leave (failure : Failure) (progress : Progress) (breakdown : Breakdown) : Progress :=
  if breakdown.counts then
    { progress with
      attempts := progress.attempts + 1
      lastFailure := some failure
      phase := .waiting }
  else progress

@[simp] theorem cancelled_leave (failure : Failure) (progress : Progress)
    (breakdown : Breakdown) :
    (breakdown.leave failure progress).cancelled = progress.cancelled := by
  rw [leave]
  split <;> rfl

def announcement (call : Call) (failure : Failure) (number : Nat) (heard : Bool) :
    Breakdown → List Event
  | .sleeping interval =>
      if heard then [call.event (.retry interval) number (some failure)] else []
  | .classifying | .computing | .writing _ => []

def steps (call : Call) (failure : Failure) (number : Nat) (heard : Bool) :
    Breakdown → List CallStep
  | .classifying => []
  | .computing | .writing _ => [.classified (some failure) true, .intervalAsked number]
  | .sleeping interval =>
      [.classified (some failure) true, .intervalAsked number] ++
        ((Breakdown.sleeping interval).announcement call failure number heard).map .announced ++
        [.waitBegun .sleeping interval]

def exit (raised : Failure) : Breakdown → Exit
  | .classifying => .unclassified raised
  | .computing | .writing _ => .unplanned raised
  | .sleeping interval => .waited interval (.escaped raised)

private theorem counts_exit (raised : Failure) (breakdown : Breakdown) :
    (breakdown.exit raised).counts = breakdown.counts := by
  cases breakdown <;> rfl

private theorem advance_exit {limit : AttemptLimit} {failure raised : Failure} {kind : WaitKind}
    {progress : Progress} {breakdown : Breakdown}
    (allowed : breakdown.counts = true → limit.isReached (progress.attempts + 1) = false)
    (sleeps : ∀ {interval}, breakdown = .sleeping interval → kind = .sleeping) :
    (breakdown.exit raised).advance failure limit kind progress =
      breakdown.leave failure progress := by
  have counted (counts : breakdown.counts = true) : progress.count limit (some failure) =
      breakdown.leave failure progress := by
    rw [Progress.count, leave, counts, allowed counts]
    rfl
  cases breakdown with
  | classifying => rfl
  | computing => exact counted rfl
  | writing interval => exact counted rfl
  | sleeping interval =>
      cases sleeps rfl
      exact counted rfl

/-- The code of the caller that is asked before the breakdown, or that sleeps, keeps to itself.
What listeners do is left open. -/
def Aloof (environment : Environment σ) (call : Call) (failure : Failure) : Breakdown → Prop
  | .classifying =>
      (environment.isRetryable call.policy.config (some failure)).Keeps World.Aside
  | .computing | .writing _ =>
      (environment.isRetryable call.policy.config (some failure)).Keeps World.Aside ∧
        ∀ attempt : Nat, (environment.delay call.policy.config.interval attempt).Keeps World.Aside
  | .sleeping interval =>
      (environment.isRetryable call.policy.config (some failure)).Keeps World.Aside ∧
        (∀ attempt : Nat,
          (environment.delay call.policy.config.interval attempt).Keeps World.Aside) ∧
        (environment.run (environment.wait .sleeping interval)).Keeps World.Aside

theorem aloof_of_environment {environment : Environment σ} (aloof : environment.Aloof)
    (call : Call) (failure : Failure) (breakdown : Breakdown) :
    breakdown.Aloof environment call failure := by
  have judges := aloof.isRetryable call.policy.config (some failure)
  have asks (attempt : Nat) := aloof.delay call.policy.config.interval attempt
  cases breakdown with
  | classifying => exact judges
  | computing => exact ⟨judges, asks⟩
  | writing interval => exact ⟨judges, asks⟩
  | sleeping interval => exact ⟨judges, asks, aloof.sleep _ interval⟩

end Breakdown

namespace Environment

open World Reattempt.Action

/-- A report breaks down in the last world with the failure that is raised there. -/
inductive BreaksDown (environment : Environment σ) (call : Call) (kind : WaitKind)
    (failure : Failure) (before : World σ) : Breakdown → Failure → World σ → Prop
  | classifying {function : Callable} {raised : Failure} {stopped : World σ}
      (passes : call.policy.config.allows (some failure) = true)
      (custom : call.policy.config.predicate = .custom function)
      (raises : environment.run (environment.predicate function (some failure)) before =
        .error raised stopped) :
      BreaksDown environment call kind failure before .classifying raised stopped
  | computing {judged stopped : World σ} {raised : Failure}
      (asked : environment.isRetryable call.policy.config (some failure) before = .ok true judged)
      (allowed : call.policy.config.limit.isReached (before.attemptsOf call + 1) = false)
      (raises : environment.delay call.policy.config.interval (before.attemptsOf call + 1 : Nat)
        ((judged.counting call (some failure)).note call
          (.intervalAsked (before.attemptsOf call + 1))) = .error raised stopped) :
      BreaksDown environment call kind failure before .computing raised stopped
  | writing {judged computed : World σ} {interval : Scalar} {fault : ArithmeticFault}
      (asked : environment.isRetryable call.policy.config (some failure) before = .ok true judged)
      (allowed : call.policy.config.limit.isReached (before.attemptsOf call + 1) = false)
      (computes : environment.delay call.policy.config.interval (before.attemptsOf call + 1 : Nat)
        ((judged.counting call (some failure)).note call
          (.intervalAsked (before.attemptsOf call + 1))) = .ok interval computed)
      (unwritten : interval.fixedText = .error fault) :
      BreaksDown environment call kind failure before (.writing interval)
        (fault.toFailure (.made computed.failures))
        (computed.relinking (computed.failures + 1) computed.links)
  /-- The sleep function of the caller raises a failure that is no interruption. -/
  | sleeping {planned stopped : World σ} {interval : Scalar} {raised : Failure}
      (custom : kind = .sleeping)
      (records : environment.recordFailure call (some failure) before = .ok interval planned)
      (uncancelled : (planned.progressOf call.number).cancelled = false)
      (raises : environment.run (environment.wait .sleeping interval)
        (planned.note call (.waitBegun .sleeping interval)) = .error raised stopped)
      (uninterrupted : raised.isA .waitInterrupted = false ∧ raised.isA .interrupted = false) :
      BreaksDown environment call kind failure before (.sleeping interval) raised stopped

theorem announced_of_recordFailure {environment : Environment σ} {call : Call} {failure : Failure}
    {before planned : World σ} {interval : Scalar}
    (records : environment.recordFailure call (some failure) before = .ok interval planned) :
    ∃ judged computed entry,
      environment.isRetryable call.policy.config (some failure) before = .ok true judged ∧
      environment.delay call.policy.config.interval (before.attemptsOf call + 1 : Nat)
        ((judged.counting call (some failure)).note call
          (.intervalAsked (before.attemptsOf call + 1))) = .ok interval computed ∧
      environment.announce call (.retry interval) (before.attemptsOf call + 1) (some failure)
        (computed.observe (.logged entry)) = .ok () planned := by
  have recording := environment.recording_recordFailure call (some failure) before
  rw [records] at recording
  cases recording with
  | planned asked allowed planning =>
      rw [attemptsOf_eq_of_outside (outside_of_isRetryable asked)] at planning
      cases planning with
      | announced computes written announces => exact ⟨_, _, _, asked, computes, announces⟩

theorem Reserves.deliveriesOf_announce {environment : Environment σ} {call : Call}
    {expected : σ → Prop} (reserves : environment.Reserves call.policy.publisher expected)
    {detail : EventDetail} {kind : EventKind} (known : detail.kind? = some kind) {attempts : Nat}
    {failure : Option Failure} {before after : World σ} (memory : expected before.memory)
    (announces : environment.announce call detail attempts failure before = .ok () after) :
    after.deliveriesOf call.policy.publisher = before.deliveriesOf call.policy.publisher ++
      ((before.listenersOf call.policy.publisher).listeners kind).map fun listener =>
        (listener, call.event detail attempts failure) := by
  have event : (call.event detail attempts failure).kind? = some kind := known
  cases heard : before.hears call (call.event detail attempts failure) with
  | false =>
      rw [environment.announce_of_unheard call heard] at announces
      cases announces
      rw [hears, event] at heard
      have nobody : (before.listenersOf call.policy.publisher).listeners kind = [] := by
        simpa [ListenerTable.hasListeners] using heard
      rw [nobody, List.map_nil, List.append_nil]
  | true =>
      have told : before.announcing call (call.event detail attempts failure) =
          before.note call (.announced (call.event detail attempts failure)) := if_pos heard
      rw [environment.announce_of_heard call heard, told] at announces
      have expecting : expected (before.note call
        (.announced (call.event detail attempts failure))).memory := memory
      rcases reserves.publishes event expecting with ⟨reached, publishes, -, delivered⟩
      rw [publishes] at announces
      cases announces
      rw [delivered, deliveriesOf_note]
      rfl

/-- Classifying a failure and counting it delivers nothing if the caller keeps to itself. -/
theorem deliveriesOf_asking {call : Call} {failure : Option Failure} {before judged : World σ}
    (judges : Aside before judged) (number publisher : Nat) :
    ((judged.counting call failure).note call (.intervalAsked number)).deliveriesOf publisher =
      before.deliveriesOf publisher := by
  rw [← judges.deliveries]
  simp [counting]

namespace BreaksDown

variable {environment : Environment σ} {call : Call} {kind : WaitKind} {failure : Failure}
  {before stopped : World σ} {breakdown : Breakdown} {raised : Failure}

private theorem isRetryable_of_raises {function : Callable}
    (passes : call.policy.config.allows (some failure) = true)
    (custom : call.policy.config.predicate = .custom function)
    (raises : environment.run (environment.predicate function (some failure)) before =
      .error raised stopped) :
    environment.isRetryable call.policy.config (some failure) before = .error raised stopped := by
  rw [isRetryable, if_pos passes, custom]
  exact raises

private theorem interruptedBy_of_uninterrupted
    (uninterrupted : raised.isA .waitInterrupted = false ∧ raised.isA .interrupted = false) :
    WaitKind.sleeping.interruptedBy raised = false := by
  rw [WaitKind.interruptedBy, Failure.interruptsSleep, uninterrupted.1, uninterrupted.2]
  rfl

private theorem passTime_of_raises {interval : Scalar} {planned : World σ}
    (raises : environment.run (environment.wait .sleeping interval)
      (planned.note call (.waitBegun .sleeping interval)) = .error raised stopped) :
    environment.passTime call .sleeping interval (planned.beginning call .sleeping interval) =
      .error raised stopped := by
  have begun : planned.beginning call .sleeping interval =
      planned.note call (.waitBegun .sleeping interval) := rfl
  rw [passTime, bind_apply, begun, raises]

variable (breaks : BreaksDown environment call kind failure before breakdown raised stopped)

include breaks

/-- The call stops with the failure that is raised there, and the world is left as it is. -/
theorem recordAndWait_eq :
    environment.recordAndWait call kind (some failure) before = .error raised stopped := by
  cases breaks with
  | classifying passes custom raises =>
      rw [recordAndWait_apply, recordFailure, bind_apply,
        isRetryable_of_raises passes custom raises]
  | computing asked allowed raises =>
      rw [recordAndWait_apply, environment.recordFailure_of_retryable call asked,
        attemptsOf_eq_of_outside (outside_of_isRetryable asked), proceed, allowed]
      simp only [Bool.false_eq_true, if_false, planWait, bind_apply, step_apply, raises]
  | writing asked allowed computes unwritten =>
      exact recordAndWait_of_unwritten asked allowed computes kind unwritten
  | sleeping custom records uncancelled raises uninterrupted =>
      cases custom
      rename_i planned interval
      have waits := environment.waitBefore_of_uncancelled call .sleeping interval uncancelled
      rw [passTime_of_raises raises] at waits
      simp only [interruptedBy_of_uninterrupted uninterrupted, Bool.false_eq_true, if_false]
        at waits
      rw [recordAndWait_of_recordFailure _ records, waitAndResume, bind_apply, waits]
      rfl

theorem exits :
    Exits environment call kind failure before (breakdown.exit raised) (.error raised stopped) := by
  cases breaks with
  | classifying passes custom raises =>
      exact .unclassified (isRetryable_of_raises passes custom raises)
  | computing asked allowed raises =>
      rw [← attemptsOf_eq_of_outside (outside_of_isRetryable asked)] at allowed raises
      exact .unplanned asked allowed (.uncomputed raises)
  | writing asked allowed computes unwritten =>
      rw [← attemptsOf_eq_of_outside (outside_of_isRetryable asked)] at allowed computes
      exact .unplanned asked allowed (.unwritten computes unwritten)
  | sleeping custom records uncancelled raises uninterrupted =>
      cases custom
      have recording := environment.recording_recordFailure call (some failure) before
      rw [records] at recording
      cases recording with
      | planned asked allowed planning =>
          have escapes := interruptedBy_of_uninterrupted uninterrupted
          have passes := passTime_of_raises raises
          exact .waited asked allowed planning records (.escaped uncancelled passes escapes)

theorem sleeps {interval : Scalar} (sleeping : breakdown = .sleeping interval) :
    kind = .sleeping := by
  subst sleeping
  cases breaks with
  | sleeping custom records uncancelled raises uninterrupted => exact custom

theorem progress : ∃ cancelled, stopped.progressOf call.number =
    (breakdown.leave failure (before.progressOf call.number)).heed cancelled := by
  have allowed (counts : breakdown.counts = true) :
      call.policy.config.limit.isReached (before.attemptsOf call + 1) = false := by
    rw [breaks.exits.reached_eq (by rw [Breakdown.counts_exit, counts])]
    cases breakdown <;> rfl
  rcases breaks.exits.progress with ⟨cancelled, equal⟩
  rw [Breakdown.advance_exit allowed breaks.sleeps] at equal
  exact ⟨cancelled, equal⟩

theorem leads : ∃ heard,
    ((before.listenersOf call.policy.publisher).hasListeners (some .retry) = true →
      heard = true) ∧
    Leads call id (breakdown.steps call failure (before.attemptsOf call + 1) heard) before
      stopped := by
  have asking {judged : World σ}
      (asked : environment.isRetryable call.policy.config (some failure) before =
        .ok true judged) :
      Leads call id [.classified (some failure) true, .intervalAsked (before.attemptsOf call + 1)]
        before ((judged.counting call (some failure)).note call
          (.intervalAsked (before.attemptsOf call + 1))) := by
    have judges : Leads call id [] before judged := Leads.outside (outside_of_isRetryable asked)
    exact (judges.trans (Leads.counting (some failure))).trans (Leads.note _)
  cases breaks with
  | classifying passes custom raises =>
      exact ⟨true, fun _ => rfl, Leads.outside ((environment.keeps_run _).of_error raises)⟩
  | computing asked allowed raises =>
      have computes := (environment.keeps_delay _ _).of_error raises
      exact ⟨true, fun _ => rfl, (asking asked).trans_outside computes⟩
  | writing asked allowed computes unwritten =>
      have written := (outside_of_delay computes).trans (Outside.newIdentity _)
      exact ⟨true, fun _ => rfl, (asking asked).trans_outside written⟩
  | sleeping custom records uncancelled raises uninterrupted =>
      -- Whether the event is announced is decided when the interval is computed; somebody who
      -- listened before listens then as well.
      rename_i planned interval
      rcases announced_of_recordFailure records with
        ⟨judged, computed, entry, asked, computes, announces⟩
      have begun := (asking asked).trans_outside (outside_of_delay computes)
      have told := environment.outside_announce call (.retry interval) (before.attemptsOf call + 1)
        (some failure) (computed.observe (.logged entry))
      rw [after_eq_of_ok announces] at told
      have planned := (begun.trans (Leads.logged entry)).trans
        ((Leads.announcing _).trans_outside told)
      have slept := (planned.trans (Leads.note (.waitBegun .sleeping interval))).trans_outside
        ((environment.keeps_run _).of_error raises)
      refine ⟨computed.hears call (call.event (.retry interval) (before.attemptsOf call + 1)
        (some failure)), begun.listening, ?_⟩
      rw [announcement_observe, World.announcement] at slept
      rw [Breakdown.steps, Breakdown.announcement]
      split
      · next heard => simpa [heard] using slept
      · next unheard => simpa [unheard] using slept

theorem unwritten_eq {interval : Scalar} (writing : breakdown = .writing interval) :
    raised.isA .overflow = true ∧
      raised.text = .ok ArithmeticFault.wholeTooLarge.message ∧
      ∃ number, interval = .whole number ∧ Binary64.overflowBound ≤ number.natAbs := by
  subst writing
  cases breaks with
  | writing asked allowed computes unwritten =>
      rcases Scalar.fixedText_eq_error_iff.mp unwritten with ⟨rfl, number, equal, large⟩
      exact ⟨rfl, ArithmeticFault.text_toFailure _ _, number, equal, large⟩

theorem cancelled_eq (aloof : breakdown.Aloof environment call failure) :
    (stopped.progressOf call.number).cancelled = (before.progressOf call.number).cancelled := by
  have asking {judged : World σ} (judges : Aside before judged) (number : Nat) :
      (((judged.counting call (some failure)).note call (.intervalAsked number)).progressOf
        call.number).cancelled = (before.progressOf call.number).cancelled := by
    rw [progressOf_note, progressOf_counting, Progress.cancelled_count, judges.progressOf]
  cases breaks with
  | classifying passes custom raises =>
      have judges := aloof.of_error (isRetryable_of_raises passes custom raises)
      rw [judges.progressOf]
  | computing asked allowed raises =>
      rcases aloof with ⟨judges, asks⟩
      rw [((asks _).of_error raises).progressOf, asking (judges.of_ok asked)]
  | writing asked allowed computes unwritten =>
      rcases aloof with ⟨judges, asks⟩
      rw [← asking (judges.of_ok asked), ← ((asks _).of_ok computes).progressOf]
      rfl
  | sleeping custom records uncancelled raises uninterrupted =>
      rcases aloof with ⟨-, -, sleeps⟩
      -- Listeners may have cancelled the call, but then it would not have begun to sleep.
      have stays := (environment.staysCancelled_recordFailure call (some failure)).of_ok records
      rw [(sleeps.of_error raises).progressOf, progressOf_note, uncancelled]
      cases cancelled : (before.progressOf call.number).cancelled with
      | false => rfl
      | true =>
          rw [stays cancelled] at uncancelled
          exact uncancelled.symm

theorem deliveries_eq (aloof : breakdown.Aloof environment call failure)
    (awake : ∀ interval, breakdown ≠ .sleeping interval) (publisher : Nat) :
    stopped.deliveriesOf publisher = before.deliveriesOf publisher := by
  cases breaks with
  | classifying passes custom raises =>
      have judges := aloof.of_error (isRetryable_of_raises passes custom raises)
      exact judges.deliveries publisher
  | computing asked allowed raises =>
      rcases aloof with ⟨judges, asks⟩
      rw [((asks _).of_error raises).deliveries, deliveriesOf_asking (judges.of_ok asked)]
  | writing asked allowed computes unwritten =>
      rcases aloof with ⟨judges, asks⟩
      rw [← deliveriesOf_asking (judges.of_ok asked) _ publisher,
        ← ((asks _).of_ok computes).deliveries]
      rfl
  | sleeping => exact absurd rfl (awake _)

/-- If only the engine publishes for the policy, each of its listeners receives the events that
the call announces, once and in turn. -/
theorem deliveries_announcement (aloof : breakdown.Aloof environment call failure)
    (reserves : environment.Reserves call.policy.publisher fun _ => True) :
    stopped.deliveriesOf call.policy.publisher = before.deliveriesOf call.policy.publisher ++
      (breakdown.announcement call failure (before.attemptsOf call + 1) true).flatMap fun event =>
        ((before.listenersOf call.policy.publisher).listeners .retry).map fun listener =>
          (listener, event) := by
  have silent (awake : ∀ interval, breakdown ≠ .sleeping interval) :
      stopped.deliveriesOf call.policy.publisher =
        before.deliveriesOf call.policy.publisher ++ [] := by
    rw [breaks.deliveries_eq aloof awake, List.append_nil]
  cases breaks with
  | classifying => exact silent nofun
  | computing => exact silent nofun
  | writing => exact silent nofun
  | sleeping custom records uncancelled raises uninterrupted =>
      rcases aloof with ⟨judges, asks, sleeps⟩
      rcases announced_of_recordFailure records with
        ⟨judged, computed, entry, asked, computes, announces⟩
      have judgement := judges.of_ok asked
      have computation := (asks _).of_ok computes
      have listeners : (computed.observe (.logged entry)).listenersOf call.policy.publisher =
          before.listenersOf call.policy.publisher :=
        (computation.listenersOf _).trans (judgement.listenersOf _)
      have deliveries : (computed.observe (.logged entry)).deliveriesOf call.policy.publisher =
          before.deliveriesOf call.policy.publisher := by
        rw [deliveriesOf_logged, computation.deliveries, deliveriesOf_asking judgement]
      have known (interval : Scalar) : (EventDetail.retry interval).kind? = some .retry := rfl
      rw [(sleeps.of_error raises).deliveries, deliveriesOf_note,
        reserves.deliveriesOf_announce (known _) trivial announces, deliveries, listeners]
      simp [Breakdown.announcement]

theorem counts_next {later judged : World σ} {next : Failure}
    (meanwhile : ∃ cancelled,
      later.progressOf call.number = (stopped.progressOf call.number).heed cancelled)
    (asked : environment.isRetryable call.policy.config (some next) later = .ok true judged)
    (nextKind : WaitKind) :
    let after := (environment.onFailure call nextKind (some next)).after later
    after.attemptsOf call = before.attemptsOf call + (if breakdown.counts then 2 else 1) ∧
      (after.progressOf call.number).lastFailure = some next := by
  rcases exists_exits_perform environment call nextKind next later with
    ⟨exit, failures, exits, left⟩
  have counted : exit.counted next = [next] := by
    rw [← exits.counted_eq, countedBy, asked]
  have attempts := exits.attempts_eq
  have last := exits.lastFailure_eq counted
  rw [perform] at left
  dsimp only
  rw [left]
  rcases meanwhile with ⟨heeded, same⟩
  rcases breaks.progress with ⟨cancelled, left⟩
  have kept : later.attemptsOf call =
      (breakdown.leave failure (before.progressOf call.number)).attempts := by
    rw [attemptsOf, same, left, Progress.attempts_heed, Progress.attempts_heed]
  refine ⟨?_, last⟩
  rw [counted, kept, Breakdown.leave] at attempts
  refine attempts.trans ?_
  rw [attemptsOf]
  split <;> rfl

end BreaksDown

/-! ## Runs -/

/-- A run from a world with a budget reports the failure in the last world. -/
inductive Reporting (environment : Environment σ) (call : Call) (kind : WaitKind)
    (operation : Arguments → Behaviour σ α) (arguments : Arguments) :
    Nat → World σ → Failure → World σ → Prop
  | now {budget : Nat} {before failed : World σ} {failure : Failure}
      (runs : environment.run (operation arguments) (before.note call (.attempted arguments)) =
        .error failure failed)
      (ordinary : failure.isA .ordinary = true) :
      Reporting environment call kind operation arguments (budget + 1) before failure failed
  | later {budget : Nat} {before failed next reached : World σ} {failure reported : Failure}
      (runs : environment.run (operation arguments) (before.note call (.attempted arguments)) =
        .error failure failed)
      (ordinary : failure.isA .ordinary = true)
      (reports : environment.onFailure call kind (some failure) failed = .ok () next)
      (rest : Reporting environment call kind operation arguments budget next reported reached) :
      Reporting environment call kind operation arguments (budget + 1) before reported reached

/-- A report that raises a failure ends its run, whichever attempt it is. -/
theorem Reporting.attemptWithin_eq {environment : Environment σ} {call : Call} {kind : WaitKind}
    {operation : Arguments → Behaviour σ α} {arguments : Arguments} {budget : Nat}
    {start failed stopped : World σ} {failure raised : Failure}
    (reporting : Reporting environment call kind operation arguments budget start failure failed)
    (waits : environment.recordAndWait call kind (some failure) failed = .error raised stopped) :
    environment.attemptWithin call kind operation arguments budget start =
      kind.enclose (throw raised) stopped := by
  induction reporting with
  | now runs ordinary => exact attemptWithin_of_recordAndWait runs ordinary waits _
  | later runs ordinary resumes rest induction =>
      rw [attemptWithin_succ, runs]
      simp only [if_pos ordinary, resumes]
      exact induction waits

/-! ## What is left behind -/

/-- What a report that breaks down leaves behind. -/
structure LeavesBehind (environment : Environment σ) (call : Call) (kind : WaitKind)
    (failure : Failure) (before : World σ) (breakdown : Breakdown) (raised : Failure)
    (stopped : World σ) : Prop where
  /-- What was raised leaves the call, and whoever raised it was the last to touch the world. -/
  ends : environment.onFailure call kind (some failure) before = kind.enclose (throw raised) stopped
  /-- Only the caller's code may have cancelled the call. -/
  progress : ∃ cancelled, stopped.progressOf call.number =
    (breakdown.leave failure (before.progressOf call.number)).heed cancelled
  counters : ∀ policy, stopped.countersOf policy = before.countersOf policy
  steps : ∃ heard,
    ((before.listenersOf call.policy.publisher).hasListeners (some .retry) = true →
      heard = true) ∧
    stopped.stepsOf call.number = before.stepsOf call.number ++
      breakdown.steps call failure (before.attemptsOf call + 1) heard
  unwritten : ∀ {interval}, breakdown = .writing interval →
    raised.isA .overflow = true ∧ raised.text = .ok ArithmeticFault.wholeTooLarge.message ∧
      ∃ number, interval = .whole number ∧ Binary64.overflowBound ≤ number.natAbs
  definite : breakdown.Aloof environment call failure →
    stopped.progressOf call.number = breakdown.leave failure (before.progressOf call.number)
  undelivered : breakdown.Aloof environment call failure →
    (∀ interval, breakdown ≠ .sleeping interval) →
    ∀ publisher, stopped.deliveriesOf publisher = before.deliveriesOf publisher
  delivered : breakdown.Aloof environment call failure →
    environment.Reserves call.policy.publisher (fun _ => True) →
    stopped.deliveriesOf call.policy.publisher = before.deliveriesOf call.policy.publisher ++
      (breakdown.announcement call failure (before.attemptsOf call + 1) true).flatMap fun event =>
        ((before.listenersOf call.policy.publisher).listeners .retry).map fun listener =>
          (listener, event)
  /-- The operation is not attempted any more. -/
  run : ∀ {α : Type} {operation : Arguments → Behaviour σ α} {arguments budget start},
    Reporting environment call kind operation arguments budget start failure before →
      environment.attemptWithin call kind operation arguments budget start =
        kind.enclose (throw raised) stopped
  /-- If the call is used again, it counts on from there. -/
  next : ∀ {later judged other},
    (∃ cancelled,
      later.progressOf call.number = (stopped.progressOf call.number).heed cancelled) →
    environment.isRetryable call.policy.config (some other) later = .ok true judged →
    ∀ otherKind, let after := (environment.onFailure call otherKind (some other)).after later
      after.attemptsOf call = before.attemptsOf call + (if breakdown.counts then 2 else 1) ∧
        (after.progressOf call.number).lastFailure = some other

/-- Wherever a report breaks down, it leaves a definite part of itself behind: what was done
before stays, and nothing else is done. -/
theorem leavesBehind_of_breaksDown {environment : Environment σ} {call : Call} {kind : WaitKind}
    {failure : Failure} {before stopped : World σ} {breakdown : Breakdown} {raised : Failure}
    (breaks : BreaksDown environment call kind failure before breakdown raised stopped) :
    LeavesBehind environment call kind failure before breakdown raised stopped where
  ends := environment.onFailure_of_error call breaks.recordAndWait_eq
  progress := breaks.progress
  counters policy := by
    rcases breaks.leads with ⟨heard, -, leads⟩
    by_cases own : policy = call.policy.number
    · rw [own]
      exact leads.counters
    · exact leads.others own
  steps := by
    rcases breaks.leads with ⟨heard, listening, leads⟩
    exact ⟨heard, listening, leads.steps⟩
  unwritten := breaks.unwritten_eq
  definite aloof := by
    rcases breaks.progress with ⟨cancelled, equal⟩
    have same := breaks.cancelled_eq aloof
    rw [← Breakdown.cancelled_leave failure (before.progressOf call.number) breakdown, equal]
      at same
    rw [equal, Progress.heed_eq_self same]
  undelivered := breaks.deliveries_eq
  delivered := breaks.deliveries_announcement
  run reporting := reporting.attemptWithin_eq breaks.recordAndWait_eq
  next meanwhile asked := breaks.counts_next meanwhile asked

/-! ## A sleep function that raises a failure -/

namespace Sleepless

def unreachable : Failure := .ofMessage (.given 0) .connection "unreachable"

def cannotSleep : Failure := .ofMessage (.given 1) .value "cannot sleep"

def environment : Environment Unit where
  interval _ _ := .answer Backoff.defaultDelay
  predicate _ _ := .answer true
  listener _ _ _ := .answer ()
  wait _ _ := .raise cannotSleep
  draw _ _ := .answer 0.0
  depth := 0

def call : Call where
  number := 0
  policy :=
    { number := 0
      name := "backend"
      shared := { number := 0, config := .default }
      publisher := 0
      sleeps := true }

def world : World Unit where
  tables := OrderedMap.empty.set 0 (ListenerTable.empty.registerAll EventKind.all "auditor")
  memory := ()

theorem aloof : environment.Aloof where
  predicate _ _ := trivial
  interval _ _ := trivial
  draw _ _ := trivial
  wait _ _ := trivial

theorem reserves : environment.Reserves 0 fun _ => True where
  interval _ _ := trivial
  predicate _ _ := trivial
  wait _ _ := trivial
  lag _ := trivial
  draw _ _ := trivial
  listener _ _ _ := trivial

end Sleepless

theorem leavesBehind_of_breaksDown_sleepless :
    ∃ stopped,
      Sleepless.environment.onFailure Sleepless.call .sleeping (some Sleepless.unreachable)
        Sleepless.world = .error Sleepless.cannotSleep stopped ∧
      stopped.progressOf 0 =
        { attempts := 1, lastFailure := some Sleepless.unreachable, phase := .waiting } ∧
      stopped.deliveriesOf 0 = [("auditor", Sleepless.call.event (.retry Backoff.defaultDelay) 1
        (some Sleepless.unreachable))] := by
  have records : Sleepless.environment.recordFailure Sleepless.call (some Sleepless.unreachable)
      Sleepless.world = .ok Backoff.defaultDelay
        ((Sleepless.environment.recordFailure Sleepless.call
          (some Sleepless.unreachable)).after Sleepless.world) := rfl
  have left := leavesBehind_of_breaksDown (BreaksDown.sleeping rfl records rfl rfl ⟨rfl, rfl⟩)
  have aloof := Breakdown.aloof_of_environment Sleepless.aloof Sleepless.call
    Sleepless.unreachable (.sleeping Backoff.defaultDelay)
  exact ⟨_, left.ends, left.definite aloof, left.delivered aloof Sleepless.reserves⟩

namespace Sleepless

def forgery : Event where
  detail := .ignoredError
  policyName := "backend"
  attempts := 1
  lastFailure := none

def echoing : Environment Unit :=
  { environment with
    listener := fun _ listener _ =>
      if listener = "echo" then .publish 0 forgery (.answer ()) else .answer ()
    depth := 1 }

def crowd : World Unit :=
  { world with
    tables := OrderedMap.empty.set 0
      ((ListenerTable.empty.registerAll EventKind.all "auditor").register .retry "echo") }

end Sleepless

/-- A listener that publishes events itself makes others hear of more than the retry. -/
theorem received_forgery_sleepless :
    ∃ stopped,
      Sleepless.echoing.onFailure Sleepless.call .sleeping (some Sleepless.unreachable)
        Sleepless.crowd = .error Sleepless.cannotSleep stopped ∧
      stopped.received 0 "auditor" .retry = 1 ∧
      stopped.received 0 "auditor" .ignoredError = 1 :=
  ⟨_, rfl, by decide, by decide⟩

end Environment

end Reattempt
