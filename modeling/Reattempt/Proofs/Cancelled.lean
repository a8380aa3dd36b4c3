import Reattempt.Proofs.Discipline
import Reattempt.Proofs.Interruption

/-! Reports to a cancelled call. They always raise a failure and never begin a wait, but the
failure is classified, counted and announced like any other before. -/

namespace Reattempt

variable {σ α : Type}

/-- The failure was raised in place of a text that cannot be written. -/
def Failure.IsRefusal (failure : Failure) : Prop :=
  ∃ refusal number, failure = Refusal.toFailure (.made number) refusal

namespace CallStep

/-- No wait begins among the steps, and there are at most so many attempts. -/
structure Quiet (attempts : Nat) (steps : List CallStep) : Prop where
  waits : ∀ kind interval, .waitBegun kind interval ∉ steps
  attempts : attemptsIn steps ≤ attempts

theorem Quiet.append {first second : Nat} {earlier later : List CallStep}
    (begun : Quiet first earlier) (ended : Quiet second later) :
    Quiet (first + second) (earlier ++ later) where
  waits kind interval member := by
    rcases List.mem_append.mp member with member | member
    · exact begun.waits kind interval member
    · exact ended.waits kind interval member
  attempts := by
    rw [attemptsIn_append]
    exact Nat.add_le_add begun.attempts ended.attempts

theorem quiet_nil : Quiet 0 [] :=
  ⟨nofun, Nat.le_refl 0⟩

theorem Quiet.mono {attempts more : Nat} {steps : List CallStep} (quiet : Quiet attempts steps)
    (le : attempts ≤ more) : Quiet more steps :=
  ⟨quiet.waits, Nat.le_trans quiet.attempts le⟩

end CallStep

namespace World

def StaysCancelled (call : Nat) (before after : World σ) : Prop :=
  (before.progressOf call).cancelled = true → (after.progressOf call).cancelled = true

variable {call : Nat} {before after : World σ}

instance : IsPreorder (World σ) (StaysCancelled call) where
  refl _ := id
  trans _ _ _ begun ended cancelled := ended (begun cancelled)

theorem StaysCancelled.of_outside (outside : before.Outside after) :
    StaysCancelled call before after := by
  intro cancelled
  rcases outside.heeds call with ⟨again, equal⟩
  rw [equal, Progress.cancelled_heed, cancelled, Bool.true_or]

theorem staysCancelled_changeProgress {change : Progress → Progress}
    (kept : ∀ progress, (change progress).cancelled = progress.cancelled) (world : World σ) :
    StaysCancelled call world (world.changeProgress call change) := by
  intro cancelled
  rw [progressOf_changeProgress_self, kept]
  exact cancelled

end World

namespace Environment

open World Reattempt.Action CallStep

variable {environment : Environment σ} {call : Call} {kind : WaitKind} {failure : Failure}

theorem staysCancelled_recordFailure (environment : Environment σ) (call : Call)
    (failure : Option Failure) :
    (environment.recordFailure call failure).Keeps (StaysCancelled call.number) := by
  have spared {α : Type} {action : Action σ α} (outside : action.Keeps Outside) :
      action.Keeps (StaysCancelled call.number) :=
    fun world => .of_outside (outside world)
  have ignores : IgnoresReports environment call (StaysCancelled (σ := σ) call.number) :=
    { observe := fun _ _ => id
      counting := fun _ failure => staysCancelled_changeProgress
        (fun progress => progress.cancelled_count call.policy.config.limit failure) _
      rejecting := staysCancelled_changeProgress fun _ => rfl
      succeeding := staysCancelled_changeProgress fun _ => rfl
      changeCounters := fun _ _ => id
      newIdentity := fun _ => id
      publishes := fun event => spared (environment.keeps_publish _ event) }
  exact ignores.keeps_recordFailure (spared (environment.keeps_isRetryable _ _))
    fun _ => spared (environment.keeps_delay _ _)

/-! ## What is raised -/

/-- A cancelled call does not begin to wait. -/
theorem Waits.skipped_of_cancelled {interval : Scalar} {before : World σ} {ending : WaitEnding}
    {result : EStateM.Result Failure (World σ) Unit}
    (waits : Waits environment call kind failure interval before ending result)
    (cancelled : (before.progressOf call.number).cancelled = true) :
    Interrupted call failure none false .skipped (before.note call (.waitSkipped kind interval))
      ending result := by
  cases waits with
  | skipped cancelled ends => exact ends
  | interrupted uncancelled => simp [cancelled] at uncancelled
  | escaped uncancelled => simp [cancelled] at uncancelled
  | noticed uncancelled => simp [cancelled] at uncancelled
  | elapsed uncancelled => simp [cancelled] at uncancelled

section Exits

variable {before : World σ} {exit : Exit} {result : EStateM.Result Failure (World σ) Unit}
  (exits : Exits environment call kind failure before exit result)
  (recorded : (((environment.recordFailure call (some failure)).after before).progressOf
    call.number).cancelled = true)

include exits recorded

private theorem Exits.skipped_of_cancelled {interval : Scalar} {ending : WaitEnding}
    (waited : exit = .waited interval ending) :
    ending = .skipped ∨ ∃ raised, ending = .unworded false raised := by
  subst waited
  cases exits with
  | waited asked allowed planning records waits =>
      rw [after_eq_of_ok records] at recorded
      exact (waits.skipped_of_cancelled recorded).ending_eq

theorem Exits.raises_of_cancelled : ∃ raised, exit.outcome failure = .error raised := by
  cases exit with
  | waited interval ending =>
      rcases exits.skipped_of_cancelled recorded rfl with rfl | ⟨raised, rfl⟩
      · exact ⟨failure, rfl⟩
      · exact ⟨raised, rfl⟩
  | _ => exact ⟨_, rfl⟩

theorem Exits.quiet_of_cancelled : ∃ steps,
    (lastWorld result).stepsOf call.number = before.stepsOf call.number ++ steps ∧
      Quiet 0 steps := by
  rcases exits.leads with ⟨steps, leads, acts, -⟩
  have quiet : ∀ step ∈ exit.acts failure kind (before.attemptsOf call + 1),
      step.isAttempt = false ∧ ∀ kind interval, step ≠ .waitBegun kind interval := by
    cases exit with
    | waited interval ending =>
        rcases exits.skipped_of_cancelled recorded rfl with rfl | ⟨raised, rfl⟩ <;>
          simp [Exit.acts, WaitEnding.acts, isAttempt]
    | _ => simp [Exit.acts, isAttempt]
  have among {step : CallStep} (member : step ∈ steps) (isAct : step.isAct = true) :=
    quiet step (acts ▸ List.mem_filter.mpr ⟨member, isAct⟩)
  refine ⟨steps, leads.steps, ?_, Nat.le_of_eq ?_⟩
  · intro kind interval member
    exact (among member rfl).2 kind interval rfl
  · rw [attemptsIn, List.countP_eq_zero]
    intro step member isAttempt
    cases step with
    | attempted arguments => cases (among member rfl).1
    | _ => cases isAttempt

end Exits

/-- The report of a failure to a cancelled call raises a failure, and no wait begins. -/
theorem quiet_onFailure {before : World σ}
    (recorded : (((environment.recordFailure call (some failure)).after before).progressOf
      call.number).cancelled = true) (kind : WaitKind) :
    ∃ raised after steps,
      environment.onFailure call kind (some failure) before = .error raised after ∧
      after.stepsOf call.number = before.stepsOf call.number ++ steps ∧ Quiet 0 steps := by
  rcases exists_exits environment call kind failure before with ⟨exit, exits⟩
  rcases exits.raises_of_cancelled recorded with ⟨raised, outcome⟩
  rcases exits.quiet_of_cancelled recorded with ⟨steps, added, quiet⟩
  have ends := exits.ends
  rw [outcome] at ends
  rcases kind.exists_error_of_enclose ends with ⟨released, failures, reports⟩
  rw [← onFailure_eq] at reports
  exact ⟨released, _, steps, reports, added, quiet⟩

theorem quiet_onSuccess (environment : Environment σ) (call : Call) (before : World σ) :
    ∃ steps, ((environment.onSuccess call).after before).stepsOf call.number =
      before.stepsOf call.number ++ steps ∧ Quiet 0 steps := by
  rcases steps_of_onSuccess environment call before with ⟨announced, success, added⟩
  refine ⟨announced, added, ?_⟩
  rcases success with rfl | ⟨event, known, rfl⟩
  · exact quiet_nil
  · exact ⟨by simp, by simp [isAttempt]⟩

/-! ## What is announced before -/

/-- A failure of several actions one after another is the failure of one of them. -/
theorem forM_error {γ : Type} {items : List γ} {action : γ → Action σ Unit}
    {world after : World σ} {raised : Failure}
    (ends : items.forM action world = .error raised after) :
    ∃ item ∈ items, ∃ middle, action item middle = .error raised after := by
  induction items generalizing world with
  | nil => cases ends
  | cons item rest induction =>
      change (action item >>= fun _ => rest.forM action) world = _ at ends
      rw [bind_apply] at ends
      cases begun : action item world with
      | ok value middle =>
          rw [begun] at ends
          rcases induction ends with ⟨later, member, raises⟩
          exact ⟨later, List.mem_cons_of_mem item member, raises⟩
      | error failure middle =>
          rw [begun] at ends
          cases ends
          exact ⟨item, List.mem_cons_self, world, begun⟩

/-- What a listener raises is reported, unless it is not an ordinary failure or has no text. -/
theorem special_or_isRefusal_of_notify {deliver : Nat → Event → Action σ Unit} {publisher : Nat}
    {event : Event} {eventKind : EventKind} {listener : Listener} {world after : World σ}
    {raised : Failure}
    (notifies : environment.notify deliver publisher event eventKind listener world =
      .error raised after) : raised.isA .ordinary = false ∨ raised.IsRefusal := by
  rw [notify_apply] at notifies
  split at notifies
  · cases notifies
  · split at notifies
    · split at notifies
      · cases notifies
      · cases notifies
        exact .inr ⟨_, _, rfl⟩
    · next special =>
        cases notifies
        exact .inl (Bool.eq_false_iff.mpr special)

theorem special_or_isRefusal_of_announce {detail : EventDetail} {eventKind : EventKind}
    (known : detail.kind? = some eventKind) {attempts : Nat} {last : Option Failure}
    {world after : World σ} {raised : Failure}
    (announces : environment.announce call detail attempts last world = .error raised after) :
    raised.isA .ordinary = false ∨ raised.IsRefusal := by
  have event : (call.event detail attempts last).kind? = some eventKind := known
  cases heard : world.hears call (call.event detail attempts last) with
  | false =>
      rw [environment.announce_of_unheard call heard] at announces
      cases announces
  | true =>
      rw [environment.announce_of_heard call heard] at announces
      simp only [publish, deliverWithin, event, bind_apply, get_apply] at announces
      rcases forM_error announces with ⟨listener, -, middle, notifies⟩
      exact special_or_isRefusal_of_notify notifies

/-- A wait whose interval is computed and written is announced, and its plan fails only if a
listener raises more than an ordinary failure, or one without a text. -/
theorem Planning.announces {number : Nat} {last : Option Failure} {asking computed : World σ}
    {result : EStateM.Result Failure (World σ) Scalar} {interval : Scalar} {shown : String}
    (planning : Planning environment call number last asking result)
    (computes : environment.delay call.policy.config.interval number asking =
      .ok interval computed) (written : interval.fixedText = .ok shown) :
    (lastWorld result).stepsOf call.number = asking.stepsOf call.number ++
        computed.announcement call (call.event (.retry interval) number last) ∧
      match result with
      | .ok planned _ => planned = interval
      | .error raised _ => raised.isA .ordinary = false ∨ raised.IsRefusal := by
  have adds {after : World σ} {entry : LogEntry}
      (announces : (environment.announce call (.retry interval) number last).after
        (computed.observe (.logged entry)) = after) :
      after.stepsOf call.number = asking.stepsOf call.number ++
        computed.announcement call (call.event (.retry interval) number last) := by
    rw [stepsOf_of_announce announces, stepsOf_logged, (outside_of_delay computes).stepsOf,
      announcement_observe]
  cases planning with
  | uncomputed fails =>
      rw [computes] at fails
      cases fails
  | unwritten same unwritten =>
      rw [computes] at same
      cases same
      rw [written] at unwritten
      cases unwritten
  | unannounced same _ announces =>
      rw [computes] at same
      cases same
      exact ⟨adds (after_eq_of_error announces), special_or_isRefusal_of_announce rfl announces⟩
  | announced same _ announces =>
      rw [computes] at same
      cases same
      exact ⟨adds (after_eq_of_ok announces), rfl⟩

/-- A failure comes to the surface of a cancelled call: it is classified, counted and announced,
and then the wait is skipped and the failure raised. Only what a listener raises beyond
ordinary failures is raised in its place, or what is raised because a text cannot be written:
that of a listener's failure or, for the log record of the skipped wait, of this one. -/
structure Surfaces (call : Call) (kind : WaitKind) (failure : Failure) (interval : Scalar)
    (before computed : World σ) (raised : Failure) (after : World σ) : Prop where
  attempts : after.attemptsOf call = before.attemptsOf call + 1
  lastFailure : (after.progressOf call.number).lastFailure = some failure
  heard : before.hears call
      (call.event (.retry interval) (before.attemptsOf call + 1) (some failure)) = true →
    computed.announcement call
        (call.event (.retry interval) (before.attemptsOf call + 1) (some failure)) =
      [.announced (call.event (.retry interval) (before.attemptsOf call + 1) (some failure))]
  steps : ∃ wait,
    after.stepsOf call.number = before.stepsOf call.number ++
      [.classified (some failure) true, .intervalAsked (before.attemptsOf call + 1)] ++
      computed.announcement call
        (call.event (.retry interval) (before.attemptsOf call + 1) (some failure)) ++ wait ∧
    (raised = failure ∧ wait = [.waitSkipped kind interval] ∨
      (raised.isA .ordinary = false ∨ raised.IsRefusal) ∧ wait = [] ∨
      (∃ refusal, failure.shown = .error refusal) ∧ raised.IsRefusal ∧
        wait = [.waitSkipped kind interval])

section Computed

variable {before judged computed : World σ} {interval : Scalar}
  (asked : environment.isRetryable call.policy.config (some failure) before = .ok true judged)
  (allowed : call.policy.config.limit.isReached (before.attemptsOf call + 1) = false)
  (computes : environment.delay call.policy.config.interval (before.attemptsOf call + 1 : Nat)
    ((judged.counting call (some failure)).note call
      (.intervalAsked (before.attemptsOf call + 1))) = .ok interval computed)
  (kind : WaitKind)

include asked allowed computes

/-- Also when the call is cancelled, a failure that is worth another attempt comes to the
surface if its interval is computed and written into the log. -/
theorem surfaces_of_cancelled (cancelled : (before.progressOf call.number).cancelled = true)
    {shown : String} (written : interval.fixedText = .ok shown) :
    ∃ raised after,
      environment.onFailure call kind (some failure) before = kind.enclose (throw raised) after ∧
      Surfaces call kind failure interval before computed raised after := by
  have recorded := environment.staysCancelled_recordFailure call (some failure) before cancelled
  have judges := outside_of_isRetryable asked
  have counted := attemptsOf_eq_of_outside judges call
  have listening {event : Event} (retry : event.kind? = some .retry)
      (heard : before.hears call event = true) :
      computed.announcement call event = [.announced event] := by
    have listens : computed.hears call event = true := by
      rw [hears, retry] at heard ⊢
      exact (outside_of_delay computes).hasListeners (judges.hasListeners heard)
    exact if_pos listens
  rcases exists_exits environment call kind failure before with ⟨exit, exits⟩
  have isCounted : exit.counted failure = [failure] := by
    rw [← exits.counted_eq, countedBy, asked]
  have attempts := exits.attempts_eq
  have lastFailure := exits.lastFailure_eq isCounted
  rw [isCounted, List.length_singleton] at attempts
  suffices records : ∃ raised after,
      environment.recordAndWait call kind (some failure) before = .error raised after ∧
      Surfaces call kind failure interval before computed raised after by
    rcases records with ⟨raised, after, records, surfaces⟩
    refine ⟨raised, after, ?_, surfaces⟩
    rw [onFailure_eq]
    exact WaitKind.enclose_congr records
  generalize environment.recordAndWait call kind (some failure) before = result
    at exits attempts lastFailure ⊢
  -- Two exits are left: a listener stops the report with more than an ordinary failure, or the
  -- wait is skipped.
  cases exits with
  | unclassified otherwise =>
      rw [asked] at otherwise
      cases otherwise
  | rejected otherwise concludes =>
      rw [asked] at otherwise
      cases otherwise
  | exhausted same reached concludes =>
      rw [asked] at same
      cases same
      rw [counted, allowed] at reached
      cases reached
  | unplanned same _ planning =>
      rw [asked] at same
      cases same
      rw [counted] at planning
      rcases planning.announces computes written with ⟨announced, special⟩
      rw [stepsOf_asking asked] at announced
      refine ⟨_, _, rfl, attempts, lastFailure, listening rfl, [], ?_,
        .inr (.inl ⟨special, rfl⟩)⟩
      rw [List.append_nil]
      exact announced
  | waited same _ planning records waits =>
      rw [asked] at same
      cases same
      rw [counted] at planning
      rcases planning.announces computes written with ⟨announced, rfl⟩
      rw [lastWorld, stepsOf_asking asked] at announced
      rw [after_eq_of_ok records] at recorded
      cases waits.skipped_of_cancelled recorded with
      | raised worded =>
          refine ⟨_, _, rfl, attempts, lastFailure, listening rfl, [.waitSkipped kind _], ?_,
            .inl ⟨rfl, rfl⟩⟩
          rw [stepsOf_interrupting, stepsOf_note, announced]
      | unworded refused new =>
          refine ⟨_, _, rfl, attempts, lastFailure, listening rfl, [.waitSkipped kind _], ?_,
            .inr (.inr ⟨⟨_, refused⟩, ⟨_, _, rfl⟩, rfl⟩)⟩
          rw [stepsOf_muting, stepsOf_note, announced]

/-- An interval that cannot be written into the log ends the report. -/
theorem recordAndWait_of_unwritten {fault : ArithmeticFault}
    (unwritten : interval.fixedText = .error fault) :
    environment.recordAndWait call kind (some failure) before =
      .error (fault.toFailure (.made computed.failures))
        (computed.relinking (computed.failures + 1) computed.links) := by
  rw [recordAndWait_apply, environment.recordFailure_of_retryable call asked,
    attemptsOf_eq_of_outside (outside_of_isRetryable asked), proceed, allowed]
  simp only [Bool.false_eq_true, if_false, planWait, bind_apply, step_apply, computes, unwritten,
    calculate_error]
  rfl

/-- An interval that cannot be written into the log is not announced. -/
theorem unannounced_of_unwritten {fault : ArithmeticFault}
    (unwritten : interval.fixedText = .error fault) :
    ∃ identity after, environment.onFailure call kind (some failure) before =
        .error (fault.toFailure identity) after ∧
      after.stepsOf call.number = before.stepsOf call.number ++
        [.classified (some failure) true, .intervalAsked (before.attemptsOf call + 1)] := by
  have reports := WaitKind.enclose_of_error
    (recordAndWait_of_unwritten asked allowed computes kind unwritten)
    (kind.holdsBack_fault _ fault)
  rw [← onFailure_eq] at reports
  refine ⟨_, _, reports, ?_⟩
  rw [stepsOf_relinking, (outside_of_delay computes).stepsOf, stepsOf_asking asked]

end Computed

end Environment

end Reattempt
