import Reattempt.Proofs.Past

/-! The contract of an interrupted wait. The failure that was reported is raised, with an
interruption as its cause; it stays counted, and everything else is left alone. A report
that ends in any other way attaches no cause at all. -/

namespace Reattempt

variable {σ : Type}

theorem WaitKind.interruptedBy_iff (kind : WaitKind) (failure : Failure) :
    kind.interruptedBy failure = true ↔
      kind = .sleeping ∧ (failure.isA .waitInterrupted = true ∨ failure.isA .interrupted = true) ∨
        kind = .suspended ∧ failure.isA .cancelled = true := by
  cases kind with
  | blocking => simp [interruptedBy]
  | sleeping => simp [interruptedBy, Failure.interruptsSleep]
  | suspended =>
      simp only [interruptedBy, Failure.taskEffect, reduceCtorEq, false_and, true_and, false_or]
      split
      · next cancelled => simp [cancelled]
      · next alive => split <;> simp [alive]

namespace Exit

variable {exit : Exit} (interrupted : exit.isInterrupted = true)

include interrupted

theorem waited_of_isInterrupted : ∃ interval ending, exit = .waited interval ending := by
  cases exit with
  | waited interval ending => exact ⟨interval, ending, rfl⟩
  | _ => cases interrupted

theorem phase_of_isInterrupted (failure : Failure) (limit : AttemptLimit) (kind : WaitKind)
    (progress : Progress) :
    (exit.advance failure limit kind progress).phase =
      (progress.count limit (some failure)).phase := by
  cases exit with
  | waited interval ending =>
      cases ending with
      | escaped raised => cases interrupted
      | unworded begun raised => cases interrupted
      | elapsed => cases interrupted
      | _ => cases kind <;> rfl
  | _ => cases interrupted

end Exit

namespace Environment

open World Reattempt.Action

/-- What becomes the cause of an interrupted failure, given what interrupted the wait from
outside. -/
inductive Signals (call : Call) (before after : World σ) : Option Failure → Failure → Prop
  /-- It was raised during the wait and says itself that it interrupted it. -/
  | itself {cause : Failure} (native : cause.isA .waitInterrupted = true) :
      Signals call before after (some cause) cause
  /-- It was made for the interrupted wait. -/
  | anew {cause? : Option Failure} {number : Nat}
      (foreign : ∀ cause, cause? = some cause → cause.isA .waitInterrupted = false)
      (new : before.failures ≤ number) (made : number < after.failures)
      (caused : after.links.causeOf (.interruption (.made number) call.policy.name
        (before.attemptsOf call + 1 : Nat)) = cause?) :
      Signals call before after cause?
        (.interruption (.made number) call.policy.name (before.attemptsOf call + 1 : Nat))

/-- A wait after the failure was interrupted, from outside or because the call was
cancelled, and the interruption is the cause of the failure now. -/
structure Interrupts (call : Call) (kind : WaitKind) (failure : Failure) (before after : World σ)
    (cause? : Option Failure) (interruption : Failure) : Prop where
  outside : ∀ cause, cause? = some cause →
    kind = .sleeping ∧ (cause.isA .waitInterrupted = true ∨ cause.isA .interrupted = true) ∨
      kind = .suspended ∧ cause.isA .cancelled = true
  cancelled : cause? = none → (after.progressOf call.number).cancelled = true
  cause : after.links.causeOf failure = some interruption
  signals : Signals call before after cause? interruption
  interrupted : (after.progressOf call.number).interrupted = true
  phase : (after.progressOf call.number).phase = .waiting
  attempts : after.attemptsOf call = before.attemptsOf call + 1
  lastFailure : (after.progressOf call.number).lastFailure = some failure
  counters : ∀ policy, after.countersOf policy = before.countersOf policy
  /-- The wait was announced, if anybody listens, before it was skipped or begun. -/
  steps : ∃ interval heard wait,
    (wait = .waitSkipped kind interval ∨ wait = .waitBegun kind interval) ∧
    (before.hears call (call.event (.retry interval) (before.attemptsOf call + 1)
      (some failure)) = true → heard = true) ∧
    after.stepsOf call.number = before.stepsOf call.number ++
      [.classified (some failure) true, .intervalAsked (before.attemptsOf call + 1)] ++
      (if heard then [.announced (call.event (.retry interval) (before.attemptsOf call + 1)
        (some failure))] else []) ++ [wait]
  others : ∀ other, other.identity ≠ failure.identity →
    other.identity ≠ interruption.identity ∨ before.Knows other.identity →
      after.links.causeOf other = before.links.causeOf other

variable {environment : Environment σ} {call : Call} {kind : WaitKind}

theorem steps_of_planning {number : Nat} {failure : Option Failure} {asking planned : World σ}
    {interval : Scalar}
    (planning : Planning environment call number failure asking (.ok interval planned)) :
    ∃ heard,
      (asking.hears call (call.event (.retry interval) number failure) = true → heard = true) ∧
      planned.stepsOf call.number = asking.stepsOf call.number ++
        if heard then [.announced (call.event (.retry interval) number failure)] else [] := by
  cases planning with
  | announced computes written announces =>
      rename_i computed shown entry
      have outside := outside_of_delay computes
      refine ⟨computed.hears call (call.event (.retry interval) number failure),
        fun heard => outside.hasListeners heard, ?_⟩
      rw [stepsOf_of_announce (after_eq_of_ok announces), stepsOf_logged, outside.stepsOf]
      rfl

section Exits

variable {failure : Failure} {before : World σ} {exit : Exit}
  {result : EStateM.Result Failure (World σ) Unit}
  (exits : Exits environment call kind failure before exit result)

include exits

theorem Exits.source {incident : Incident} {links : CauseLinks}
    (met : exit.incident? failure links = some incident) :
    (∀ cause, incident.cause? = some cause → kind.interruptedBy cause = true) ∧
      (incident.cause? = none →
        ((lastWorld result).progressOf call.number).cancelled = true) := by
  cases exits with
  | waited asked allowed planning records waits =>
      cases waits with
      | skipped cancelled ends =>
          have marked := congrArg Progress.cancelled ends.progress
          cases ends with
          | unworded refused new => cases met
          | raised worded =>
              cases met
              refine ⟨nofun, fun _ => ?_⟩
              rw [marked]
              exact cancelled
      | interrupted uncancelled passes interrupts ends =>
          cases ends with
          | unworded refused new => cases met
          | raised worded =>
              cases met
              refine ⟨?_, nofun⟩
              rintro _ ⟨⟩
              exact interrupts
      | noticed uncancelled passes ends =>
          have marked := congrArg Progress.cancelled ends.progress
          have cancelled := cancelled_of_passTime passes
          cases ends with
          | unworded refused new => cases met
          | raised worded =>
              cases met
              refine ⟨nofun, fun _ => ?_⟩
              rw [marked]
              exact cancelled
      | escaped uncancelled passes escapes => cases met
      | elapsed uncancelled passes => cases met
  | _ => cases met

theorem Exits.refused_of_marks (marked : exit.marks = true)
    (uninterrupted : exit.isInterrupted = false) :
    ∃ cause?, (∀ cause, cause? = some cause → kind.interruptedBy cause = true) ∧
      ∃ refusal, warningAbout cause? failure = .error refusal := by
  cases exits with
  | waited asked allowed planning records waits =>
      cases waits with
      | skipped cancelled ends =>
          cases ends with
          | raised worded => cases uninterrupted
          | unworded refused new => exact ⟨none, nofun, _, refused⟩
      | interrupted uncancelled passes interrupts ends =>
          cases ends with
          | raised worded => cases uninterrupted
          | unworded refused new =>
              refine ⟨_, ?_, _, refused⟩
              rintro _ ⟨⟩
              exact interrupts
      | noticed uncancelled passes ends =>
          cases ends with
          | raised worded => cases uninterrupted
          | unworded refused new => exact ⟨none, nofun, _, refused⟩
      | escaped uncancelled passes escapes => cases marked
      | elapsed uncancelled passes => cases marked
  | _ => cases marked

variable (interrupted : exit.isInterrupted = true)

include interrupted

theorem Exits.steps_of_isInterrupted : ∃ interval heard wait,
    (wait = .waitSkipped kind interval ∨ wait = .waitBegun kind interval) ∧
    (before.hears call (call.event (.retry interval) (before.attemptsOf call + 1)
      (some failure)) = true → heard = true) ∧
    (lastWorld result).stepsOf call.number = before.stepsOf call.number ++
      [.classified (some failure) true, .intervalAsked (before.attemptsOf call + 1)] ++
      (if heard then [.announced (call.event (.retry interval) (before.attemptsOf call + 1)
        (some failure))] else []) ++ [wait] := by
  cases exits with
  | waited asked allowed planning records waits =>
      rename_i judged planned interval ending
      have judges := outside_of_isRetryable asked
      have attempts := attemptsOf_eq_of_outside judges call
      rw [attempts] at planning
      rcases steps_of_planning planning with ⟨heard, listening, announced⟩
      have wait : ∃ wait, ending.acts kind interval = [wait] ∧
          (wait = .waitSkipped kind interval ∨ wait = .waitBegun kind interval) := by
        cases ending with
        | skipped => exact ⟨_, rfl, .inl rfl⟩
        | interrupted cause => exact ⟨_, rfl, .inr rfl⟩
        | noticed => exact ⟨_, rfl, .inr rfl⟩
        | escaped raised => cases interrupted
        | unworded begun raised => cases interrupted
        | elapsed => cases interrupted
      rcases wait with ⟨wait, acts, either⟩
      refine ⟨interval, heard, wait, either, ?_, ?_⟩
      · intro earlier
        exact listening (judges.hasListeners earlier)
      · rw [waits.leads.steps, announced, acts, stepsOf_asking asked]
  | _ => cases interrupted

theorem Exits.countersOf_of_isInterrupted (policy : Nat) :
    (lastWorld result).countersOf policy = before.countersOf policy := by
  rcases Exit.waited_of_isInterrupted interrupted with ⟨interval, ending, rfl⟩
  rcases exits.leads with ⟨steps, leads, -⟩
  by_cases same : policy = call.policy.number
  · subst same
    exact leads.counters
  · exact leads.others same

theorem Exits.progress_of_isInterrupted : let after := (lastWorld result).progressOf call.number
    after.interrupted = true ∧ after.phase = .waiting ∧
      after.attempts = before.attemptsOf call + 1 ∧ after.lastFailure = some failure := by
  rcases Exit.waited_of_isInterrupted interrupted with ⟨interval, ending, rfl⟩
  refine ⟨?_, ?_, exits.attempts_eq, exits.lastFailure_eq rfl⟩
  · rw [exits.interrupted_eq, Exit.marks_of_isInterrupted interrupted, Bool.or_true]
  · have allowed : call.policy.config.limit.isReached (before.attemptsOf call + 1) = false :=
      exits.reached_eq rfl
    rcases exits.progress with ⟨cancelled, equal⟩
    rw [equal, Progress.phase_heed, Exit.phase_of_isInterrupted interrupted, Progress.phase_count]
    exact if_neg (Bool.eq_false_iff.mp allowed)

end Exits

section Attaches

variable {incident : Incident} {before after : World σ} {interruption : Failure}
  (attaches : incident.Attaches call.policy.name (before.attemptsOf call + 1) before after
    interruption)

include attaches

theorem signals_of_attaches (founded : before.Founded)
    (known : before.Knows incident.failure.identity) :
    Signals call before after incident.cause? interruption := by
  cases attaches with
  | native raised native links =>
      rw [raised]
      exact .itself native
  | anew foreign new made links =>
      rename_i number
      refine .anew foreign new made ?_
      have different : Identity.made number ≠ incident.failure.identity :=
        fun same => absurd (known number same.symm) (Nat.not_lt_of_le new)
      have found : after.links.find? (.made number) = incident.cause? := by
        rw [links, CauseLinks.find?_extend different, founded number new, Option.or_none]
        exact if_pos rfl
      rw [CauseLinks.causeOf_of_causeless _ rfl]
      exact found

theorem causeOf_of_attaches {other : Failure}
    (different : other.identity ≠ incident.failure.identity)
    (aside : other.identity ≠ interruption.identity ∨ before.Knows other.identity) :
    after.links.causeOf other = before.links.causeOf other := by
  apply CauseLinks.causeOf_congr
  rcases attaches.find?_of_ne different with same | ⟨made, unknown, -⟩
  · exact same
  · rcases aside with aside | known
    · exact absurd made aside
    · exact absurd known unknown

end Attaches

section Contract

variable {before : World σ} {failure : Failure} {exit : Exit}
  (exits : Exits environment call kind failure before exit
    (environment.recordAndWait call kind (some failure) before))

include exits

theorem Exits.interrupts (founded : before.Founded) (known : before.Knows failure.identity)
    (interrupted : exit.isInterrupted = true) :
    ∃ incident interruption, exit.incident? failure before.links = some incident ∧
      Interrupts call kind failure before
        ((environment.onFailure call kind (some failure)).after before) incident.cause?
        interruption := by
  have met := exit.isSome_incident? failure before.links
  rw [interrupted, Option.isSome_iff_exists] at met
  rcases met with ⟨incident, met⟩
  rcases Exit.eq_of_incident? met with ⟨rfl, -⟩
  rcases exits.attaching_onFailure.disturbed met with ⟨interruption, attaches⟩
  rcases exits.source met with ⟨outside, cancelled⟩
  rcases exits.progress_of_isInterrupted interrupted with ⟨marked, phase, attempts, lastFailure⟩
  refine ⟨incident, interruption, met, ?_⟩
  -- What leaves the call has its own identity, but it is found in the same state.
  rcases kind.after_enclose (environment.recordAndWait call kind (some incident.failure)) before
    with ⟨failures, -, enclosed⟩
  rw [← onFailure_eq] at enclosed
  rw [enclosed] at attaches ⊢
  exact
    { outside := fun cause raised => (kind.interruptedBy_iff cause).mp (outside cause raised)
      cancelled := cancelled
      cause := by
        rw [CauseLinks.causeOf, attaches.find?_failure]
      signals := signals_of_attaches attaches founded known
      interrupted := marked
      phase := phase
      attempts := attempts
      lastFailure := lastFailure
      counters := exits.countersOf_of_isInterrupted interrupted
      steps := exits.steps_of_isInterrupted interrupted
      others := fun other different aside => causeOf_of_attaches attaches different aside }

/-- Any other report attaches no cause. -/
theorem Exits.links_eq (uninterrupted : exit.isInterrupted = false) :
    ((environment.onFailure call kind (some failure)).after before).links = before.links := by
  have met := exit.isSome_incident? failure before.links
  rw [uninterrupted, Option.isSome_eq_false_iff, Option.isNone_iff_eq_none] at met
  exact exits.attaching_onFailure.undisturbed met

theorem Exits.interrupted_of_unmarked (unmarked : exit.marks = false) (number : Nat) :
    (((environment.onFailure call kind (some failure)).after before).progressOf
      number).interrupted = (before.progressOf number).interrupted := by
  by_cases same : number = call.number
  · subst same
    rcases kind.after_enclose (environment.recordAndWait call kind (some failure)) before with
      ⟨failures, -, enclosed⟩
    have kept := exits.interrupted_eq
    rw [unmarked, Bool.or_false] at kept
    rw [onFailure_eq, enclosed]
    exact kept
  · rcases environment.spares_perform call (.failure kind failure) before number same with
      ⟨cancelled, equal⟩
    change ((environment.onFailure call kind (some failure)).after before).progressOf number = _
      at equal
    rw [equal, Progress.interrupted_heed]

end Contract

/-- Whatever happened before, a report ends by an interruption with the whole contract, or it
attaches no cause and marks no call. An interruption raises the failure that was reported, as
far as the coroutine of a suspended call lets it out. If the log record of an interruption
cannot be written, the call is marked, but there is no interruption. -/
theorem onFailure_contract (environment : Environment σ) {origin before : World σ}
    {incidents : List Incident} (founded : origin.Founded)
    (past : origin.Becomes incidents before) (call : Call) (kind : WaitKind) {failure : Failure}
    (known : before.Knows failure.identity) :
    let report := environment.onFailure call kind (some failure)
    let result := environment.recordAndWait call kind (some failure) before
    (∃ exit, Exits environment call kind failure before exit result) ∧
    ∀ {exit}, Exits environment call kind failure before exit result →
      (exit.isInterrupted = true →
        report before = kind.enclose (throw failure) (lastWorld result) ∧
        ∃ incident interruption, exit.incident? failure before.links = some incident ∧
          Interrupts call kind failure before (report.after before) incident.cause?
            interruption) ∧
      (exit.isInterrupted = false →
        (report.after before).links = before.links ∧
        ((∀ number, ((report.after before).progressOf number).interrupted =
            (before.progressOf number).interrupted) ∨
          ∃ cause?, (∀ cause, cause? = some cause → kind.interruptedBy cause = true) ∧
            ∃ refusal, warningAbout cause? failure = .error refusal)) := by
  intro report result
  refine ⟨exists_exits environment call kind failure before, ?_⟩
  intro exit exits
  constructor
  · intro interrupted
    have ends := exits.ends
    rw [Exit.outcome_of_isInterrupted interrupted] at ends
    refine ⟨?_, exits.interrupts (past.founded founded) known interrupted⟩
    change environment.onFailure call kind (some failure) before = _
    rw [onFailure_eq]
    exact WaitKind.enclose_congr ends
  · intro uninterrupted
    refine ⟨exits.links_eq uninterrupted, ?_⟩
    cases marked : exit.marks with
    | true => exact .inr (exits.refused_of_marks marked uninterrupted)
    | false => exact .inl (exits.interrupted_of_unmarked marked)

/-- A wait that cancels its own call is interrupted, and its failure is raised. -/
theorem onFailure_contract_impatient :
    let world : World Unit := { memory := () }
    ∃ after interruption, Impatient.environment.onFailure Impatient.call .blocking
        (some Impatient.unreachable) world = .error Impatient.unreachable after ∧
      ∃ cause?, Interrupts Impatient.call .blocking Impatient.unreachable world after cause?
        interruption := by
  intro world
  have founded : world.Founded := fun _ _ => rfl
  have known : world.Knows Impatient.unreachable.identity := knows_given world 0
  rcases onFailure_contract Impatient.environment founded .origin Impatient.call .blocking known
    with ⟨⟨exit, exits⟩, contract⟩
  have marked : exit.marks = true := exits.interrupted_eq.symm
  have interrupted : exit.isInterrupted = true :=
    exits.isInterrupted_of_marks marked fun _ made => Identity.noConfusion made
  rcases (contract exits).1 interrupted with ⟨ends, incident, interruption, -, interrupts⟩
  exact ⟨_, interruption, ends, incident.cause?, interrupts⟩

/-- Where no failure is reported, there is none to raise but the interruption itself. -/
theorem onFailure_of_missing :
    let world : World Unit := { memory := () }
    let cancelled := World.changeProgress 0 .cancel world
    ∃ interruption after,
      Impatient.environment.onFailure Impatient.call .blocking none cancelled =
        .error interruption after ∧
      interruption.isA .waitInterrupted = true ∧ after.links.causeOf interruption = none :=
  ⟨_, _, rfl, by decide, by decide⟩

end Environment

end Reattempt
