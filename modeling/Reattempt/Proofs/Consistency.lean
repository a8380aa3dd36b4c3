import Reattempt.Proofs.Report

/-! Calls that are used in any order. Successes, failures and cancellations are reported
to a call one after another, also after it has ended, and each of these reports may stop
half-way because the caller's code raises a failure. What a call says about itself stays
consistent all the same. -/

namespace Reattempt

variable {σ : Type}

inductive Operation where
  | success
  | failure (kind : WaitKind) (failure : Failure)
  | cancel

private theorem AttemptLimit.isReached_iff (limit : AttemptLimit) (failed : Nat) :
    limit.isReached failed = true ↔
      ∃ maximum positive, limit = .atMost maximum positive ∧ maximum ≤ failed := by
  cases limit with
  | unlimited => simp [isReached]
  | atMost maximum positive =>
      simp only [isReached, decide_eq_true_eq]
      constructor
      · intro reached
        exact ⟨maximum, positive, rfl, reached⟩
      · rintro ⟨_, _, equal, reached⟩
        cases equal
        exact reached

private theorem AttemptLimit.lt_of_isReached_eq_false {limit : AttemptLimit} {failed maximum : Nat}
    {positive : 0 < maximum} (allowed : limit.isReached failed = false)
    (finite : limit = .atMost maximum positive) : failed < maximum := by
  subst finite
  simpa [isReached] using allowed

/-- What a call says about itself agrees with the failures that were counted. -/
structure Progress.Consistent (limit : AttemptLimit) (counted : List Failure)
    (progress : Progress) : Prop where
  attempts : progress.attempts = counted.length
  lastFailure : progress.lastFailure = counted.getLast?
  exhausted : progress.phase = .exhausted →
    ∃ maximum positive, limit = .atMost maximum positive ∧ maximum ≤ progress.attempts
  waiting : progress.phase = .waiting → 1 ≤ progress.attempts
  allowed : progress.phase = .waiting ∨ progress.phase = .attempting →
    ∀ {maximum positive}, limit = .atMost maximum positive → progress.attempts < maximum

namespace Progress.Consistent

variable {limit : AttemptLimit} {counted : List Failure} {progress : Progress}

theorem fresh (limit : AttemptLimit) : Progress.fresh.Consistent limit [] where
  attempts := rfl
  lastFailure := rfl
  exhausted := nofun
  waiting := nofun
  allowed _ _ positive _ := positive

theorem lastFailure_eq_none (consistent : progress.Consistent limit counted) :
    progress.lastFailure = none ↔ progress.attempts = 0 := by
  rw [consistent.lastFailure, consistent.attempts, List.getLast?_eq_none_iff,
    List.length_eq_zero_iff]

theorem congr (consistent : progress.Consistent limit counted) {other : Progress}
    (attempts : other.attempts = progress.attempts)
    (lastFailure : other.lastFailure = progress.lastFailure)
    (phase : other.phase = progress.phase) : other.Consistent limit counted where
  attempts := attempts.trans consistent.attempts
  lastFailure := lastFailure.trans consistent.lastFailure
  exhausted := by
    rw [attempts, phase]
    exact consistent.exhausted
  waiting := by
    rw [attempts, phase]
    exact consistent.waiting
  allowed := by
    rw [attempts, phase]
    exact consistent.allowed

theorem heed (consistent : progress.Consistent limit counted) (cancelled : Bool) :
    (progress.heed cancelled).Consistent limit counted :=
  consistent.congr (by simp) (by simp) (by simp)

theorem settle (consistent : progress.Consistent limit counted) (kind : WaitKind)
    (stranded : Bool) : (progress.settle kind stranded).Consistent limit counted := by
  cases kind <;> exact consistent.congr rfl rfl rfl

theorem interrupt (consistent : progress.Consistent limit counted) :
    progress.interrupt.Consistent limit counted :=
  consistent.congr rfl rfl rfl

theorem reject (consistent : progress.Consistent limit counted) :
    progress.reject.Consistent limit counted where
  attempts := consistent.attempts
  lastFailure := consistent.lastFailure
  exhausted := nofun
  waiting := nofun
  allowed := nofun

theorem succeed (consistent : progress.Consistent limit counted) :
    progress.succeed.Consistent limit counted where
  attempts := consistent.attempts
  lastFailure := consistent.lastFailure
  exhausted := nofun
  waiting := nofun
  allowed := nofun

theorem resume (consistent : progress.Consistent limit counted)
    (waits : progress.phase = .waiting) : progress.resume.Consistent limit counted where
  attempts := consistent.attempts
  lastFailure := consistent.lastFailure
  exhausted := nofun
  waiting := nofun
  allowed _ := consistent.allowed (.inl waits)

theorem count (consistent : progress.Consistent limit counted) (failure : Failure) :
    (progress.count limit (some failure)).Consistent limit (counted ++ [failure]) where
  attempts := by
    rw [attempts_count, consistent.attempts, List.length_append, List.length_singleton]
  lastFailure := by
    rw [List.getLast?_concat]
    rfl
  exhausted exhausts := by
    rw [phase_count] at exhausts
    cases reached : limit.isReached (progress.attempts + 1) with
    | false => simp [reached] at exhausts
    | true => exact (limit.isReached_iff _).mp reached
  waiting _ := Nat.succ_pos _
  allowed waits := by
    rw [phase_count] at waits
    cases reached : limit.isReached (progress.attempts + 1) with
    | false => exact AttemptLimit.lt_of_isReached_eq_false reached
    | true => simp [reached] at waits

end Progress.Consistent

namespace Exit

def counts : Exit → Bool
  | .unclassified _ | .rejected _ => false
  | .exhausted _ | .unplanned _ | .waited _ _ => true

def exhausts : Exit → Bool
  | .exhausted _ => true
  | _ => false

def isInterrupted : Exit → Bool
  | .waited _ ending => ending.isInterruption
  | _ => false

def marks : Exit → Bool
  | .waited _ ending => ending.marks
  | _ => false

theorem marks_of_isInterrupted {exit : Exit} (interrupted : exit.isInterrupted = true) :
    exit.marks = true := by
  cases exit with
  | waited interval ending => cases ending <;> first | rfl | cases interrupted
  | _ => cases interrupted

theorem outcome_of_isInterrupted {exit : Exit} (interrupted : exit.isInterrupted = true)
    (failure : Failure) : exit.outcome failure = .error failure := by
  cases exit with
  | waited interval ending => cases ending <;> first | rfl | cases interrupted
  | _ => cases interrupted

def counted (failure : Failure) (exit : Exit) : List Failure :=
  if exit.counts then [failure] else []

theorem consistent_advance {limit : AttemptLimit} {earlier : List Failure} {progress : Progress}
    (consistent : progress.Consistent limit earlier) (failure : Failure) (kind : WaitKind)
    {exit : Exit}
    (reached : exit.counts = true → limit.isReached (progress.attempts + 1) = exit.exhausts) :
    (exit.advance failure limit kind progress).Consistent limit
      (earlier ++ exit.counted failure) := by
  cases exit with
  | unclassified raised => simpa [counted, counts, advance] using consistent
  | rejected raised => simpa [counted, counts, advance] using consistent.reject
  | exhausted raised => exact consistent.count failure
  | unplanned raised => exact consistent.count failure
  | waited interval ending =>
      have next : (progress.count limit (some failure)).Consistent limit (earlier ++ [failure]) :=
        consistent.count failure
      have waits : (progress.count limit (some failure)).phase = .waiting := by
        rw [Progress.phase_count, reached rfl]
        rfl
      cases ending with
      | skipped => exact next.interrupt
      | interrupted cause => exact (next.settle kind false).interrupt
      | escaped raised => exact (next.settle kind false).settle kind true
      | noticed => exact (next.settle kind false).interrupt
      | unworded begun raised =>
          cases begun with
          | false => exact next.interrupt
          | true => exact (next.settle kind false).interrupt
      | elapsed =>
          refine (next.settle kind false).resume ?_
          cases kind <;> exact waits

variable (failure : Failure) (limit : AttemptLimit) (kind : WaitKind) (progress : Progress)

theorem attempts_advance (exit : Exit) :
    (exit.advance failure limit kind progress).attempts =
      progress.attempts + (exit.counted failure).length := by
  cases exit with
  | waited interval ending =>
      rcases ending with _ | _ | _ | _ | ⟨_ | _, _⟩ | _ <;>
        simp [advance, WaitEnding.advance, counted, counts, Progress.interrupt, Progress.resume]
  | _ => rfl

theorem lastFailure_advance {exit : Exit} (uncounted : exit.counted failure = []) :
    (exit.advance failure limit kind progress).lastFailure = progress.lastFailure := by
  cases exit with
  | unclassified raised => rfl
  | rejected raised => rfl
  | _ => cases uncounted

theorem lastFailure_advance_of_counted {exit : Exit} (counted : exit.counted failure = [failure]) :
    (exit.advance failure limit kind progress).lastFailure = some failure := by
  cases exit with
  | unclassified raised => cases counted
  | rejected raised => cases counted
  | waited interval ending =>
      rcases ending with _ | _ | _ | _ | ⟨_ | _, _⟩ | _ <;> cases kind <;> rfl
  | _ => rfl

theorem interrupted_advance (exit : Exit) :
    (exit.advance failure limit kind progress).interrupted =
      (progress.interrupted || exit.marks) := by
  cases exit with
  | waited interval ending =>
      cases ending with
      | skipped => exact (Bool.or_true _).symm
      | interrupted cause => exact (Bool.or_true _).symm
      | noticed => exact (Bool.or_true _).symm
      | unworded begun raised => cases begun <;> exact (Bool.or_true _).symm
      | escaped raised => cases kind <;> exact (Bool.or_false _).symm
      | elapsed => cases kind <;> exact (Bool.or_false _).symm
  | _ => exact (Bool.or_false _).symm

theorem cancelled_advance (exit : Exit) :
    (exit.advance failure limit kind progress).cancelled = progress.cancelled := by
  cases exit with
  | waited interval ending =>
      rcases ending with _ | _ | _ | _ | ⟨_ | _, _⟩ | _ <;> cases kind <;> rfl
  | _ => rfl

end Exit

namespace Environment

open World Reattempt.Action

variable (environment : Environment σ) (call : Call)

def perform : Operation → Action σ Unit
  | .success => environment.onSuccess call
  | .failure kind failure => environment.onFailure call kind (some failure)
  | .cancel => Action.cancel call.number

/-- The failures that the operation reports and the predicate finds worth another
attempt. -/
def countedBy (operation : Operation) (before : World σ) : List Failure :=
  match operation with
  | .success | .cancel => []
  | .failure _ failure =>
      match environment.isRetryable call.policy.config (some failure) before with
      | .ok true _ => [failure]
      | _ => []

/-- The call has come to this world from its beginning, and these are the failures of it
that were found worth another attempt. -/
inductive Arrives (environment : Environment σ) (call : Call) : List Failure → World σ → Prop
  | opened {world : World σ} (fresh : world.progressOf call.number = .fresh) :
      Arrives environment call [] world
  | performed {counted : List Failure} {before : World σ} (operation : Operation)
      (arrives : Arrives environment call counted before) :
      Arrives environment call (counted ++ environment.countedBy call operation before)
        ((environment.perform call operation).after before)
  /-- Meanwhile others may cancel the call and do anything else. -/
  | meanwhile {counted : List Failure} {before after : World σ}
      (arrives : Arrives environment call counted before)
      (heeded : ∃ cancelled,
        after.progressOf call.number = (before.progressOf call.number).heed cancelled) :
      Arrives environment call counted after

variable {environment call}

namespace Exits

variable {kind : WaitKind} {failure : Failure} {before : World σ} {exit : Exit}
  {result : EStateM.Result Failure (World σ) Unit}
  (exits : Exits environment call kind failure before exit result)

include exits

theorem counted_eq : environment.countedBy call (.failure kind failure) before =
    exit.counted failure := by
  cases exits with
  | unclassified asked => rw [countedBy, asked]; rfl
  | rejected asked concludes => rw [countedBy, asked]; rfl
  | exhausted asked reached concludes => rw [countedBy, asked]; rfl
  | unplanned asked allowed planning => rw [countedBy, asked]; rfl
  | waited asked allowed planning records waits => rw [countedBy, asked]; rfl

theorem attempts_eq : (lastWorld result).attemptsOf call =
    before.attemptsOf call + (exit.counted failure).length := by
  rcases exits.progress with ⟨cancelled, equal⟩
  rw [attemptsOf, equal, Progress.attempts_heed, Exit.attempts_advance]
  rfl

theorem lastFailure_eq (counted : exit.counted failure = [failure]) :
    ((lastWorld result).progressOf call.number).lastFailure = some failure := by
  rcases exits.progress with ⟨cancelled, equal⟩
  rw [equal, Progress.lastFailure_heed, Exit.lastFailure_advance_of_counted _ _ _ _ counted]

theorem interrupted_eq : ((lastWorld result).progressOf call.number).interrupted =
    ((before.progressOf call.number).interrupted || exit.marks) := by
  rcases exits.progress with ⟨cancelled, equal⟩
  rw [equal, Progress.interrupted_heed, Exit.interrupted_advance]

theorem reached_eq (counts : exit.counts = true) :
    call.policy.config.limit.isReached (before.attemptsOf call + 1) = exit.exhausts := by
  cases exits with
  | unclassified asked => cases counts
  | rejected asked concludes => cases counts
  | exhausted asked reached concludes =>
      rwa [← attemptsOf_eq_of_outside (outside_of_isRetryable asked) call]
  | unplanned asked allowed planning =>
      rwa [← attemptsOf_eq_of_outside (outside_of_isRetryable asked) call]
  | waited asked allowed planning records waits =>
      rwa [← attemptsOf_eq_of_outside (outside_of_isRetryable asked) call]

end Exits

/-! ## One operation -/

/-- What leaves the call changes nothing that was done inside it. -/
theorem exists_exits_perform (environment : Environment σ) (call : Call) (kind : WaitKind)
    (failure : Failure) (before : World σ) :
    ∃ exit failures, let result := environment.recordAndWait call kind (some failure) before
      Exits environment call kind failure before exit result ∧
      (environment.perform call (.failure kind failure)).after before =
        (lastWorld result).relinking failures (lastWorld result).links := by
  rcases exists_exits environment call kind failure before with ⟨exit, exits⟩
  rcases kind.after_enclose (environment.recordAndWait call kind (some failure)) before with
    ⟨failures, -, enclosed⟩
  refine ⟨exit, failures, exits, ?_⟩
  rw [perform, onFailure_eq, enclosed]
  rfl

theorem progressOf_onSuccess (environment : Environment σ) (call : Call) (before : World σ) :
    ∃ cancelled, ((environment.onSuccess call).after before).progressOf call.number =
      ((before.progressOf call.number).succeed).heed cancelled := by
  rcases Nat.eq_zero_or_pos (before.attemptsOf call) with never | retried
  · rw [after_eq_of_ok (environment.onSuccess_at_once call never)]
    exact ⟨false, by simp⟩
  · rcases environment.onSuccess_after_retry call retried with ⟨entry, announces⟩
    rcases (announces_of_announce .success rfl (after_congr announces).symm).progress
      with ⟨cancelled, equal⟩
    exact ⟨cancelled, by rw [equal]; simp⟩

theorem progressOf_cancel (number : Nat) (before : World σ) :
    ((Action.cancel number).after before).progressOf number =
      (before.progressOf number).cancel := by
  simp only [after, Action.cancel, bind_apply, changeProgress_apply, progressOf_apply]
  split <;> exact progressOf_changeProgress_self number .cancel before

structure Progress.Follows (counted : List Failure) (before after : Progress) : Prop where
  attempts : after.attempts = before.attempts + counted.length
  lastFailure : counted = [] → after.lastFailure = before.lastFailure
  interrupted : before.interrupted = true → after.interrupted = true
  cancelled : before.cancelled = true → after.cancelled = true

theorem follows_perform (operation : Operation) (before : World σ) :
    Progress.Follows (environment.countedBy call operation before)
      (before.progressOf call.number)
      (((environment.perform call operation).after before).progressOf call.number) := by
  cases operation with
  | success =>
      rcases progressOf_onSuccess environment call before with
        ⟨cancelled, equal⟩
      rw [perform, equal]
      exact ⟨by simp [Progress.succeed, countedBy], fun _ => by simp [Progress.succeed],
        fun interrupted => by simpa [Progress.succeed] using interrupted,
        fun earlier => by simp [Progress.succeed, earlier]⟩
  | cancel =>
      rw [perform, progressOf_cancel]
      exact ⟨rfl, fun _ => rfl, id, fun _ => rfl⟩
  | failure kind failure =>
      rcases exists_exits_perform environment call kind failure before with
        ⟨exit, failures, exits, performs⟩
      rcases exits.progress with ⟨cancelled, equal⟩
      rw [exits.counted_eq, performs, progressOf_relinking, equal]
      refine ⟨?_, ?_, ?_, ?_⟩
      · rw [Progress.attempts_heed, Exit.attempts_advance]
      · intro uncounted
        rw [Progress.lastFailure_heed, Exit.lastFailure_advance _ _ _ _ uncounted]
      · intro interrupted
        rw [← equal, exits.interrupted_eq, interrupted, Bool.true_or]
      · intro earlier
        rw [Progress.cancelled_heed, Exit.cancelled_advance, earlier, Bool.true_or]

theorem consistent_perform {counted : List Failure} {before : World σ}
    (consistent : (before.progressOf call.number).Consistent call.policy.config.limit counted)
    (operation : Operation) :
    (((environment.perform call operation).after before).progressOf call.number).Consistent
      call.policy.config.limit (counted ++ environment.countedBy call operation before) := by
  cases operation with
  | success =>
      rcases progressOf_onSuccess environment call before with
        ⟨cancelled, equal⟩
      rw [perform, equal, countedBy, List.append_nil]
      exact consistent.succeed.heed cancelled
  | cancel =>
      rw [perform, progressOf_cancel, countedBy, List.append_nil]
      exact consistent.heed true
  | failure kind failure =>
      rcases exists_exits_perform environment call kind failure before with
        ⟨exit, failures, exits, performs⟩
      rcases exits.progress with ⟨cancelled, equal⟩
      rw [exits.counted_eq, performs, progressOf_relinking, equal]
      exact (Exit.consistent_advance consistent failure kind exits.reached_eq).heed cancelled

theorem leads_perform (environment : Environment σ) (call : Call) (operation : Operation)
    (before : World σ) :
    ∃ count steps, Leads call count steps before
        ((environment.perform call operation).after before) ∧
      (call.policy.config.limit = .unlimited →
        (∀ counters, (count counters).exhausted = counters.exhausted) ∧
        ∀ {event}, .announced event ∈ steps → event.kind? ≠ some .error) := by
  cases operation with
  | success =>
      have succeeded : Leads call id [] before (before.changeProgress call.number .succeed) :=
        Leads.changeProgress .succeed
      rcases Nat.eq_zero_or_pos (before.attemptsOf call) with never | retried
      · refine ⟨(·.countSuccess false), [], ?_, fun _ => ⟨fun _ => rfl, nofun⟩⟩
        rw [perform, after_eq_of_ok (environment.onSuccess_at_once call never)]
        exact succeeded.trans (Leads.changeCounters (·.countSuccess false))
      · rcases environment.onSuccess_after_retry call retried with ⟨entry, announces⟩
        rcases (announces_of_announce .success rfl (after_congr announces).symm).leads
          with ⟨steps, leads, once⟩
        have counted := succeeded.trans (Leads.changeCounters (·.countSuccess true))
        refine ⟨_, _, (counted.trans (Leads.logged entry)).trans leads, ?_⟩
        intro _
        refine ⟨fun _ => rfl, ?_⟩
        intro event member
        rw [once.kind_of_mem (by simpa using member)]
        exact nofun
  | cancel =>
      exact ⟨id, [], Leads.outside (keeps_cancel call.number before),
        fun _ => ⟨fun _ => rfl, nofun⟩⟩
  | failure kind failure =>
      rcases exists_exits_perform environment call kind failure before with
        ⟨exit, failures, exits, performs⟩
      rcases exits.leads with ⟨steps, leads, -, kinds⟩
      refine ⟨(·.enter exit.ledger), steps, performs ▸ leads.relinking failures _, ?_⟩
      intro unlimited
      have spared : exit.exhausts = false := by
        cases counts : exit.counts with
        | false => cases exit <;> first | rfl | cases counts
        | true => rw [← exits.reached_eq counts, unlimited]; rfl
      constructor
      · intro counters
        cases exit <;> first | rfl | cases spared
      · intro event member
        rcases kinds member with ⟨eventKind, announced, known⟩
        rw [known, ← announced]
        cases exit <;> simp [Exit.kind?, Exit.exhausts] at spared ⊢

/-! ## Interruptions -/

/-- An interrupted wait raises the failure that was reported, and the interruption is its
cause. -/
theorem raises_of_interrupted {kind : WaitKind} {failure : Failure} {before : World σ}
    {exit : Exit} {result : EStateM.Result Failure (World σ) Unit}
    (exits : Exits environment call kind failure before exit result)
    (interrupted : exit.isInterrupted = true) :
    ∃ after interruption, result = .error failure after ∧
      (after.progressOf call.number).lastFailure = some failure ∧
      interruption.isA .waitInterrupted = true ∧
      after.links.causeOf failure = some interruption := by
  rcases exits.progress with ⟨cancelled, equal⟩
  rcases exits.links with ⟨number, links⟩
  have ends := exits.ends
  have made : (Failure.interruption (.made number) call.policy.name
      (before.attemptsOf call + 1 : Nat)).isA .waitInterrupted = true :=
    FailureType.covers_refl .waitInterrupted
  have causes (earlier : CauseLinks) (cause : Failure) :
      CauseLinks.causeOf (earlier.set failure.identity cause) failure = some cause := by
    simp [CauseLinks.causeOf]
  rw [Exit.outcome_of_isInterrupted interrupted] at ends
  cases exit with
  | waited interval ending =>
      have linked : ∃ interruption : Failure, interruption.isA .waitInterrupted = true ∧
          (lastWorld result).links.causeOf failure = some interruption := by
        rw [links]
        cases ending with
        | skipped => exact ⟨_, made, causes _ _⟩
        | noticed => exact ⟨_, made, causes _ _⟩
        | escaped raised => cases interrupted
        | unworded begun raised => cases interrupted
        | elapsed => cases interrupted
        | interrupted cause =>
            simp only [Exit.chain?, WaitEnding.chain?]
            split
            · next native => exact ⟨_, native, causes _ _⟩
            · exact ⟨_, made, causes _ _⟩
      rcases linked with ⟨interruption, isInterruption, cause⟩
      refine ⟨lastWorld result, interruption, ends, ?_, isInterruption, cause⟩
      rw [equal, Progress.lastFailure_heed]
      exact Exit.lastFailure_advance_of_counted _ _ _ _ rfl
  | _ => cases interrupted

/-- A call is marked without a wait that ends by its interruption only if another failure is
raised, which the engine makes. -/
theorem Exits.isInterrupted_of_marks {kind : WaitKind} {failure : Failure} {before after : World σ}
    {exit : Exit} (exits : Exits environment call kind failure before exit (.error failure after))
    (marked : exit.marks = true) (given : ∀ number, failure.identity ≠ .made number) :
    exit.isInterrupted = true := by
  have unmade {cause? : Option Failure} {begun again : Bool} {called : WaitEnding}
      {world : World σ} {raised : Failure} (interrupts : called.isInterruption = true)
      (ends : Interrupted (α := Unit) call failure cause? begun called world
        (.unworded again raised) (.error failure after)) : False := by
    cases ends with
    | raised worded => cases interrupts
    | unworded refused new => exact given _ rfl
  cases exits with
  | waited asked allowed planning records waits =>
      rename_i ending
      cases ending with
      | unworded begun raised =>
          cases waits with
          | skipped cancelled ends => exact (unmade rfl ends).elim
          | interrupted uncancelled passes interrupts ends => exact (unmade rfl ends).elim
          | noticed uncancelled passes ends => exact (unmade rfl ends).elim
      | escaped raised => cases marked
      | elapsed => cases marked
      | _ => rfl
  | _ => cases marked

/-! ## All operations -/

theorem Arrives.consistent {counted : List Failure} {world : World σ}
    (arrives : Arrives environment call counted world) :
    (world.progressOf call.number).Consistent call.policy.config.limit counted := by
  induction arrives with
  | opened fresh =>
      rw [fresh]
      exact .fresh _
  | performed operation arrives consistent => exact consistent_perform consistent operation
  | meanwhile arrives heeded consistent =>
      rcases heeded with ⟨cancelled, equal⟩
      rw [equal]
      exact consistent.heed cancelled

private theorem length_countedBy (operation : Operation) (before : World σ) :
    (environment.countedBy call operation before).length ≤ 1 := by
  cases operation with
  | failure kind failure =>
      rw [countedBy]
      split <;> simp
  | _ => exact Nat.zero_le 1

/-- The invariant of a call, whatever was done with it since its beginning. It is
consistent. The next operation counts at most one failure; it is the last failure then,
and otherwise attempts and last failure stay; what was interrupted or cancelled remains
so. Without a limit the call is never exhausted. An interrupted wait marks the call and
raises the failure that was reported, never the bare interruption, which becomes its
cause. -/
theorem invariant_of_arrives {counted : List Failure} {world : World σ}
    (arrives : Arrives environment call counted world) :
    (world.progressOf call.number).Consistent call.policy.config.limit counted ∧
    ((world.progressOf call.number).lastFailure = none ↔
      (world.progressOf call.number).attempts = 0) ∧
    (∀ operation, (environment.countedBy call operation world).length ≤ 1 ∧
      Progress.Follows (environment.countedBy call operation world)
        (world.progressOf call.number)
        (((environment.perform call operation).after world).progressOf call.number)) ∧
    (call.policy.config.limit = .unlimited →
      (world.progressOf call.number).phase ≠ .exhausted ∧
      ∀ operation, let after := (environment.perform call operation).after world
        (after.countersOf call.policy.number).exhausted =
          (world.countersOf call.policy.number).exhausted ∧
        ∃ steps, after.stepsOf call.number = world.stepsOf call.number ++ steps ∧
          ∀ {event}, .announced event ∈ steps → event.kind? ≠ some .error) ∧
    ∀ kind failure, ∃ exit, Exits environment call kind failure world exit
        (environment.recordAndWait call kind (some failure) world) ∧
      (((environment.perform call (.failure kind failure)).after world).progressOf
        call.number).interrupted = ((world.progressOf call.number).interrupted || exit.marks) ∧
      (exit.isInterrupted = true → ∃ after interruption,
        environment.perform call (.failure kind failure) world =
          kind.enclose (throw failure) after ∧
        (after.progressOf call.number).lastFailure = some failure ∧
        interruption.isA .waitInterrupted = true ∧
        after.links.causeOf failure = some interruption) := by
  refine ⟨arrives.consistent, arrives.consistent.lastFailure_eq_none, ?_, ?_, ?_⟩
  · intro operation
    exact ⟨length_countedBy operation world, follows_perform operation world⟩
  · intro unlimited
    refine ⟨?_, ?_⟩
    · intro exhausted
      rcases arrives.consistent.exhausted exhausted with ⟨maximum, positive, finite, -⟩
      rw [unlimited] at finite
      cases finite
    · intro operation after
      rcases leads_perform environment call operation world with
        ⟨count, steps, leads, spares⟩
      refine ⟨?_, steps, leads.steps, (spares unlimited).2⟩
      rw [leads.counters, (spares unlimited).1]
  · intro kind failure
    rcases exists_exits_perform environment call kind failure world with
      ⟨exit, failures, exits, performs⟩
    refine ⟨exit, exits, by rw [performs, progressOf_relinking, exits.interrupted_eq], ?_⟩
    intro interrupted
    rcases raises_of_interrupted exits interrupted with
      ⟨after, interruption, raises, lastFailure, isInterruption, cause⟩
    refine ⟨after, interruption, ?_, lastFailure, isInterruption, cause⟩
    rw [perform, onFailure_eq]
    exact WaitKind.enclose_congr raises

end Environment

namespace Environment

/-! ## A wait that cancels its call -/

namespace Impatient

def environment : Environment Unit where
  interval _ _ := .answer Backoff.defaultDelay
  predicate _ _ := .answer true
  listener _ _ _ := .answer ()
  wait _ _ := .cancel 0 (.answer ())
  draw _ _ := .answer 0.0
  depth := 0

def call : Call where
  number := 0
  policy :=
    { number := 0
      name := "backend"
      shared := { number := 0, config := .default }
      publisher := 0
      sleeps := false }

def unreachable : Failure := .ofMessage (.given 0) .connection "unreachable"

end Impatient

theorem invariant_of_arrives_interrupted :
    let world : World Unit := { memory := () }
    let report := Impatient.environment.perform Impatient.call
      (.failure .blocking Impatient.unreachable)
    ((report.after world).progressOf 0).Consistent Config.default.limit [Impatient.unreachable] ∧
      ∃ after interruption, report world = .error Impatient.unreachable after ∧
        interruption.isA .waitInterrupted = true ∧
        after.links.causeOf Impatient.unreachable = some interruption := by
  intro world report
  have opened : Arrives Impatient.environment Impatient.call [] world := .opened rfl
  have reported : Arrives Impatient.environment Impatient.call [Impatient.unreachable]
      (report.after world) := .performed (.failure .blocking Impatient.unreachable) opened
  rcases (invariant_of_arrives opened).2.2.2.2 .blocking Impatient.unreachable with
    ⟨exit, exits, marked, raises⟩
  have interrupted : exit.isInterrupted = true :=
    exits.isInterrupted_of_marks marked.symm fun _ made => Identity.noConfusion made
  rcases raises interrupted with ⟨after, interruption, raised, -, isInterruption, cause⟩
  exact ⟨(invariant_of_arrives reported).1, after, interruption, raised, isInterruption, cause⟩

end Environment

end Reattempt
