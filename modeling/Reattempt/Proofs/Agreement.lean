import Reattempt.Proofs.Course
import Reattempt.Proofs.Exit
import Reattempt.Proofs.Mirror

/-! Blocking and suspended waits agree. Two calls that differ in how they wait report a
failure with the same events, counts and intervals and end in the same way, if their
waits correspond: both are over, or both are interrupted from outside. Whole runs agree
because every report does. -/

namespace Reattempt

variable {σ α : Type}

open World Reattempt.Action

namespace Environment

variable (environment : Environment σ) (call : Call)

/-! ## Interruptions -/

theorem mirrors_newInterruption :
    Mirrors (newInterruption call : Action σ Failure) (newInterruption call) := by
  apply Mirrors.bind (mirrors_progressOf _)
  intro progress
  apply Mirrors.bind mirrors_newIdentity
  intro identity
  exact mirrors_pure _

theorem mirrors_interruptionBy {first second : Failure}
    (causes : CausesAlike (some first) (some second)) :
    Mirrors (interruptionBy call first : Action σ Failure) (interruptionBy call second) := by
  unfold interruptionBy
  rcases causes with equal | ⟨blocking, suspended, outside, first, second⟩
  · cases equal
    split
    · exact mirrors_pure first
    · exact mirrors_newInterruption call
  · cases first
    cases second
    rw [outside.blockingNew, outside.suspendedNew]
    exact mirrors_newInterruption call

/-- Only a new interruption gets a cause, and it does so in both worlds. -/
theorem mirrors_origin {first second : Failure} (causes : CausesAlike (some first) (some second))
    (interruption : Failure) {next : Action σ α} (rest : Mirrors next next) :
    Mirrors
      (if !first.isA .waitInterrupted then modify (World.link interruption first) >>= fun _ => next
        else next)
      (if !second.isA .waitInterrupted then modify (World.link interruption second) >>= fun _ => next
        else next) := by
  have links : Mirrors (modify (World.link interruption first) : Action σ Unit)
      (modify (World.link interruption second)) :=
    mirrors_modify fun alike => alike.link interruption causes
  have native : first.isA .waitInterrupted = second.isA .waitInterrupted := by
    rcases causes with equal | ⟨blocking, suspended, outside, first, second⟩
    · cases equal
      rfl
    · cases first
      cases second
      rw [outside.blockingNew, outside.suspendedNew]
  rw [native]
  split
  · apply Mirrors.bind links
    intro _ left right alike
    exact rest alike
  · intro left right alike
    exact rest alike

theorem mirrors_raiseInterrupted {first second : Failure}
    (causes : CausesAlike (some first) (some second)) :
    Mirrors (raiseInterrupted call first : Action σ α) (raiseInterrupted call second) := by
  apply Mirrors.bind (mirrors_changeProgress _ _)
  intro _
  apply Mirrors.bind (mirrors_progressOf _)
  intro progress
  apply Mirrors.bind (mirrors_interruptionBy call causes)
  intro interruption
  apply Mirrors.bind (mirrors_write _)
  intro text
  apply Mirrors.bind (mirrors_write _)
  intro shown
  apply Mirrors.bind (mirrors_log _ _ _ _)
  intro _
  apply mirrors_origin causes
  split
  · exact mirrors_throw interruption
  · next failure _ =>
      apply Mirrors.bind (mirrors_modify fun alike => alike.link failure (.inl rfl))
      intro _
      exact mirrors_throw failure

theorem mirrors_endCancelled :
    Mirrors (endCancelled call : Action σ α) (endCancelled call) := by
  apply Mirrors.bind (mirrors_newInterruption call)
  intro interruption
  exact mirrors_raiseInterrupted call (.inl rfl)

end Environment

/-! ## Chains of causes -/

/-- The interruption is the cause of the failure. If it is an object of its own, it was
caused by the failure from outside, or by what caused it before. -/
structure Chained (failure? : Option Failure) (interruption : Failure) (origin? : Option Failure)
    (earlier later : CauseLinks) : Prop where
  cause : ∀ {failure}, failure? = some failure → later.causeOf failure = some interruption
  origin : (∀ {failure}, failure? = some failure → failure.identity ≠ interruption.identity) →
    later.find? interruption.identity = origin?.or (earlier.find? interruption.identity)

theorem CauseLinks.causeOf_attach (links : CauseLinks) (failure cause : Failure) :
    (links.attach (some failure) cause).causeOf failure = some cause := by
  simp [CauseLinks.causeOf, CauseLinks.attach]

theorem CauseLinks.find?_attach {links : CauseLinks} {failure? : Option Failure}
    {identity : Identity} (different : ∀ {failure}, failure? = some failure →
      failure.identity ≠ identity) (cause : Failure) :
    (links.attach failure? cause).find? identity = links.find? identity := by
  cases failure? with
  | none => rfl
  | some failure => exact OrderedMap.find?_set_of_ne _ (different rfl).symm _

theorem chained_attach (failure? : Option Failure) (interruption : Failure) (earlier : CauseLinks) :
    Chained failure? interruption none earlier (earlier.attach failure? interruption) where
  cause := by
    rintro failure rfl
    exact CauseLinks.causeOf_attach _ _ _
  origin different := CauseLinks.find?_attach different _

theorem chained_attach_origin (failure? : Option Failure) (interruption origin : Failure)
    (earlier : CauseLinks) :
    Chained failure? interruption (some origin) earlier
      (CauseLinks.attach (earlier.set interruption.identity origin) failure? interruption) where
  cause := by
    rintro failure rfl
    exact CauseLinks.causeOf_attach _ _ _
  origin different := by
    rw [CauseLinks.find?_attach different]
    exact OrderedMap.find?_set_self _ _ _

namespace FromOutside

variable {blocking suspended : Failure}

theorem interrupts_sleeping (outside : FromOutside blocking suspended) :
    WaitKind.sleeping.interruptedBy blocking = true := by
  rw [WaitKind.interruptedBy, Failure.interruptsSleep, outside.interrupted, Bool.or_true]

theorem interrupts_suspended (outside : FromOutside blocking suspended) :
    WaitKind.suspended.interruptedBy suspended = true := by
  simp only [WaitKind.interruptedBy, Failure.taskEffect, outside.cancelled, if_true, decide_true]

end FromOutside

/-! ## Waits that correspond -/

/-- What happens in two waits that correspond, given the worlds at their beginning. -/
inductive Corresponding (environment : Environment σ) (call : Call) (kind : WaitKind)
    (interval : Scalar) (left right : World σ) : Prop
  /-- The time of both waits is over, and what happens then, before the calls go on,
  corresponds as well. A sleep function does not notice a cancellation, so there it must not
  happen, and nothing comes after the time. -/
  | elapsed {leftWaited rightWaited leftLate rightLate : World σ}
      (leftWaits : environment.runDuring kind (environment.wait kind interval) left =
        .ok () leftWaited)
      (rightWaits : environment.runDuring .suspended (environment.wait .suspended interval) right =
        .ok () rightWaited)
      (waited : Alike leftWaited rightWaited)
      (unnoticed : kind = .sleeping → (leftWaited.progressOf call.number).cancelled = false)
      (leftLags : if kind = .sleeping then leftLate = leftWaited
        else environment.runDuring kind (environment.lag kind) leftWaited = .ok () leftLate)
      (rightLags : environment.runDuring .suspended (environment.lag .suspended) rightWaited =
        .ok () rightLate)
      (late : Alike leftLate rightLate) :
      Corresponding environment call kind interval left right
  /-- A sleep function and a task are interrupted from outside. -/
  | interrupted {blocking suspended : Failure} {leftWaited rightWaited : World σ}
      (sleeps : kind = .sleeping) (outside : FromOutside blocking suspended)
      (leftWaits : environment.run (environment.wait .sleeping interval) left =
        .error blocking leftWaited)
      (rightWaits : environment.firstDone call interval right = .error suspended rightWaited)
      (waited : Alike leftWaited rightWaited) :
      Corresponding environment call kind interval left right

inductive PassesAlike (kind : WaitKind) :
    EStateM.Result Failure (World σ) Bool → EStateM.Result Failure (World σ) Bool → Prop
  | elapsed {noticed : Bool} {left right : World σ} (alike : Alike left right) :
      PassesAlike kind (.ok noticed left) (.ok noticed right)
  | interrupted {blocking suspended : Failure} {left right : World σ} (sleeps : kind = .sleeping)
      (outside : FromOutside blocking suspended) (alike : Alike left right) :
      PassesAlike kind (.error blocking left) (.error suspended right)

/-- Whether a cancellation is noticed depends on what happens in the time of a wait. -/
theorem Corresponding.passesAlike {environment : Environment σ} {call : Call} {kind : WaitKind}
    {interval : Scalar} {left right : World σ}
    (corresponds : Corresponding environment call kind interval left right) :
    PassesAlike kind (environment.passTime call kind interval left)
      (environment.passTime call .suspended interval right) := by
  cases corresponds with
  | elapsed leftWaits rightWaits waited unnoticed leftLags rightLags late =>
      rw [Environment.passTime_apply, Environment.passTime_apply, leftWaits, rightWaits]
      simp only [reduceCtorEq, if_false, rightLags]
      by_cases sleeping : kind = .sleeping
      · rw [if_pos sleeping] at leftLags ⊢
        subst leftLags
        rw [← waited.progressOf, unnoticed sleeping]
        exact .elapsed late
      · rw [if_neg sleeping] at leftLags ⊢
        rw [leftLags, ← waited.progressOf]
        exact .elapsed late
  | interrupted sleeps outside leftWaits rightWaits waited =>
      subst sleeps
      simp only [Environment.passTime, bind_apply, leftWaits, rightWaits]
      exact .interrupted rfl outside waited

/-- How two calls that differ in their waits end, given the causes of failures before. -/
inductive Agreement (call : Call) (leftLinks rightLinks : CauseLinks) :
    EStateM.Result Failure (World σ) α → EStateM.Result Failure (World σ) α → Prop
  | answered {value : α} {left right : World σ} (alike : Alike left right)
      (leftKept : left.links = leftLinks) (rightKept : right.links = rightLinks) :
      Agreement call leftLinks rightLinks (.ok value left) (.ok value right)
  /-- A failure ends both calls, and no cause is attached to anything. -/
  | ended {raised : Failure} {left right : World σ} (alike : Alike left right)
      (leftKept : left.links = leftLinks) (rightKept : right.links = rightLinks) :
      Agreement call leftLinks rightLinks (.error raised left) (.error raised right)
  /-- A wait is interrupted, by a cancellation or from outside. -/
  | interrupted {identity : Identity} {interruption : Failure}
      {failure? leftOrigin? rightOrigin? : Option Failure} {left right : World σ}
      (alike : Alike left right)
      (noted : (left.progressOf call.number).interrupted = true)
      (last : (left.progressOf call.number).lastFailure = failure?)
      (made : interruption = .interruption identity call.policy.name (left.attemptsOf call))
      (origins : leftOrigin? = none ∧ rightOrigin? = none ∨ ∃ blocking suspended,
        FromOutside blocking suspended ∧ leftOrigin? = some blocking ∧
          rightOrigin? = some suspended)
      (leftChain : Chained failure? interruption leftOrigin? leftLinks left.links)
      (rightChain : Chained failure? interruption rightOrigin? rightLinks right.links) :
      Agreement call leftLinks rightLinks (.error (failure?.getD interruption) left)
        (.error (failure?.getD interruption) right)

namespace Environment

variable (environment : Environment σ) (call : Call)

theorem interruption_eq_of_alike {left right : World σ} (alike : Alike left right) :
    left.interruption call = right.interruption call := by
  simp only [World.interruption, attemptsOf, alike.failures, alike.progressOf]

theorem interruption_of_interrupting (world : World σ) (entry : LogEntry) (failures : Nat)
    (links : CauseLinks) :
    world.interruption call = .interruption (.made world.failures) call.policy.name
      ((world.interrupting call entry failures links).attemptsOf call) := by
  rw [attemptsOf, progressOf_interrupting]
  rfl

theorem Agreement.of_interrupting {left right : World σ} {leftEntry rightEntry : LogEntry}
    {leftFailures rightFailures : Nat} {leftLinks rightLinks leftLater rightLater : CauseLinks}
    {leftOrigin? rightOrigin? : Option Failure}
    (alike : Alike (left.interrupting call leftEntry leftFailures leftLater)
      (right.interrupting call rightEntry rightFailures rightLater))
    (origins : leftOrigin? = none ∧ rightOrigin? = none ∨ ∃ blocking suspended,
      FromOutside blocking suspended ∧ leftOrigin? = some blocking ∧ rightOrigin? = some suspended)
    (leftChain : Chained (left.progressOf call.number).lastFailure (left.interruption call)
      leftOrigin? leftLinks leftLater)
    (rightChain : Chained (left.progressOf call.number).lastFailure (left.interruption call)
      rightOrigin? rightLinks rightLater) :
    Agreement (α := α) call leftLinks rightLinks
      (.error ((left.progressOf call.number).lastFailure.getD (left.interruption call))
        (left.interrupting call leftEntry leftFailures leftLater))
      (.error ((left.progressOf call.number).lastFailure.getD (left.interruption call))
        (right.interrupting call rightEntry rightFailures rightLater)) := by
  have marked := progressOf_interrupting left call leftEntry leftFailures leftLater
  refine .interrupted alike ?_ ?_ (interruption_of_interrupting call left _ _ _) origins leftChain
    rightChain
  · rw [marked]
    rfl
  · rw [marked]
    rfl

theorem endCancelled_agrees {left right : World σ} (alike : Alike left right) :
    Agreement call left.links right.links (endCancelled (α := α) call left)
      (endCancelled call right) := by
  have results := mirrors_endCancelled (α := α) call alike
  have rightEnds := endCancelled_apply (α := α) call right
  rw [← interruption_eq_of_alike call alike, ← alike.progressOf, ← alike.failures] at rightEnds
  rw [endCancelled_apply, rightEnds] at results ⊢
  cases warning : (left.interruption call).warning (left.progressOf call.number).lastFailure with
  | error refusal =>
      rw [warning] at results
      cases results with
      | error after => exact .ended after rfl rfl
  | ok message =>
      rw [warning] at results
      cases results with
      | error after =>
          exact Agreement.of_interrupting call after (.inl ⟨rfl, rfl⟩) (chained_attach _ _ _)
            (chained_attach _ _ _)

theorem raiseInterrupted_agrees {blocking suspended : Failure}
    (outside : FromOutside blocking suspended) {left right : World σ} (alike : Alike left right) :
    Agreement call left.links right.links (raiseInterrupted (α := α) call blocking left)
      (raiseInterrupted call suspended right) := by
  have results := mirrors_raiseInterrupted (α := α) call
    (.inr ⟨blocking, suspended, outside, rfl, rfl⟩) alike
  have rightEnds := raiseInterrupted_of_foreign (α := α) call outside.suspendedNew right
  rw [← interruption_eq_of_alike call alike, ← alike.progressOf, ← alike.failures] at rightEnds
  rw [raiseInterrupted_of_foreign call outside.blockingNew, rightEnds] at results ⊢
  cases warning : (left.interruption call).warning (left.progressOf call.number).lastFailure with
  | error refusal =>
      rw [warning] at results
      cases results with
      | error after => exact .ended after rfl rfl
  | ok message =>
      rw [warning] at results
      cases results with
      | error after =>
          exact Agreement.of_interrupting call after (.inr ⟨blocking, suspended, outside, rfl, rfl⟩)
            (chained_attach_origin _ _ _ _) (chained_attach_origin _ _ _ _)

/-! ## Waits -/

/-- The waits of two calls correspond, if the calls wait at all. -/
def WaitsCorrespond (kind : WaitKind) (interval : Scalar) (left right : World σ) : Prop :=
  (left.progressOf call.number).cancelled = false →
    Corresponding environment call kind interval (left.beginning call kind interval)
      (right.beginning call .suspended interval)

theorem waitBefore_agrees {kind : WaitKind} {interval : Scalar} {left right : World σ}
    (alike : Alike left right)
    (correspond : environment.WaitsCorrespond call kind interval left right) :
    Agreement call left.links right.links (environment.waitBefore call kind interval left)
      (environment.waitBefore call .suspended interval right) := by
  cases cancelled : (left.progressOf call.number).cancelled with
  | true =>
      have skipped : Alike (left.note call (.waitSkipped kind interval))
          (right.note call (.waitSkipped .suspended interval)) := alike.observe rfl
      rw [environment.waitBefore_of_cancelled call _ interval cancelled,
        environment.waitBefore_of_cancelled call _ interval (alike.progressOf call.number ▸ cancelled)]
      exact endCancelled_agrees call skipped
  | false =>
      have passes := (correspond cancelled).passesAlike
      have leftKept := environment.outside_passTime call kind interval
      have rightKept := environment.outside_passTime call .suspended interval
      rw [environment.waitBefore_of_uncancelled call kind interval cancelled,
        environment.waitBefore_of_uncancelled call .suspended interval
          (alike.progressOf call.number ▸ cancelled)]
      generalize leftPasses : environment.passTime call kind interval
        (left.beginning call kind interval) = leftPassed at passes ⊢
      generalize rightPasses : environment.passTime call .suspended interval
        (right.beginning call .suspended interval) = rightPassed at passes ⊢
      cases passes with
      | elapsed slept =>
          rename_i noticed leftSlept rightSlept
          rw [← (leftKept.of_ok leftPasses).links_slept, ← (rightKept.of_ok rightPasses).links_slept]
          have waited : Alike (leftSlept.note call (.waitOver kind interval))
              (rightSlept.note call (.waitOver .suspended interval)) := slept.observe rfl
          cases noticed with
          | true => exact endCancelled_agrees call slept
          | false => exact .answered waited rfl rfl
      | interrupted sleeps outside slept =>
          subst sleeps
          rw [← (leftKept.of_error leftPasses).links_slept,
            ← (rightKept.of_error rightPasses).links_slept]
          simp only [outside.interrupts_sleeping, outside.interrupts_suspended, if_true]
          exact raiseInterrupted_agrees call outside slept

/-! ## Reports -/

/-- A failure is recorded in the same way; after it, the waits decide. -/
theorem recordAndWait_agrees {kind : WaitKind} (failure : Option Failure) {left right : World σ}
    (alike : Alike left right)
    (correspond : ∀ {interval leftPlanned rightPlanned},
      environment.recordFailure call failure left = .ok interval leftPlanned →
      environment.recordFailure call failure right = .ok interval rightPlanned →
      environment.WaitsCorrespond call kind interval leftPlanned rightPlanned) :
    Agreement call left.links right.links (environment.recordAndWait call kind failure left)
      (environment.recordAndWait call .suspended failure right) := by
  have recorded := environment.mirrors_recordFailure call failure alike
  have kept := environment.untouched_recordFailure call failure
  rw [recordAndWait_apply, recordAndWait_apply]
  generalize leftRecords : environment.recordFailure call failure left = leftRecorded
    at recorded ⊢
  generalize rightRecords : environment.recordFailure call failure right = rightRecorded
    at recorded ⊢
  cases recorded with
  | error stopped =>
      exact .ended stopped (kept.of_error leftRecords).links (kept.of_error rightRecords).links
  | ok planned =>
      have waited := environment.waitBefore_agrees call planned
        (correspond leftRecords rightRecords)
      rw [(kept.of_ok leftRecords).links, (kept.of_ok rightRecords).links] at waited
      dsimp only
      generalize environment.waitBefore call kind _ _ = leftWaited at waited ⊢
      generalize environment.waitBefore call .suspended _ _ = rightWaited at waited ⊢
      cases waited with
      | answered slept leftKept rightKept =>
          exact .answered (slept.changeProgress call.number .resume) leftKept rightKept
      | ended stopped leftKept rightKept => exact .ended stopped leftKept rightKept
      | interrupted alike noted last made origins leftChain rightChain =>
          exact .interrupted alike noted last made origins leftChain rightChain

end Environment

/-! ## What leaves a coroutine -/

/-- What is raised leaves a coroutine as it is. -/
def LeavesAsItIs (result : EStateM.Result Failure (World σ) α) : Prop :=
  ∀ ⦃raised after⦄, result = .error raised after → WaitKind.suspended.holdsBack raised = false

theorem Agreement.enclose {call : Call} {leftLinks rightLinks : CauseLinks} {right : World σ}
    {leftResult : EStateM.Result Failure (World σ) α} {body : Action σ α}
    (agreement : Agreement call leftLinks rightLinks leftResult (body right))
    (leaves : LeavesAsItIs leftResult) :
    Agreement call leftLinks rightLinks leftResult (WaitKind.suspended.enclose body right) := by
  rw [WaitKind.enclose_apply]
  generalize body right = rightResult at agreement ⊢
  cases agreement with
  | answered alike leftKept rightKept => exact .answered alike leftKept rightKept
  | ended alike leftKept rightKept =>
      simp only [leaves rfl, Bool.false_eq_true, if_false]
      exact .ended alike leftKept rightKept
  | interrupted alike noted last made origins leftChain rightChain =>
      simp only [leaves rfl, Bool.false_eq_true, if_false]
      exact .interrupted alike noted last made origins leftChain rightChain

namespace Environment

variable (environment : Environment σ) (call : Call)

theorem onFailure_agrees {kind : WaitKind} (awake : kind ≠ .suspended) (failure : Option Failure)
    {left right : World σ} (alike : Alike left right)
    (correspond : ∀ {interval leftPlanned rightPlanned},
      environment.recordFailure call failure left = .ok interval leftPlanned →
      environment.recordFailure call failure right = .ok interval rightPlanned →
      environment.WaitsCorrespond call kind interval leftPlanned rightPlanned)
    (leaves : LeavesAsItIs (environment.onFailure call kind failure left)) :
    Agreement call left.links right.links (environment.onFailure call kind failure left)
      (environment.onFailure call .suspended failure right) := by
  rw [onFailure_eq, WaitKind.enclose_of_awake awake] at leaves ⊢
  exact (environment.recordAndWait_agrees call failure alike correspond).enclose leaves

end Environment

end Reattempt
