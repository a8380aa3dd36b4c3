import Reattempt.Proofs.Leads
import Reattempt.Proofs.Round

/-! The ledger of a policy. Reports of successes and failures, in any order and on any
calls of the policy, are entered into a ledger by what the caller's code says about
them. The counters of the policy are the ledger, counted. -/

namespace Reattempt

variable {σ : Type}

inductive Entry where
  | succeededAtOnce
  | succeededAfterRetry
  | rejected
  | exhausted
  /-- The failure is worth another attempt, and its wait is known. -/
  | retried
  deriving DecidableEq, Repr

def EventKind.entry : EventKind → Entry
  | .success => .succeededAfterRetry
  | .retry => .retried
  | .error => .exhausted
  | .ignoredError => .rejected

namespace Counters

/-- Count the entries of a ledger. A retry is not counted. -/
def enter (counters : Counters) (ledger : List Entry) : Counters where
  succeededAtOnce := counters.succeededAtOnce + ledger.count .succeededAtOnce
  succeededAfterRetry := counters.succeededAfterRetry + ledger.count .succeededAfterRetry
  rejected := counters.rejected + ledger.count .rejected
  exhausted := counters.exhausted + ledger.count .exhausted

private theorem enter_append (counters : Counters) (earlier later : List Entry) :
    counters.enter (earlier ++ later) = (counters.enter earlier).enter later := by
  simp only [enter, List.count_append, Nat.add_assoc]

end Counters

def World.SameCounters (policy : Nat) (before after : World σ) : Prop :=
  after.countersOf policy = before.countersOf policy

instance (policy : Nat) : IsPreorder (World σ) (World.SameCounters policy) where
  refl _ := rfl
  trans _ _ _ begun ended := ended.trans begun

/-- What may happen between two moments of the history of a policy. A failure may be
reported as a whole, or its record and its wait come at different times, with other
turns in between. -/
inductive Turn (σ : Type) where
  | success (call : Nat)
  | failure (call : Nat) (kind : WaitKind) (failure : Option Failure)
  | record (call : Nat) (failure : Option Failure)
  | wait (call : Nat) (kind : WaitKind) (interval : Scalar)
  /-- The caller's code does something of its own. -/
  | aside (behaviour : Behaviour σ Unit)

namespace Environment

open World Reattempt.Action

variable (environment : Environment σ)

section Reports

variable (call : Call)

def waitAndResume (kind : WaitKind) (interval : Scalar) : Action σ Unit := do
  environment.waitBefore call kind interval
  Action.changeProgress call.number .resume

def entryOfSuccess (before : World σ) : Entry :=
  if 0 < before.attemptsOf call then .succeededAfterRetry else .succeededAtOnce

/-- What is entered for a failure that is worth another attempt and within the limit.
Nothing is, unless the interval function answers with a number that can be written. -/
def entryOfInterval (attempts : Nat) (asking : World σ) : Option Entry :=
  match environment.delay call.policy.config.interval attempts asking with
  | .error _ _ => none
  | .ok interval _ =>
      match interval.fixedText with
      | .error _ => none
      | .ok _ => some .retried

/-- What is entered for a failure. Nothing is, if the predicate raises a failure. -/
def entryOfFailure (failure : Option Failure) (before : World σ) : Option Entry :=
  match environment.isRetryable call.policy.config failure before with
  | .error _ _ => none
  | .ok false _ => some .rejected
  | .ok true judged =>
      let attempts := judged.attemptsOf call + 1
      if call.policy.config.limit.isReached attempts then some .exhausted
      else
        environment.entryOfInterval call attempts
          ((judged.counting call failure).note call (.intervalAsked attempts))

/-! ## Counting -/

private theorem countersOf_of_announce {detail : EventDetail} {attempts : Nat}
    {failure : Option Failure} {world after : World σ}
    (announces : (environment.announce call detail attempts failure).after world = after)
    (policy : Nat) : after.countersOf policy = world.countersOf policy := by
  subst announces
  rw [(environment.outside_announce call detail attempts failure world).countersOf,
    countersOf_announcing]

private theorem countersOf_of_conclude {α : Type} {detail : EventDetail} {attempts : Nat}
    {failure : Option Failure} {wording : Wording} {entry : String → LogEntry}
    {world after : World σ} {raised : Failure}
    (concludes : environment.conclude (α := α) call detail attempts failure wording entry world =
      .error raised after) (policy : Nat) : after.countersOf policy = world.countersOf policy := by
  have concluding := environment.concluding_conclude (α := α) call detail attempts failure wording
    entry world
  rw [concludes] at concluding
  cases concluding with
  | unwritten refusal => rfl
  | announced outside => rw [outside.countersOf, countersOf_announcing, countersOf_observe]

theorem countersOf_onSuccess (before : World σ) :
    ((environment.onSuccess call).after before).countersOf call.policy.number =
      (before.countersOf call.policy.number).enter [entryOfSuccess call before] := by
  rcases Nat.eq_zero_or_pos (before.attemptsOf call) with never | retried
  · rw [after_eq_of_ok (environment.onSuccess_at_once call never), entryOfSuccess, never]
    exact countersOf_changeCounters_self _ _ _
  · rcases environment.onSuccess_after_retry call retried with ⟨entry, announces⟩
    rw [environment.countersOf_of_announce call (after_congr announces).symm, entryOfSuccess,
      if_pos retried, countersOf_observe]
    exact countersOf_changeCounters_self _ _ _

theorem countersOf_of_planning {attempts : Nat} {failure : Option Failure} {asking : World σ}
    {result : EStateM.Result Failure (World σ) Scalar}
    (planning : Planning environment call attempts failure asking result) (policy : Nat) :
    (lastWorld result).countersOf policy = (asking.countersOf policy).enter
      (environment.entryOfInterval call attempts asking).toList := by
  have computed := environment.keeps_delay call.policy.config.interval attempts
  cases planning with
  | uncomputed computes =>
      rw [entryOfInterval, computes]
      exact (computed.of_error computes).countersOf policy
  | unwritten computes unwritten =>
      simp only [entryOfInterval, computes, unwritten]
      exact (computed.of_ok computes).countersOf policy
  | unannounced computes written announces =>
      simp only [entryOfInterval, computes, written]
      rw [lastWorld, environment.countersOf_of_announce call (after_eq_of_error announces),
        countersOf_observe]
      exact (computed.of_ok computes).countersOf policy
  | announced computes written announces =>
      simp only [entryOfInterval, computes, written]
      rw [lastWorld, environment.countersOf_of_announce call (after_eq_of_ok announces),
        countersOf_observe]
      exact (computed.of_ok computes).countersOf policy

theorem countersOf_recordFailure (failure : Option Failure) (before : World σ) :
    ((environment.recordFailure call failure).after before).countersOf call.policy.number =
      (before.countersOf call.policy.number).enter
        (environment.entryOfFailure call failure before).toList := by
  have recording := environment.recording_recordFailure call failure before
  generalize ends : environment.recordFailure call failure before = result at recording
  cases recording with
  | unclassified asked =>
      rw [after_eq_of_error ends, entryOfFailure, asked]
      exact ((environment.keeps_isRetryable _ _).of_error asked).countersOf _
  | rejected asked concludes =>
      rw [after_eq_of_error ends, entryOfFailure, asked,
        environment.countersOf_of_conclude call concludes,
        (Leads.rejecting failure).counters, (outside_of_isRetryable asked).countersOf]
      rfl
  | exhausted asked reached concludes =>
      rw [after_eq_of_error ends, entryOfFailure, asked,
        environment.countersOf_of_conclude call concludes,
        (Leads.exhausting failure).counters, (outside_of_isRetryable asked).countersOf]
      simp only [reached, if_true]
      rfl
  | planned asked allowed planning =>
      rw [after, ends, environment.countersOf_of_planning call planning, entryOfFailure, asked,
        countersOf_note, (Leads.counting failure).counters,
        (outside_of_isRetryable asked).countersOf]
      simp only [allowed, Bool.false_eq_true, if_false]
      rfl

theorem ignoresWaits_sameCounters (policy : Nat) :
    IgnoresWaits call (SameCounters (σ := σ) policy) where
  note _ _ := rfl
  logged _ _ := rfl
  changeProgress _ _ := rfl
  relinking _ _ _ := rfl

theorem countersOf_waitAndResume (kind : WaitKind) (interval : Scalar) (policy : Nat) :
    (environment.waitAndResume call kind interval).Keeps (SameCounters policy) := by
  have passes : (environment.passTime call kind interval).Keeps (SameCounters policy) :=
    fun world => (environment.outside_passTime call kind interval world).countersOf policy
  apply Keeps.bind ((ignoresWaits_sameCounters call policy).keeps_waitBefore passes)
  intro _ world
  rfl

theorem countersOf_onFailure (kind : WaitKind) (failure : Option Failure) (before : World σ) :
    ((environment.onFailure call kind failure).after before).countersOf call.policy.number =
      (before.countersOf call.policy.number).enter
        (environment.entryOfFailure call failure before).toList := by
  have waited := Keeps.after_bind (environment.recordFailure call failure)
    (fun interval => environment.countersOf_waitAndResume call kind interval call.policy.number)
    before
  rcases kind.after_enclose (environment.recordAndWait call kind failure) before with
    ⟨failures, -, enclosed⟩
  rw [onFailure_eq, enclosed]
  exact waited.trans (environment.countersOf_recordFailure call failure before)

end Reports

/-! ## Histories -/

variable (policy : Policy)

def take : Turn σ → Action σ Unit
  | .success call => environment.onSuccess ⟨call, policy⟩
  | .failure call kind failure => environment.onFailure ⟨call, policy⟩ kind failure
  | .record call failure => do
      let _ ← environment.recordFailure ⟨call, policy⟩ failure
  | .wait call kind interval => environment.waitAndResume ⟨call, policy⟩ kind interval
  | .aside behaviour => environment.run behaviour

def entryOf (turn : Turn σ) (before : World σ) : Option Entry :=
  match turn with
  | .success call => some (entryOfSuccess ⟨call, policy⟩ before)
  | .failure call _ failure | .record call failure =>
      environment.entryOfFailure ⟨call, policy⟩ failure before
  | .wait _ _ _ | .aside _ => none

def history : List (Turn σ) → World σ → World σ
  | [], world => world
  | turn :: rest, world => history rest ((environment.take policy turn).after world)

def ledger : List (Turn σ) → World σ → List Entry
  | [], _ => []
  | turn :: rest, world =>
      (environment.entryOf policy turn world).toList ++
        ledger rest ((environment.take policy turn).after world)

theorem countersOf_take (turn : Turn σ) (before : World σ) :
    ((environment.take policy turn).after before).countersOf policy.number =
      (before.countersOf policy.number).enter
        (environment.entryOf policy turn before).toList := by
  cases turn with
  | success call => exact environment.countersOf_onSuccess ⟨call, policy⟩ before
  | failure call kind failure =>
      exact environment.countersOf_onFailure ⟨call, policy⟩ kind failure before
  | record call failure =>
      have silent (interval : Scalar) :
          (pure () : Action σ Unit).Keeps (SameCounters policy.number) := keeps_pure ()
      have ended := Keeps.after_bind (environment.recordFailure ⟨call, policy⟩ failure) silent
        before
      exact ended.trans (environment.countersOf_recordFailure ⟨call, policy⟩ failure before)
  | wait call kind interval =>
      exact environment.countersOf_waitAndResume ⟨call, policy⟩ kind interval policy.number before
  | aside behaviour => exact (environment.keeps_run behaviour before).countersOf policy.number

/-- The counters are the ledger, counted. -/
theorem countersOf_history (turns : List (Turn σ)) (before : World σ) :
    (environment.history policy turns before).countersOf policy.number =
      (before.countersOf policy.number).enter (environment.ledger policy turns before) := by
  induction turns generalizing before with
  | nil => rfl
  | cons turn rest induction =>
      rw [history, induction, countersOf_take, ledger, Counters.enter_append]

end Environment

end Reattempt
