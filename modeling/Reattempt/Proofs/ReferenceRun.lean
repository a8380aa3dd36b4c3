import Mathlib.Data.Nat.Find
import Reattempt.Proofs.Closing

/-! Runs by a script. One of the five ways to close applies to every script that does not
go on for ever. The run under a policy takes the full rounds before the last attempt and
closes in this way. -/

namespace Reattempt

variable {σ α : Type}

namespace Environment

open World

/-- The attempts up to the number fail and are worth another one, and the limit allows
it. -/
structure Continues (call : Call) (outcome : Nat → Except Failure α) (retryable : Nat → Bool)
    (number : Nat) : Prop where
  retries : ∀ {earlier}, 0 < earlier → earlier ≤ number → Retries outcome retryable earlier
  allowed : call.policy.config.limit.isReached number = false

inductive Closes (call : Call) (outcome : Nat → Except Failure α) (retryable : Nat → Bool) :
    Closing α → Prop
  | exhausted {number : Nat} {positive : 0 < number + 1} {failure : Failure}
      (limit : call.policy.config.limit = .atMost (number + 1) positive)
      (retries : ∀ {earlier}, 0 < earlier → earlier ≤ number + 1 →
        Retries outcome retryable earlier)
      (raised : outcome (number + 1) = .error failure) :
      Closes call outcome retryable (.exhausted call number failure)
  | rejected {number : Nat} {failure : Failure}
      (continues : Continues call outcome retryable number)
      (raised : outcome (number + 1) = .error failure) (ordinary : failure.isA .ordinary = true)
      (worthless : retryable (number + 1) = false) :
      Closes call outcome retryable (.rejected call number (lastFailure outcome number) failure)
  | escaped {number : Nat} {failure : Failure} (continues : Continues call outcome retryable number)
      (raised : outcome (number + 1) = .error failure)
      (extraordinary : failure.isA .ordinary = false) :
      Closes call outcome retryable (.escaped number (lastFailure outcome number) failure)
  | succeededAtOnce {value : α} (answered : outcome 1 = .ok value) :
      Closes call outcome retryable (.succeededAtOnce value)
  | succeeded {number : Nat} {value : α} (continues : Continues call outcome retryable number)
      (positive : 0 < number) (answered : outcome (number + 1) = .ok value) :
      Closes call outcome retryable (.succeeded call number (lastFailure outcome number) value)

theorem isReached_mono {limit : AttemptLimit} {earlier later : Nat} (order : earlier ≤ later)
    (allowed : limit.isReached later = false) : limit.isReached earlier = false := by
  cases limit with
  | unlimited => rfl
  | atMost maximum positive =>
      simp only [AttemptLimit.isReached, decide_eq_false_iff_not] at allowed ⊢
      omega

theorem exists_closes (call : Call) (outcome : Nat → Except Failure α) (retryable : Nat → Bool)
    (stops : call.policy.config.limit = .unlimited →
      ∃ number, 0 < number ∧ ¬ Retries outcome retryable number) :
    ∃ closing, Closes call outcome retryable closing := by
  classical
  by_cases last : ∃ number, call.policy.config.limit.isReached number = false ∧
      ¬ Retries outcome retryable (number + 1)
  · have found := Nat.find_spec last
    have continues : Continues call outcome retryable (Nat.find last) := by
      refine ⟨?_, found.1⟩
      intro earlier positive order
      have smaller := Nat.find_min last (show earlier - 1 < Nat.find last by omega)
      rw [not_and_not_right, Nat.sub_add_cancel positive] at smaller
      exact smaller (isReached_mono (by omega) found.1)
    generalize Nat.find last = number at found continues
    cases ends : outcome (number + 1) with
    | ok value =>
        rcases Nat.eq_zero_or_pos number with rfl | positive
        · exact ⟨_, .succeededAtOnce ends⟩
        · exact ⟨_, .succeeded continues positive ends⟩
    | error failure =>
        cases ordinary : failure.isA .ordinary with
        | false => exact ⟨_, .escaped continues ends ordinary⟩
        | true =>
            cases worth : retryable (number + 1) with
            | false => exact ⟨_, .rejected continues ends ordinary worth⟩
            | true => exact absurd ⟨failure, ends, ordinary, worth⟩ found.2
  · cases limit : call.policy.config.limit with
    | unlimited =>
        rcases stops limit with ⟨number, positive, gives⟩
        refine absurd ⟨number - 1, by rw [limit]; rfl, ?_⟩ last
        rwa [Nat.sub_add_cancel positive]
    | atMost maximum positive =>
        have all : ∀ {earlier}, 0 < earlier → earlier ≤ maximum →
            Retries outcome retryable earlier := by
          intro earlier first order
          by_contra gives
          refine last ⟨earlier - 1, ?_, by rwa [Nat.sub_add_cancel first]⟩
          simp only [limit, AttemptLimit.isReached, decide_eq_false_iff_not]
          omega
        cases maximum with
        | zero => cases positive
        | succ number =>
            rcases all (Nat.succ_pos number) (Nat.le_refl _) with ⟨failure, raised, -⟩
            exact ⟨_, .exhausted limit all raised⟩

namespace Conduct

variable {environment : Environment σ} {call : Call} {kind : WaitKind}
  {operation : Arguments → Behaviour σ α} {arguments : Arguments} {stage : Nat → σ → Prop}
  {outcome : Nat → Except Failure α} {retryable : Nat → Bool} {interval : Nat → Scalar}
  (conduct : Conduct environment call kind operation arguments stage outcome retryable interval)

include conduct

theorem closes {closing : Closing α} (closes : Closes call outcome retryable closing) :
    ∃ number, closing.attempts = number + 1 ∧ Continues call outcome retryable number ∧
      ∀ {before : World σ}, Reached outcome call stage number before → ∃ heard after,
        (∀ budget, environment.attemptWithin call kind operation arguments (budget + 1) before =
          kind.enclose closing.result after) ∧
        Concluded call arguments closing heard before after := by
  cases closes with
  | exhausted limit retries raised =>
      rename_i number positive failure
      refine ⟨number, rfl, ⟨fun first order => retries first (Nat.le_succ_of_le order), ?_⟩, ?_⟩
      · simp [limit, AttemptLimit.isReached]
      · intro before reached
        rcases retries positive (Nat.le_refl _) with ⟨same, equal, ordinary, worth⟩
        rw [raised] at equal
        cases equal
        exact conduct.exhausts reached raised ordinary worth
          (by simp [limit, AttemptLimit.isReached])
  | rejected continues raised ordinary worthless =>
      exact ⟨_, rfl, continues, fun reached => conduct.rejects reached raised ordinary worthless⟩
  | escaped continues raised extraordinary =>
      rename_i number failure
      refine ⟨_, rfl, continues, fun reached => ?_⟩
      rcases conduct.escapes reached raised extraordinary with ⟨heard, after, ends, concluded⟩
      have released : kind.enclose (throw failure : Action σ (Option α)) after =
          .error failure after :=
        WaitKind.enclose_of_error rfl (kind.holdsBack_of_special extraordinary)
      exact ⟨heard, after, fun budget => (ends budget).trans released.symm, concluded⟩
  | succeededAtOnce answered =>
      refine ⟨0, rfl, ⟨fun first order => absurd order (by omega), ?_⟩, ?_⟩
      · cases limit : call.policy.config.limit with
        | unlimited => rfl
        | atMost maximum positive =>
            simpa [AttemptLimit.isReached] using Nat.pos_iff_ne_zero.mp positive
      · intro before reached
        rcases conduct.succeedsAtOnce reached rfl answered with ⟨heard, after, ends, concluded⟩
        exact ⟨heard, after, fun budget => (ends budget).trans (kind.enclose_pure _ _).symm,
          concluded⟩
  | succeeded continues positive answered =>
      refine ⟨_, rfl, continues, fun reached => ?_⟩
      rcases conduct.succeeds reached positive answered with ⟨heard, after, ends, concluded⟩
      exact ⟨heard, after, fun budget => (ends budget).trans (kind.enclose_pure _ _).symm,
        concluded⟩

end Conduct

/-! ## A script in memory -/

namespace Scripted

def operation (outcome : Nat → Except Failure α) (_ : Arguments) : Behaviour Nat α :=
  .look fun _ attempts => .remember (attempts + 1)
    (match outcome (attempts + 1) with
    | .ok value => .answer value
    | .error failure => .raise failure)

def environment : Environment Nat where
  interval _ _ := .answer Backoff.defaultDelay
  predicate _ _ := .answer true
  listener _ _ _ := .answer ()
  wait _ _ := .answer ()
  draw _ _ := .answer 0.0
  depth := 0

theorem conduct (call : Call) (usual : call.policy.config = .default) (kind : WaitKind)
    (arguments : Arguments) (outcome : Nat → Except Failure α)
    (worded : ∀ {number failure}, outcome number = .error failure → failure.isWorded = true) :
    Conduct environment call kind (operation outcome) arguments
      (fun number memory => memory = number)
      outcome (fun _ => true) (fun _ => Backoff.defaultDelay) where
  operates number world steady := by
    have place : world.memory = number := steady.memory
    refine ⟨{ world with memory := number + 1 }, ?_, rfl, steady.uncancelled⟩
    simp only [run, operation, Behaviour.perform, Action.bind_apply, Action.get_apply, place,
      Action.modify_apply]
    cases outcome (number + 1) <;> rfl
  classifies _ _ _ world steady := by
    rw [usual]
    exact ⟨world, rfl, steady⟩
  computes _ world steady := by
    rw [usual]
    exact ⟨world, rfl, steady⟩
  writes _ := ⟨_, rfl⟩
  waits _ world steady := ⟨world, rfl, steady⟩
  lags _ world steady := ⟨world, rfl, steady⟩
  words raised _ := worded raised
  listens {_ world} _ _ steady := ⟨.ok (), world, rfl, by simp, steady⟩

def policy : Policy where
  number := 0
  name := "backend"
  shared := { number := 0, config := .default }
  publisher := 0
  sleeps := false

def failingOnce : Nat → Except Failure Nat
  | 1 => .error (.ofMessage (.given 0) .connection "unreachable")
  | _ => .ok 7

theorem worded_failingOnce {number : Nat} {failure : Failure}
    (raised : failingOnce number = .error failure) : failure.isWorded = true := by
  unfold failingOnce at raised
  split at raised
  · cases raised
    decide
  · cases raised

end Scripted

namespace Scripted

def echoing : Environment Nat :=
  { environment with
    listener := fun publisher listener _ =>
      if listener = "echo" then
        .publish publisher
          { detail := .error, policyName := "backend", attempts := 2, lastFailure := none }
          (.answer ())
      else .answer ()
    depth := 1 }

def pair : Policy :=
  { policy with
    shared :=
      { number := 0, config := { Config.default with limit := .atMost 2 (Nat.succ_pos 1) } } }

def unreachable : Failure := .ofMessage (.given 0) .connection "unreachable"

def crowd : World Nat where
  tables := OrderedMap.empty.set 0
    ((ListenerTable.empty.registerAll EventKind.all "auditor").register .retry "echo")
  memory := 0

end Scripted

end Environment

end Reattempt
