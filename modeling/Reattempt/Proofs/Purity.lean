import Reattempt.Proofs.Speech

/-! Pure code of the caller. A pure predicate or interval function ends in the same way
wherever it is asked and touches none of certain calls. Then classifying a failure and
computing an interval do so as well, whatever the backoff. -/

namespace Reattempt

variable {σ α β : Type}

open World

namespace Action

/-- The action ends in the same way in all worlds, up to the number of a failure that the
engine makes, and keeps the calls where they are. -/
def Constant (calls : Nat → Prop) (action : Action σ α) : Prop :=
  ∃ outcome : Except Failure α, ∀ world, ∃ ended after,
    action world = Action.ending ended after ∧
    ended.mapError Failure.unnumbered = outcome.mapError Failure.unnumbered ∧
    SameProgress calls world after

variable {calls : Nat → Prop}

theorem constant_pure (value : α) : (pure value : Action σ α).Constant calls :=
  ⟨.ok value, fun world => ⟨.ok value, world, rfl, rfl, fun _ _ => rfl⟩⟩

theorem constant_observe (observation : Observation) :
    (observe observation : Action σ Unit).Constant calls :=
  ⟨.ok (), fun world => ⟨.ok (), world.observe observation, rfl, rfl, fun _ _ => rfl⟩⟩

theorem constant_calculate (result : Except ArithmeticFault α) :
    (calculate result : Action σ α).Constant calls := by
  cases result with
  | ok value => exact constant_pure value
  | error fault =>
      refine ⟨.error (fault.toFailure (.made 0)), fun world => ?_⟩
      exact ⟨.error (fault.toFailure (.made world.failures)), _, rfl, rfl, fun _ _ => rfl⟩

theorem Constant.bind {action : Action σ α} {next : α → Action σ β}
    (first : action.Constant calls) (rest : ∀ value, (next value).Constant calls) :
    (action >>= next).Constant calls := by
  rcases first with ⟨outcome, first⟩
  cases outcome with
  | error failure =>
      refine ⟨.error failure, fun world => ?_⟩
      rcases first world with ⟨ended | ended, after, ends, same, kept⟩
      · refine ⟨.error ended, after, ?_, ?_, kept⟩
        · rw [bind_apply, ends]
          rfl
        · exact congrArg Except.error (Except.error.inj same)
      · cases same
  | ok value =>
      rcases rest value with ⟨outcome, rest⟩
      refine ⟨outcome, fun world => ?_⟩
      rcases first world with ⟨ended | ended, middle, ends, same, kept⟩
      · cases same
      · cases same
        rcases rest middle with ⟨last, after, continues, same, keptToo⟩
        refine ⟨last, after, ?_, same, trans_of (SameProgress calls) kept keptToo⟩
        rw [bind_apply, ends]
        exact continues

/-- What is constant says the same word to every call. -/
theorem Constant.word {action : Action σ α} (constant : action.Constant calls) :
    ∃ word : Word α, word.cancels = false ∧ ∀ {call}, calls call →
      ∀ world, action.TellsAlike call world word := by
  rcases constant with ⟨outcome, each⟩
  refine ⟨{ ending := outcome }, rfl, ?_⟩
  intro call member world
  rcases each world with ⟨ended, after, ends, same, kept⟩
  exact ⟨{ ending := ended }, ⟨after, ends, kept call member⟩, by rw [Word.unnumbered, same]; rfl⟩

theorem Constant.keeps {action : Action σ α} (constant : action.Constant calls) :
    action.Keeps (SameProgress calls) := by
  rcases constant with ⟨outcome, each⟩
  intro world
  rcases each world with ⟨ended, after, ends, -, kept⟩
  cases ended with
  | ok value => rwa [after_eq_of_ok ends]
  | error failure => rwa [after_eq_of_error ends]

end Action

open Reattempt.Action

/-- The code that a failure is classified and an interval is computed with is pure. -/
structure Environment.Pure (environment : Environment σ) (calls : Nat → Prop) : Prop where
  predicate : ∀ function failure,
    (environment.run (environment.predicate function failure)).Constant calls
  interval : ∀ function attempt,
    (environment.run (environment.interval function attempt)).Constant calls
  draw : ∀ low high, (environment.run (environment.draw low high)).Constant calls

namespace Environment.Pure

variable {environment : Environment σ} {calls : Nat → Prop} (pure : environment.Pure calls)

include pure

theorem isRetryable (config : Config) (failure : Option Failure) :
    (environment.isRetryable config failure).Constant calls := by
  rw [Environment.isRetryable]
  split
  · split
    · exact constant_pure true
    · exact pure.predicate _ failure
  · exact constant_pure false

theorem jitter (factor delay : Scalar) : (environment.jitter factor delay).Constant calls := by
  have uniform (low high : Scalar) : (environment.uniform low high).Constant calls := by
    apply Constant.bind (pure.draw low high)
    intro draw
    apply Constant.bind (constant_observe _)
    intro _
    apply Constant.bind (constant_calculate _)
    intro width
    apply Constant.bind (constant_calculate _)
    intro shift
    exact constant_calculate _
  apply Constant.bind (constant_calculate _)
  intro spread
  apply Constant.bind (constant_calculate _)
  intro low
  apply Constant.bind (constant_calculate _)
  intro high
  apply Constant.bind (uniform low high)
  intro value
  exact constant_pure _

theorem delay (backoff : Backoff) (attempt : Int) :
    (environment.delay backoff attempt).Constant calls := by
  induction backoff with
  | constant delay => exact constant_pure delay
  | linear base cap => exact constant_calculate _
  | exponential base multiplier cap => exact constant_calculate _
  | fibonacci base cap => exact constant_calculate _
  | randomized inner factor induction =>
      exact Constant.bind induction fun delay => pure.jitter factor delay
  | custom function => exact pure.interval function attempt

end Environment.Pure

end Reattempt
