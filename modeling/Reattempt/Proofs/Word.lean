import Reattempt.Proofs.Conduct
import Reattempt.Proofs.Unnumbered

/-! What the caller's code says when it runs once, as far as a call is concerned. -/

namespace Reattempt

variable {σ α : Type}

/-- What the caller's code says when it runs: how it ends, and whether it cancels the call
meanwhile. -/
structure Word (α : Type) where
  ending : Except Failure α
  cancels : Bool := false

namespace Word

def unnumbered (word : Word α) : Word α :=
  { word with ending := word.ending.mapError Failure.unnumbered }

/-- The interval that is waited for after this is said. It must be possible to write it into
the log. -/
def plan (word : Word Scalar) : Except Failure Scalar :=
  match word.ending with
  | .error raised => .error raised
  | .ok interval =>
      match interval.fixedText with
      | .error fault => .error (fault.toFailure (.made 0))
      | .ok _ => .ok interval

def during (kind : WaitKind) (word : Word Unit) : Word Unit :=
  match word.ending with
  | .ok () => word
  | .error raised =>
      if kind = .suspended ∧ raised.taskEffect = .endsTask then { word with ending := .ok () }
      else word

def passing (kind : WaitKind) (word late : Word Unit) : Word Bool :=
  match word.ending with
  | .error raised => { ending := .error raised, cancels := word.cancels }
  | .ok () =>
      if kind = .sleeping then { ending := .ok false, cancels := word.cancels }
      else { ending := late.ending.map fun _ => word.cancels, cancels := word.cancels || late.cancels }

theorem unnumbered_congr {first second : Word α} (ending : first.ending.mapError Failure.unnumbered =
    second.ending.mapError Failure.unnumbered) (cancels : first.cancels = second.cancels) :
    first.unnumbered = second.unnumbered := by
  rw [unnumbered, unnumbered, ending, cancels]

theorem ending_of_alike {first second : Word α} (alike : first.unnumbered = second.unnumbered) :
    first.ending.mapError Failure.unnumbered = second.ending.mapError Failure.unnumbered ∧
      first.cancels = second.cancels :=
  Word.mk.inj alike

theorem during_congr (kind : WaitKind) {first second : Word Unit}
    (alike : first.unnumbered = second.unnumbered) :
    (first.during kind).unnumbered = (second.during kind).unnumbered := by
  rcases first with ⟨raised | _, _⟩ <;> rcases second with ⟨other | _, _⟩ <;>
    rcases ending_of_alike alike with ⟨same, rfl⟩
  · have same : raised.unnumbered = other.unnumbered := Except.error.inj same
    have effect : raised.taskEffect = other.taskEffect := by
      rw [← raised.taskEffect_unnumbered, same, other.taskEffect_unnumbered]
    simp only [during, effect]
    split
    · rfl
    · exact alike
  · cases same
  · cases same
  · rfl

theorem passing_congr (kind : WaitKind) {first second late other : Word Unit}
    (alike : first.unnumbered = second.unnumbered) (alikeToo : late.unnumbered = other.unnumbered) :
    (passing kind first late).unnumbered = (passing kind second other).unnumbered := by
  rcases first with ⟨_ | _, _⟩ <;> rcases second with ⟨_ | _, _⟩ <;>
    rcases ending_of_alike alike with ⟨same, rfl⟩
  · simp only [passing]
    exact unnumbered_congr (congrArg Except.error (Except.error.inj same)) rfl
  · cases same
  · cases same
  · rcases ending_of_alike alikeToo with ⟨sameToo, equal⟩
    simp only [passing]
    split
    · rfl
    · apply unnumbered_congr
      · rcases late with ⟨_ | _, _⟩ <;> rcases other with ⟨_ | _, _⟩
        · exact congrArg Except.error (Except.error.inj sameToo)
        · cases sameToo
        · cases sameToo
        · rfl
      · simp only [equal]

end Word

namespace Action

def Tells (action : Action σ α) (call : Nat) (world : World σ) (word : Word α) : Prop :=
  ∃ after, action world = Action.ending word.ending after ∧
    after.progressOf call = (world.progressOf call).heed word.cancels

/-- In this world the action says the word, up to the number of a failure that the engine
makes. -/
def TellsAlike (action : Action σ α) (call : Nat) (world : World σ) (word : Word α) : Prop :=
  ∃ said, action.Tells call world said ∧ said.unnumbered = word.unnumbered

namespace Tells

variable {action : Action σ α} {call : Nat} {world after : World σ} {word : Word α}
  (tells : action.Tells call world word)

include tells

theorem of_ok {value : α} (ends : action world = .ok value after) :
    word.ending = .ok value ∧
      after.progressOf call = (world.progressOf call).heed word.cancels := by
  rcases tells with ⟨told, equal, progress⟩
  rw [ends] at equal
  cases said : word.ending with
  | error raised =>
      rw [said] at equal
      cases equal
  | ok other =>
      rw [said] at equal
      cases equal
      exact ⟨rfl, progress⟩

theorem of_error {raised : Failure} (ends : action world = .error raised after) :
    word.ending = .error raised ∧
      after.progressOf call = (world.progressOf call).heed word.cancels := by
  rcases tells with ⟨told, equal, progress⟩
  rw [ends] at equal
  cases said : word.ending with
  | ok value =>
      rw [said] at equal
      cases equal
  | error other =>
      rw [said] at equal
      cases equal
      exact ⟨rfl, progress⟩

end Tells

namespace TellsAlike

variable {action : Action σ α} {call : Nat} {world after : World σ} {word : Word α}
  (tells : action.TellsAlike call world word)

include tells

theorem of_ok {value : α} (ends : action world = .ok value after) :
    word.ending = .ok value ∧
      after.progressOf call = (world.progressOf call).heed word.cancels := by
  rcases tells with ⟨⟨ending, cancels⟩, tells, alike⟩
  rcases word with ⟨other, cancelsToo⟩
  rcases tells.of_ok ends with ⟨rfl, equal⟩
  cases other with
  | error raised => cases alike
  | ok said =>
      cases alike
      exact ⟨rfl, equal⟩

theorem of_error {raised : Failure} (ends : action world = .error raised after) :
    (∃ said, word.ending = .error said ∧ said.unnumbered = raised.unnumbered) ∧
      after.progressOf call = (world.progressOf call).heed word.cancels := by
  rcases tells with ⟨⟨ending, cancels⟩, tells, alike⟩
  rcases word with ⟨other, cancelsToo⟩
  rcases tells.of_error ends with ⟨rfl, equal⟩
  cases other with
  | ok value => cases alike
  | error said =>
      simp only [Word.unnumbered, Failure.mapError_unnumbered_error, Word.mk.injEq,
        Except.error.injEq] at alike
      rcases alike with ⟨same, rfl⟩
      exact ⟨⟨said, rfl, same.symm⟩, equal⟩

end TellsAlike

end Action

/-! ## Words of a wait -/

namespace Environment

open Reattempt.Action

variable {environment : Environment σ} {call : Call}

theorem tells_runDuring {kind : WaitKind} {code : Behaviour σ Unit} {world : World σ}
    {word : Word Unit} (tells : (environment.run code).TellsAlike call.number world word) :
    (environment.runDuring kind code).TellsAlike call.number world (word.during kind) := by
  rcases tells with ⟨⟨ending, cancels⟩, ⟨after, ends, progress⟩, alike⟩
  refine ⟨_, ⟨after, ?_, ?_⟩, Word.during_congr kind alike⟩
  · cases ending with
    | ok value => exact environment.runDuring_of_ok ends
    | error raised =>
        rw [environment.runDuring_of_error ends]
        simp only [Word.during]
        split <;> rfl
  · rw [progress]
    simp only [Word.during]
    split
    · rfl
    · split <;> rfl

theorem tells_passTime {kind : WaitKind} {interval : Scalar} {begun : World σ}
    (uncancelled : (begun.progressOf call.number).cancelled = false) {word late : Word Unit}
    (tells : (environment.runDuring kind (environment.wait kind interval)).TellsAlike call.number
      begun word)
    (lags : ∀ {waited}, waited.progressOf call.number =
        (begun.progressOf call.number).heed word.cancels →
      (environment.runDuring kind (environment.lag kind)).TellsAlike call.number waited late) :
    (environment.passTime call kind interval).TellsAlike call.number begun
      (.passing kind word late) := by
  rcases tells with ⟨⟨ending, cancels⟩, ⟨waited, ends, progress⟩, alike⟩
  have cancelled : cancels = word.cancels := (Word.ending_of_alike alike).2
  subst cancelled
  rcases lags progress with ⟨said, ⟨slept, endsLate, progressLate⟩, alikeLate⟩
  refine ⟨_, ?_, Word.passing_congr kind alike alikeLate⟩
  cases ending with
  | error raised =>
      refine ⟨waited, ?_, progress⟩
      rw [passTime_apply, ends]
      rfl
  | ok value =>
      simp only [Tells, passTime_apply, ends, Action.ending, Word.passing]
      split
      · exact ⟨waited, rfl, progress⟩
      · have noticed : (waited.progressOf call.number).cancelled = word.cancels := by
          rw [progress, Progress.cancelled_heed, uncancelled, Bool.false_or]
        refine ⟨slept, ?_, ?_⟩
        · rw [endsLate, noticed]
          cases said.ending <;> rfl
        · rw [progressLate, progress, Progress.heed_heed]

end Environment

end Reattempt
