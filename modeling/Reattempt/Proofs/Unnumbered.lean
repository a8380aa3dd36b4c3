import Reattempt.Proofs.Exit

/-! Comparing failures without the numbers under which the engine makes them. Failures of
the caller are the same only if they are the same objects. The exits of a report, their
meaning, the causes that they attach and what leaves a coroutine do not depend on these
numbers. -/

namespace Reattempt

namespace Failure

/-- The failure without the numbers that the engine gave to it and to its causes. -/
def unnumbered : Failure → Failure
  | { identity := .given number, type, content, cause, own, context, trace } =>
      { identity := .given number, type, content, cause, own, context, trace }
  | { identity := .made _, type, content, cause := none, own, context, trace } =>
      { identity := .made 0, type, content, cause := none, own, context, trace }
  | { identity := .made _, type, content, cause := some cause, own, context, trace } =>
      { identity := .made 0, type, content, cause := some cause.unnumbered, own, context, trace }

private theorem unnumbered_of_given {failure : Failure} {number : Nat}
    (given : failure.identity = .given number) : failure.unnumbered = failure := by
  rcases failure with ⟨_ | _, type, content, cause, own, context, trace⟩
  · simp only [unnumbered]
  · cases given

theorem exists_given_of_unnumbered {failure : Failure} {number : Nat}
    (given : failure.unnumbered.identity = .given number) : failure.identity = .given number := by
  rcases failure with ⟨_ | _, type, content, _ | cause, own, context, trace⟩ <;>
    simp only [unnumbered] at given
  all_goals first | exact given | cases given

@[simp] theorem isA_unnumbered (failure : Failure) (ancestor : FailureType) :
    failure.unnumbered.isA ancestor = failure.isA ancestor := by
  rcases failure with ⟨_ | _, type, content, _ | cause, own, context, trace⟩ <;>
    simp only [unnumbered, isA]

@[simp] theorem text_unnumbered (failure : Failure) : failure.unnumbered.text = failure.text := by
  rcases failure with ⟨_ | _, type, content, _ | cause, own, context, trace⟩ <;>
    simp only [unnumbered] <;> rfl

@[simp] theorem unnumbered_unnumbered (failure : Failure) :
    failure.unnumbered.unnumbered = failure.unnumbered := by
  fun_induction unnumbered failure with
  | case1 => simp only [unnumbered]
  | case2 => simp only [unnumbered]
  | case3 number type content own context trace cause same => simp only [unnumbered, same]

theorem eq_of_unnumbered {left right : Failure} {number : Nat}
    (given : left.identity = .given number) (same : left.unnumbered = right.unnumbered) :
    left = right := by
  have givenToo : right.identity = .given number := by
    apply exists_given_of_unnumbered
    rw [← same, unnumbered_of_given given, given]
  rwa [unnumbered_of_given given, unnumbered_of_given givenToo] at same

@[simp] theorem unnumbered_ofCoroutine (number : Nat) (failure : Failure) :
    (ofCoroutine (.made number) failure).unnumbered =
      ofCoroutine (.made 0) failure.unnumbered := by
  simp only [ofCoroutine, ofMessage, unnumbered]
theorem unnumbered_toFailure (refusal : Refusal) (number : Nat) :
    (refusal.toFailure (.made number)).unnumbered = refusal.toFailure (.made 0) := by
  simp only [Refusal.toFailure, ofMessage, unnumbered]

theorem unnumbered_interruption (number : Nat) (policyName : String) (attempt : Int) :
    (interruption (.made number) policyName attempt).unnumbered =
      interruption (.made 0) policyName attempt := by
  simp only [interruption, unnumbered]

@[simp] theorem mapError_unnumbered_error {α : Type} (raised : Failure) :
    (Except.error raised : Except Failure α).mapError unnumbered = .error raised.unnumbered :=
  rfl

theorem given_iff_of_unnumbered {left right : Failure} (same : left.unnumbered = right.unnumbered)
    (number : Nat) : left.identity = .given number ↔ right.identity = .given number := by
  constructor
  · intro given
    exact eq_of_unnumbered given same ▸ given
  · intro given
    exact eq_of_unnumbered given same.symm ▸ given

end Failure

def Chain.unnumbered (chain : Chain) : Chain :=
  { chain with
    interruption := chain.interruption.unnumbered
    origin? := chain.origin?.map Failure.unnumbered }

namespace CauseLinks

/-- A failure of the caller has the same attached cause in both, up to numbers. -/
def AlikeAt (number : Nat) (left right : CauseLinks) : Prop :=
  (left.find? (.given number)).map Failure.unnumbered =
    (right.find? (.given number)).map Failure.unnumbered

namespace AlikeAt

variable {number : Nat} {left right : CauseLinks} (alike : AlikeAt number left right)

include alike

theorem extend {leftChain? rightChain? : Option Chain}
    (chains : leftChain?.map Chain.unnumbered = rightChain?.map Chain.unnumbered) :
    AlikeAt number (left.extend leftChain?) (right.extend rightChain?) := by
  cases leftChain? with
  | none =>
      cases rightChain? with
      | none => exact alike
      | some chain => cases chains
  | some leftChain =>
      cases rightChain? with
      | none => cases chains
      | some rightChain =>
          rcases leftChain with ⟨failure, leftInterruption, leftOrigin?⟩
          rcases rightChain with ⟨other, rightInterruption, rightOrigin?⟩
          simp only [Option.map_some, Option.some.injEq, Chain.unnumbered, Chain.mk.injEq] at chains
          rcases chains with ⟨rfl, interruptions, origins⟩
          rw [AlikeAt] at alike ⊢
          by_cases same : Identity.given number = failure.identity
          · simp only [CauseLinks.extend, ← same, OrderedMap.find?_set_self]
            exact congrArg some interruptions
          · have leftFound :
                (left.extend (some ⟨failure, leftInterruption, leftOrigin?⟩)).find?
                  (.given number) = _ := find?_extend same
            have rightFound :
                (right.extend (some ⟨failure, rightInterruption, rightOrigin?⟩)).find?
                  (.given number) = _ := find?_extend same
            rw [leftFound, rightFound]
            simp only [Failure.given_iff_of_unnumbered interruptions number]
            split
            · rw [Option.map_or, Option.map_or, origins, alike]
            · exact alike

theorem causeOf {failure : Failure} (given : failure.identity = .given number) :
    (left.causeOf failure).map Failure.unnumbered =
      (right.causeOf failure).map Failure.unnumbered := by
  rw [AlikeAt] at alike
  rw [CauseLinks.causeOf, CauseLinks.causeOf, given]
  cases found : left.find? (.given number) with
  | none =>
      rw [found] at alike
      rw [Option.map_eq_none_iff.mp alike.symm]
  | some cause =>
      rw [found] at alike
      rcases Option.map_eq_some_iff.mp alike.symm with ⟨other, attached, same⟩
      rw [attached]
      exact congrArg some same.symm

end AlikeAt

end CauseLinks

theorem Failure.taskEffect_unnumbered (failure : Failure) :
    failure.unnumbered.taskEffect = failure.taskEffect := by
  simp only [taskEffect, isA_unnumbered]

theorem WaitKind.interruptedBy_unnumbered (kind : WaitKind) (failure : Failure) :
    kind.interruptedBy failure.unnumbered = kind.interruptedBy failure := by
  cases kind <;> simp [interruptedBy, Failure.interruptsSleep, Failure.taskEffect_unnumbered]

namespace WaitEnding

def unnumbered : WaitEnding → WaitEnding
  | .skipped => .skipped
  | .interrupted cause => .interrupted cause.unnumbered
  | .escaped raised => .escaped raised.unnumbered
  | .noticed => .noticed
  | .unworded begun raised => .unworded begun raised.unnumbered
  | .elapsed => .elapsed

end WaitEnding

namespace Exit

def unnumbered : Exit → Exit
  | .unclassified raised => .unclassified raised.unnumbered
  | .rejected raised => .rejected raised.unnumbered
  | .exhausted raised => .exhausted raised.unnumbered
  | .unplanned raised => .unplanned raised.unnumbered
  | .waited interval ending => .waited interval ending.unnumbered

variable (failure : Failure) (exit : Exit)

/-! The numbers matter neither to the call nor to its counters. -/

theorem outcome_unnumbered :
    (exit.unnumbered.outcome failure).mapError Failure.unnumbered =
      (exit.outcome failure).mapError Failure.unnumbered := by
  cases exit with
  | waited interval ending =>
      cases ending <;>
        simp [unnumbered, outcome, WaitEnding.unnumbered, WaitEnding.outcome]
  | _ => simp [unnumbered, outcome]

theorem advance_unnumbered (limit : AttemptLimit) (kind : WaitKind) (progress : Progress) :
    exit.unnumbered.advance failure limit kind progress =
      exit.advance failure limit kind progress := by
  cases exit with
  | waited interval ending =>
      cases ending with
      | unworded begun raised => cases begun <;> rfl
      | _ => rfl
  | _ => rfl

theorem acts_unnumbered (kind : WaitKind) (number : Nat) :
    exit.unnumbered.acts failure kind number = exit.acts failure kind number := by
  cases exit with
  | waited interval ending =>
      cases ending with
      | unworded begun raised => cases begun <;> rfl
      | _ => rfl
  | _ => rfl

theorem ledger_unnumbered : exit.unnumbered.ledger = exit.ledger := by
  cases exit <;> rfl

theorem chain?_unnumbered (interruption : Failure) :
    (exit.unnumbered.chain? failure interruption.unnumbered).map Chain.unnumbered =
      (exit.chain? failure interruption).map Chain.unnumbered := by
  cases exit with
  | waited interval ending =>
      cases ending with
      | interrupted cause =>
          simp only [unnumbered, WaitEnding.unnumbered, chain?, WaitEnding.chain?,
            Failure.isA_unnumbered]
          split <;> simp [Chain.unnumbered]
      | _ => simp [unnumbered, WaitEnding.unnumbered, chain?, WaitEnding.chain?, Chain.unnumbered]
  | _ => rfl

end Exit

/-! ## At the border of a coroutine -/

namespace WaitKind

variable {σ α : Type} {kind : WaitKind}

theorem holdsBack_unnumbered (kind : WaitKind) (failure : Failure) :
    kind.holdsBack failure.unnumbered = kind.holdsBack failure := by
  rw [holdsBack, Failure.isA_unnumbered, holdsBack]

def released (kind : WaitKind) : Except Failure α → Except Failure α
  | .ok value => .ok value
  | .error failure =>
      .error (if kind.holdsBack failure then .ofCoroutine (.made 0) failure else failure)

theorem released_congr {first second : Except Failure α}
    (same : first.mapError Failure.unnumbered = second.mapError Failure.unnumbered) :
    (kind.released first).mapError Failure.unnumbered =
      (kind.released second).mapError Failure.unnumbered := by
  cases first with
  | ok value =>
      cases second with
      | ok other =>
          cases same
          rfl
      | error failure => cases same
  | error failure =>
      cases second with
      | ok value => cases same
      | error other =>
          have same : failure.unnumbered = other.unnumbered := Except.error.inj same
          have held : kind.holdsBack failure = kind.holdsBack other := by
            rw [← holdsBack_unnumbered, same, holdsBack_unnumbered]
          simp only [released, held, Failure.mapError_unnumbered_error]
          split
          · rw [Failure.unnumbered_ofCoroutine, same, Failure.unnumbered_ofCoroutine]
          · rw [same]

theorem outcomeOf_enclose (kind : WaitKind) (body : Action σ α) (world : World σ) :
    (Action.outcomeOf (kind.enclose body world)).mapError Failure.unnumbered =
      (kind.released (Action.outcomeOf (body world))).mapError Failure.unnumbered := by
  rw [enclose_apply]
  cases body world with
  | ok value after => rfl
  | error failure after =>
      simp only [Action.outcomeOf, released, Failure.mapError_unnumbered_error]
      cases held : kind.holdsBack failure with
      | true =>
          simp only [if_true, Failure.mapError_unnumbered_error, Failure.unnumbered_ofCoroutine]
      | false =>
          simp only [Bool.false_eq_true, if_false, Failure.mapError_unnumbered_error]

end WaitKind

end Reattempt
