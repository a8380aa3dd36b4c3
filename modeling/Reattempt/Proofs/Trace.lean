import Reattempt.Proofs.Passage

/-! Traces only grow. Whatever is observed is observed for good: everything that a call does
later is added behind it. -/

namespace Reattempt

variable {σ α : Type}

namespace World

/-- What was observed in the first world was observed in the second one as well, and before
all else. -/
def Precedes (before after : World σ) : Prop :=
  before.trace <+: after.trace

namespace Precedes

variable {before after : World σ}

instance : IsPreorder (World σ) Precedes where
  refl world := List.prefix_refl world.trace
  trans _ _ _ := List.IsPrefix.trans

theorem of_outside (outside : before.Outside after) : Precedes before after := by
  rcases outside.observed with ⟨later, equal, -⟩
  exact ⟨later.reverse, by rw [trace, trace, equal, List.reverse_append]⟩

theorem of_observed (equal : after.observed = before.observed) : Precedes before after := by
  have same : before.trace ++ [] = after.trace := by rw [List.append_nil, trace, trace, equal]
  exact ⟨[], same⟩

theorem observe (world : World σ) (observation : Observation) :
    Precedes world (world.observe observation) :=
  ⟨[observation], (trace_observe observation world).symm⟩

end Precedes

end World

open World

theorem ignoresCalls_precedes (call : Call) : IgnoresCalls (σ := σ) call Precedes where
  code := {
    observe := fun world observation _ => .observe world observation
    cancel := fun _ _ => .of_observed rfl
    register := fun _ _ _ _ => .of_observed rfl
    remember := fun _ _ => .of_observed rfl
    newIdentity := fun _ => .of_observed rfl
  }
  observe := .observe
  changeProgress _ _ := .of_observed rfl
  changeCounters _ _ := .of_observed rfl
  relinking _ _ _ := .of_observed rfl

namespace Environment

variable (environment : Environment σ) (call : Call)

theorem precedes_proceed (attempts : Nat) (failure : Option Failure) :
    (environment.proceed call attempts failure).Keeps Precedes :=
  (ignoresCalls_precedes call).keeps_proceed environment attempts failure

theorem precedes_waitAndResume (kind : WaitKind) (interval : Scalar) :
    (environment.waitAndResume call kind interval).Keeps Precedes :=
  (ignoresCalls_precedes call).keeps_waitAndResume environment kind interval

theorem precedes_onFailure (kind : WaitKind) (failure : Option Failure) :
    (environment.onFailure call kind failure).Keeps Precedes :=
  (ignoresCalls_precedes call).keeps_onFailure environment kind failure

theorem precedes_attemptWithin (kind : WaitKind) (operation : Arguments → Behaviour σ α)
    (arguments : Arguments) (budget : Nat) :
    (environment.attemptWithin call kind operation arguments budget).Keeps Precedes :=
  (ignoresCalls_precedes call).keeps_attemptWithin environment kind operation arguments budget

end Environment

end Reattempt
