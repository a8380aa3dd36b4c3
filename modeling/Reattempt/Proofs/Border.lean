import Reattempt.Proofs.Record

/-! The border of a coroutine. A suspended call is carried out in one, which lets out
every result and every failure but one that would look like the end of an iteration. -/

namespace Reattempt

variable {σ α : Type}

namespace WaitKind

variable {kind : WaitKind} {body : Action σ α}

/-- Whether a call that waits like this does not let the failure out. -/
def holdsBack (kind : WaitKind) (failure : Failure) : Bool :=
  kind = .suspended && failure.isA .stopIteration

theorem enclose_apply (kind : WaitKind) (body : Action σ α) (world : World σ) :
    kind.enclose body world =
      match body world with
      | .ok value after => .ok value after
      | .error failure after =>
          if kind.holdsBack failure then
            .error (.ofCoroutine (.made after.failures) failure)
              (after.relinking (after.failures + 1) after.links)
          else .error failure after := by
  cases kind with
  | suspended => exact Action.inCoroutine_apply body world
  | blocking | sleeping =>
      simp only [enclose]
      cases body world <;> rfl

theorem enclose_of_awake (awake : kind ≠ .suspended) (body : Action σ α) :
    kind.enclose body = body := by
  cases kind with
  | suspended => exact absurd rfl awake
  | blocking | sleeping => rfl

theorem enclose_ok_iff {world after : World σ} {value : α} :
    kind.enclose body world = .ok value after ↔ body world = .ok value after := by
  rw [enclose_apply]
  cases body world with
  | ok value after => rfl
  | error failure after =>
      dsimp only
      split <;> simp

theorem enclose_of_error {world after : World σ} {failure : Failure}
    (ends : body world = .error failure after) (released : kind.holdsBack failure = false) :
    kind.enclose body world = .error failure after := by
  simp only [enclose_apply, ends, released, Bool.false_eq_true, if_false]

theorem enclose_congr {other : Action σ α} {world after : World σ}
    (same : body world = other after) :
    kind.enclose body world = kind.enclose other after := by
  simp only [enclose_apply, same]

theorem enclose_pure (kind : WaitKind) (value : α) (world : World σ) :
    kind.enclose (pure value) world = .ok value world := by
  rw [enclose_apply, Action.pure_apply]

theorem holdsBack_ofCoroutine (kind : WaitKind) (identity : Identity) (failure : Failure) :
    kind.holdsBack (.ofCoroutine identity failure) = false := by
  have runtime : (Failure.ofCoroutine identity failure).isA .stopIteration = false := rfl
  rw [holdsBack, runtime, Bool.and_false]

theorem holdsBack_fault (kind : WaitKind) (identity : Identity) (fault : ArithmeticFault) :
    kind.holdsBack (fault.toFailure identity) = false := by
  have released : (fault.toFailure identity).isA .stopIteration = false := by
    cases fault <;> rfl
  rw [holdsBack, released, Bool.and_false]

theorem holdsBack_of_special (kind : WaitKind) {failure : Failure}
    (special : failure.isA .ordinary = false) : kind.holdsBack failure = false := by
  have released : failure.isA .stopIteration = false := by
    apply Bool.eq_false_iff.mpr
    intro spent
    have above : FailureType.ordinary.covers .stopIteration = true := by decide
    have ordinary : failure.isA .ordinary = true := FailureType.covers_trans above failure.type spent
    rw [ordinary] at special
    cases special
  rw [holdsBack, released, Bool.and_false]

theorem error_of_enclose {world after : World σ} {raised : Failure}
    (ends : kind.enclose body world = .error raised after) :
    body world = .error raised after ∧ kind.holdsBack raised = false ∨
      ∃ failure stopped, body world = .error failure stopped ∧
        kind.holdsBack failure = true ∧ raised = .ofCoroutine (.made stopped.failures) failure ∧
        after = stopped.relinking (stopped.failures + 1) stopped.links := by
  rw [enclose_apply] at ends
  cases finishes : body world with
  | ok value stopped =>
      rw [finishes] at ends
      cases ends
  | error failure stopped =>
      rw [finishes] at ends
      dsimp only at ends
      split at ends
      · next held =>
          cases ends
          exact .inr ⟨failure, stopped, rfl, held, rfl, rfl⟩
      · next released =>
          cases ends
          exact .inl ⟨rfl, Bool.eq_false_iff.mpr released⟩

theorem exists_error_of_enclose (kind : WaitKind) {world stopped : World σ} {failure : Failure}
    (ends : body world = .error failure stopped) :
    ∃ raised failures,
      kind.enclose body world = .error raised (stopped.relinking failures stopped.links) := by
  rw [enclose_apply, ends]
  dsimp only
  split
  · exact ⟨_, _, rfl⟩
  · exact ⟨failure, stopped.failures, rfl⟩

theorem enclose_enclose (kind : WaitKind) (body : Action σ α) :
    kind.enclose (kind.enclose body) = kind.enclose body := by
  funext world
  cases ends : kind.enclose body world with
  | ok value after => exact enclose_ok_iff.mpr ends
  | error raised after =>
      apply enclose_of_error ends
      rcases error_of_enclose ends with ⟨-, released⟩ | ⟨failure, stopped, -, -, rfl, -⟩
      · exact released
      · exact holdsBack_ofCoroutine kind _ failure

theorem after_enclose (kind : WaitKind) (body : Action σ α) (world : World σ) :
    ∃ failures, (body.after world).failures ≤ failures ∧
      (kind.enclose body).after world =
        (body.after world).relinking failures (body.after world).links := by
  simp only [Action.after, enclose_apply]
  cases body world with
  | ok value after => exact ⟨after.failures, Nat.le_refl _, rfl⟩
  | error failure after =>
      dsimp only
      split
      · exact ⟨after.failures + 1, Nat.le_succ _, rfl⟩
      · exact ⟨after.failures, Nat.le_refl _, rfl⟩

theorem keeps_enclose {relation : World σ → World σ → Prop} [IsPreorder (World σ) relation]
    (kind : WaitKind) (kept : body.Keeps relation)
    (fresh : ∀ world : World σ, relation world { world with failures := world.failures + 1 }) :
    (kind.enclose body).Keeps relation := by
  cases kind with
  | suspended => exact kept.inCoroutine fresh
  | blocking | sleeping => exact kept

end WaitKind

end Reattempt
