import Reattempt.Proofs.Round

/-! What stays while a call goes on. Causes are attached to failures only when a wait is
interrupted, waits are left behind only when something escapes from them, and calls are
never forgotten. -/

namespace Reattempt

variable {σ α : Type}

namespace World

structure Untouched (before after : World σ) : Prop where
  links : after.links = before.links
  stranded : ∀ call, (after.progressOf call).stranded = (before.progressOf call).stranded
  known : ∀ call, before.progress.contains call = true → after.progress.contains call = true

namespace Untouched

variable {before after : World σ}

theorem refl (world : World σ) : Untouched world world where
  links := rfl
  stranded _ := rfl
  known _ present := present

theorem trans {first second third : World σ} (begun : Untouched first second)
    (ended : Untouched second third) : Untouched first third where
  links := ended.links.trans begun.links
  stranded call := (ended.stranded call).trans (begun.stranded call)
  known call present := ended.known call (begun.known call present)

instance : IsPreorder (World σ) Untouched where
  refl := refl
  trans _ _ _ := trans

theorem of_outside (outside : before.Outside after) : Untouched before after where
  links := outside.links
  stranded := outside.stranded
  known := outside.known

theorem observe (world : World σ) (observation : Observation) :
    Untouched world (world.observe observation) where
  links := rfl
  stranded _ := rfl
  known _ present := present

theorem changeProgress (world : World σ) (number : Nat) {change : Progress → Progress}
    (kept : ∀ progress, (change progress).stranded = progress.stranded) :
    Untouched world (world.changeProgress number change) where
  links := rfl
  stranded call := by
    by_cases equal : call = number
    · subst equal
      rw [progressOf_changeProgress_self, kept]
    · rw [progressOf_changeProgress_of_ne equal]
  known _ present := OrderedMap.contains_set present

theorem changeCounters (world : World σ) (policy : Nat) (change : Counters → Counters) :
    Untouched world (world.changeCounters policy change) where
  links := rfl
  stranded _ := rfl
  known _ present := present

end Untouched

end World

namespace Action

open World

theorem Keeps.untouched {action : Action σ α} (outside : action.Keeps Outside) :
    action.Keeps Untouched :=
  fun world => .of_outside (outside world)

end Action

namespace Environment

open World Reattempt.Action

variable (environment : Environment σ) (call : Call)

theorem ignoresReports_untouched : IgnoresReports environment call Untouched where
  observe := .observe
  counting world _ := .changeProgress world _ fun _ => rfl
  rejecting world := .changeProgress world _ fun _ => rfl
  succeeding world := .changeProgress world _ fun _ => rfl
  changeCounters world := .changeCounters world _
  newIdentity _ := ⟨rfl, fun _ => rfl, fun _ present => present⟩
  publishes _ := (environment.keeps_publish _ _).untouched

theorem untouched_recordFailure (failure : Option Failure) :
    (environment.recordFailure call failure).Keeps Untouched :=
  (environment.ignoresReports_untouched call).keeps_recordFailure
    (environment.keeps_isRetryable _ _).untouched fun _ => (environment.keeps_delay _ _).untouched

theorem untouched_onSuccess : (environment.onSuccess call).Keeps Untouched :=
  (environment.ignoresReports_untouched call).keeps_onSuccess

variable {environment call}

theorem untouched_of_waitBefore {kind : WaitKind} {interval : Scalar} {before after : World σ}
    (awake : kind ≠ .suspended)
    (waits : environment.waitBefore call kind interval before = .ok () after) :
    Untouched before after := by
  have waiting := environment.waiting_waitBefore call kind interval before
  rw [waits] at waiting
  cases waiting with
  | skipped cancelled ends => cases ends
  | interrupted uncancelled passes interrupts ends => cases ends
  | noticed uncancelled passes ends => cases ends
  | elapsed uncancelled passes =>
      have slept := Untouched.of_outside ((environment.outside_passTime call _ _).of_ok passes)
      rw [beginning, if_neg awake] at slept
      exact ((Untouched.observe before _).trans slept).trans (.observe _ _)

theorem untouched_of_onFailure {kind : WaitKind} {failure : Option Failure} {before after : World σ}
    (awake : kind ≠ .suspended)
    (reports : environment.onFailure call kind failure before = .ok () after) :
    Untouched before after := by
  have recorded := environment.untouched_recordFailure call failure before
  rw [onFailure_eq, WaitKind.enclose_ok_iff, recordAndWait_apply] at reports
  cases records : environment.recordFailure call failure before with
  | error raised stopped =>
      simp only [records, reduceCtorEq] at reports
  | ok interval planned =>
      rw [Action.after_eq_of_ok records] at recorded
      simp only [records] at reports
      cases waits : environment.waitBefore call kind interval planned with
      | error raised stopped =>
          simp only [waits, reduceCtorEq] at reports
      | ok value waited =>
          simp only [waits, EStateM.Result.ok.injEq, true_and] at reports
          subst reports
          have resumed : Untouched waited (waited.changeProgress call.number .resume) :=
            .changeProgress waited call.number fun _ => rfl
          exact (recorded.trans (untouched_of_waitBefore awake waits)).trans resumed

end Environment

end Reattempt
