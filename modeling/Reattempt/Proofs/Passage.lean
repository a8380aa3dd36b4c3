import Reattempt.Proofs.Ledger

/-! What a call keeps on its way from the first attempt to the end. A relation between worlds
that tolerates each single change is kept by all of them together, whatever the caller's code
does in between. -/

namespace Reattempt

variable {σ α : Type}

namespace World

open Reattempt.Action Environment

/-- The relation tolerates whatever a call and the caller's code in it change. -/
structure IgnoresCalls (call : Call) (relation : World σ → World σ → Prop) : Prop where
  code : IgnoresCode relation
  observe : ∀ world observation, relation world (world.observe observation)
  changeProgress : ∀ world change, relation world (world.changeProgress call.number change)
  changeCounters : ∀ world change, relation world
    (world.changeCounters call.policy.number change)
  relinking : ∀ world failures links, relation world (world.relinking failures links)

namespace IgnoresCalls

variable {call : Call} {relation : World σ → World σ → Prop} [IsPreorder (World σ) relation]
  (ignores : IgnoresCalls call relation) (environment : Environment σ)

include ignores

theorem reports : environment.IgnoresReports call relation where
  observe := ignores.observe
  counting world _ := ignores.changeProgress world _
  rejecting world := ignores.changeProgress world _
  succeeding world := ignores.changeProgress world _
  changeCounters := ignores.changeCounters
  newIdentity := ignores.code.newIdentity
  publishes event := ignores.code.keeps_publish environment _ event

omit [IsPreorder (World σ) relation] in
theorem waits : IgnoresWaits call relation where
  note world _ := ignores.observe world _
  logged world _ := ignores.observe world _
  changeProgress := ignores.changeProgress
  relinking := ignores.relinking

theorem keeps_proceed (attempts : Nat) (failure : Option Failure) :
    (environment.proceed call attempts failure).Keeps relation := by
  have reports := ignores.reports environment
  have questions := ignores.code.questions environment
  unfold proceed
  split
  · exact reports.keeps_exhaust attempts failure
  · exact reports.keeps_planWait (questions.keeps_delay _ _) failure

theorem keeps_waitAndResume (kind : WaitKind) (interval : Scalar) :
    (environment.waitAndResume call kind interval).Keeps relation := by
  have resumes : (Action.changeProgress call.number .resume : Action σ Unit).Keeps relation :=
    fun world => ignores.changeProgress world _
  have passes := keeps_passTime call
    (ignores.code.keeps_run environment (environment.wait kind interval))
    (ignores.code.keeps_run environment (environment.lag kind))
  exact Keeps.bind (ignores.waits.keeps_waitBefore passes) fun _ => resumes

theorem keeps_onFailure (kind : WaitKind) (failure : Option Failure) :
    (environment.onFailure call kind failure).Keeps relation := by
  have questions := ignores.code.questions environment
  have records := (ignores.reports environment).keeps_recordFailure
    (questions.keeps_isRetryable _ failure) fun attempts => questions.keeps_delay _ _
  rw [onFailure_eq]
  exact kind.keeps_enclose (Keeps.bind records (ignores.keeps_waitAndResume environment kind))
    ignores.code.newIdentity

theorem keeps_attempt (operation : Arguments → Behaviour σ α) (arguments : Arguments) :
    (environment.attempt call operation arguments).Keeps relation := by
  intro before
  have begun : relation before (before.note call (.attempted arguments)) :=
    ignores.observe before _
  have ran := ignores.code.keeps_run environment (operation arguments)
  simp only [after, attempt_apply]
  cases runs : environment.run (operation arguments) (before.note call (.attempted arguments)) with
  | ok value answered => exact trans_of relation begun (ran.of_ok runs)
  | error failure failed =>
      dsimp only
      split
      · exact trans_of relation begun (ran.of_error runs)
      · exact trans_of relation begun (ran.of_error runs)

theorem keeps_attemptWithin (kind : WaitKind) (operation : Arguments → Behaviour σ α)
    (arguments : Arguments) (budget : Nat) :
    (environment.attemptWithin call kind operation arguments budget).Keeps relation := by
  induction budget with
  | zero => exact keeps_pure none
  | succ budget induction =>
      refine Keeps.bind (ignores.keeps_attempt environment operation arguments) fun outcome => ?_
      cases outcome with
      | ok value =>
          exact Keeps.bind (ignores.reports environment).keeps_onSuccess fun _ => keeps_pure _
      | error failure =>
          exact Keeps.bind (ignores.keeps_onFailure environment kind failure) fun _ => induction

end IgnoresCalls

end World

end Reattempt
