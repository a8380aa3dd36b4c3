import Reattempt.Proofs.Record

/-! Discreet listeners. They do not cancel certain calls, and by themselves they raise
only failures that can be reported. Whatever else they do, an event is then announced
without a failure, and these calls stay where they are. -/

namespace Reattempt

variable {σ α β : Type}

/-- The behaviour cancels none of the calls, and what it raises by itself can be
reported. -/
def Behaviour.Discreet (calls : Nat → Prop) : Behaviour σ α → Prop
  | .answer _ => True
  | .raise failure => failure.isReportable = true
  | .look next => ∀ situation memory, (next situation memory).Discreet calls
  | .remember _ next => next.Discreet calls
  | .cancel call next => ¬ calls call ∧ next.Discreet calls
  | .listen _ _ _ next => next.Discreet calls
  | .publish _ _ next => next.Discreet calls
  | .note _ next => next.Discreet calls

/-- All listeners are discreet about the calls. -/
def Environment.Discreet (environment : Environment σ) (calls : Nat → Prop) : Prop :=
  ∀ publisher listener event, (environment.listener publisher listener event).Discreet calls

namespace World

def SameProgress (calls : Nat → Prop) (before after : World σ) : Prop :=
  ∀ call, calls call → after.progressOf call = before.progressOf call

variable {calls : Nat → Prop}

instance : IsPreorder (World σ) (SameProgress calls) where
  refl _ _ _ := rfl
  trans _ _ _ begun ended call member := (ended call member).trans (begun call member)

theorem sameProgress_changeProgress {number : Nat} (absent : ¬ calls number)
    (change : Progress → Progress) (world : World σ) :
    SameProgress calls world (world.changeProgress number change) := by
  intro call member
  have different : call ≠ number := fun equal => absent (equal ▸ member)
  exact progressOf_changeProgress_of_ne different change world

end World

namespace Action

open World

/-- The action keeps the calls where they are and ends only with failures that can be
reported. -/
structure Discreet (calls : Nat → Prop) (action : Action σ α) : Prop where
  keeps : action.Keeps (SameProgress calls)
  raises : ∀ {world after failure}, action world = .error failure after →
    failure.isReportable = true

variable {calls : Nat → Prop}

theorem discreet_pure (value : α) : (pure value : Action σ α).Discreet calls :=
  ⟨keeps_pure value, nofun⟩

theorem discreet_throw {failure : Failure} (reportable : failure.isReportable = true) :
    (throw failure : Action σ α).Discreet calls := by
  refine ⟨keeps_throw failure, ?_⟩
  intro world after raised ends
  cases ends
  exact reportable

theorem discreet_modify {change : World σ → World σ}
    (kept : ∀ world, SameProgress calls world (change world)) :
    (modify change : Action σ Unit).Discreet calls :=
  ⟨kept, nofun⟩

theorem Discreet.bind {action : Action σ α} {next : α → Action σ β}
    (first : action.Discreet calls) (rest : ∀ value, (next value).Discreet calls) :
    (action >>= next).Discreet calls := by
  refine ⟨first.keeps.bind fun value => (rest value).keeps, ?_⟩
  intro world after failure ends
  rw [bind_apply] at ends
  cases begun : action world with
  | ok value middle =>
      rw [begun] at ends
      exact (rest value).raises ends
  | error raised middle =>
      rw [begun] at ends
      cases ends
      exact first.raises begun

theorem discreet_get_bind {next : World σ → Action σ α}
    (rest : ∀ world, (next world).Discreet calls) : (get >>= next).Discreet calls :=
  ⟨keeps_get_bind fun world => (rest world).keeps, fun {world} _ _ ends => (rest world).raises ends⟩

theorem discreet_fail {type : FailureType} (ordinary : FailureType.ordinary.covers type = true)
    (message : String) : (fail type message : Action σ α).Discreet calls := by
  have made : (newIdentity : Action σ Identity).Discreet calls := ⟨fun _ _ _ => rfl, nofun⟩
  apply Discreet.bind made
  intro identity
  exact discreet_throw (Failure.isReportable_ofMessage ordinary identity message)

theorem discreet_cancel {number : Nat} (absent : ¬ calls number) :
    (cancel number : Action σ Unit).Discreet calls := by
  apply Discreet.bind (discreet_modify (sameProgress_changeProgress absent .cancel))
  intro _
  have asked : (progressOf number : Action σ Progress).Discreet calls := ⟨fun _ _ _ => rfl, nofun⟩
  apply Discreet.bind asked
  intro progress
  split
  · exact discreet_fail (by decide) _
  · exact discreet_pure ()

theorem forM_ok {γ : Type} {items : List γ} {action : γ → Action σ Unit}
    (each : ∀ item world, ∃ after, action item world = .ok () after) (world : World σ) :
    ∃ after, items.forM action world = .ok () after := by
  induction items generalizing world with
  | nil => exact ⟨world, rfl⟩
  | cons item rest induction =>
      rcases each item world with ⟨middle, begun⟩
      rcases induction middle with ⟨after, ends⟩
      refine ⟨after, ?_⟩
      change (action item >>= fun _ => rest.forM action) world = _
      rw [bind_apply, begun]
      exact ends

end Action

open World Reattempt.Action

theorem Behaviour.Discreet.perform {calls : Nat → Prop} {behaviour : Behaviour σ α}
    (discreet : behaviour.Discreet calls) {deliver : Nat → Event → Action σ Unit}
    (delivers : ∀ publisher event, (deliver publisher event).Discreet calls) :
    (behaviour.perform deliver).Discreet calls := by
  induction behaviour with
  | answer value => exact discreet_pure value
  | raise failure => exact discreet_throw discreet
  | look next induction =>
      apply discreet_get_bind
      intro world
      exact induction world.toSituation world.memory (discreet _ _)
  | remember memory next induction =>
      have remembered :
          (modify fun world => { world with memory } : Action σ Unit).Discreet calls :=
        discreet_modify fun _ _ _ => rfl
      exact remembered.bind fun _ => induction discreet
  | cancel call next induction =>
      exact (discreet_cancel discreet.1).bind fun _ => induction discreet.2
  | listen publisher kinds listener next induction =>
      have registered :
          (modify (World.register publisher kinds listener) : Action σ Unit).Discreet calls :=
        discreet_modify fun _ _ _ => rfl
      exact registered.bind fun _ => induction discreet
  | publish publisher event next induction =>
      exact (delivers publisher event).bind fun _ => induction discreet
  | note remark next induction =>
      have noted : (observe (.remarked remark) : Action σ Unit).Discreet calls :=
        discreet_modify fun _ _ _ => rfl
      exact noted.bind fun _ => induction discreet

namespace Environment.Discreet

variable {environment : Environment σ} {calls : Nat → Prop}
  (discreet : environment.Discreet calls)

include discreet

/-- What a listener raises is reported, and nothing comes of it. -/
theorem notifies {deliver : Nat → Event → Action σ Unit}
    (delivers : ∀ publisher event, (deliver publisher event).Discreet calls) (publisher : Nat)
    (event : Event) (kind : EventKind) (listener : Listener) (world : World σ) :
    ∃ after, environment.notify deliver publisher event kind listener world = .ok () after ∧
      SameProgress calls world after := by
  have listens := (discreet publisher listener event).perform delivers
  have kept := listens.keeps
    (world.observe (.delivered publisher listener event world.links))
  rw [notify_apply]
  cases ends : (environment.listener publisher listener event).perform deliver
      (world.observe (.delivered publisher listener event world.links)) with
  | ok value after =>
      rw [after_eq_of_ok ends] at kept
      exact ⟨after, rfl, kept⟩
  | error failure after =>
      rw [after_eq_of_error ends] at kept
      rcases Failure.exists_text_of_isReportable (listens.raises ends) with
        ⟨ordinary, text, written⟩
      simp only [ordinary, if_true, written]
      exact ⟨_, rfl, kept⟩

theorem deliverWithin (depth publisher : Nat) (event : Event) :
    (environment.deliverWithin depth publisher event).Discreet calls := by
  induction depth generalizing publisher event with
  | zero => exact discreet_fail (by decide) _
  | succ depth induction =>
      unfold Environment.deliverWithin
      split
      · exact discreet_fail (by decide) _
      · next kind _ =>
          have each (listener : Listener) :
              (environment.notify (environment.deliverWithin depth) publisher event kind
                listener).Discreet calls := by
            constructor
            · intro world
              rcases discreet.notifies induction publisher event kind listener world with
                ⟨after, ends, kept⟩
              rwa [after_eq_of_ok ends]
            · intro world after failure ends
              rcases discreet.notifies induction publisher event kind listener world with
                ⟨_, answered, -⟩
              rw [ends] at answered
              cases answered
          apply discreet_get_bind
          intro world
          refine ⟨keeps_forM fun listener _ => (each listener).keeps, ?_⟩
          intro other after failure ends
          rcases forM_ok (fun listener world =>
            (discreet.notifies induction publisher event kind listener world).imp
              fun _ told => told.1) other with ⟨_, answered⟩
          rw [ends] at answered
          cases answered

theorem publishes {event : Event} {kind : EventKind} (known : event.kind? = some kind)
    (publisher : Nat) (world : World σ) :
    ∃ after, environment.publish publisher event world = .ok () after := by
  simp only [publish, Environment.deliverWithin, known, bind_apply, get_apply]
  apply forM_ok
  intro listener other
  rcases discreet.notifies (discreet.deliverWithin environment.depth) publisher event kind listener
    other with ⟨after, ends, -⟩
  exact ⟨after, ends⟩

theorem announces (call : Call) {detail : EventDetail} {kind : EventKind}
    (known : detail.kind? = some kind) (attempts : Nat) (failure : Option Failure)
    (world : World σ) :
    ∃ after, environment.announce call detail attempts failure world = .ok () after ∧
      SameProgress calls world after := by
  have event : (call.event detail attempts failure).kind? = some kind := known
  cases heard : world.hears call (call.event detail attempts failure) with
  | false =>
      exact ⟨world, environment.announce_of_unheard call heard, fun _ _ => rfl⟩
  | true =>
      have noted : SameProgress calls world
          (world.announcing call (call.event detail attempts failure)) :=
        fun number _ => progressOf_announcing world call _ number
      rcases discreet.publishes event call.policy.publisher
        (world.announcing call (call.event detail attempts failure)) with ⟨after, ends⟩
      have kept := (discreet.deliverWithin (environment.depth + 1) _ _).keeps.of_ok ends
      rw [environment.announce_of_heard call heard]
      exact ⟨after, ends, trans_of (SameProgress calls) noted kept⟩

theorem concludes (call : Call) {detail : EventDetail} {kind : EventKind}
    (known : detail.kind? = some kind) (attempts : Nat) (failure : Failure) {wording : Wording}
    {text : String} (written : wording = .ok text) (entry : String → LogEntry)
    (world : World σ) :
    ∃ after, environment.conclude (α := α) call detail attempts (some failure) wording entry
      world = .error failure after ∧ SameProgress calls world after := by
  rcases discreet.announces call known attempts (some failure)
    (world.observe (.logged (entry text))) with ⟨after, ends, kept⟩
  exact ⟨after, environment.conclude_of_announced call written ends, kept⟩

theorem eq_of_concludes {call : Call} {detail : EventDetail} {kind : EventKind}
    (known : detail.kind? = some kind) {attempts : Nat} {failure raised : Failure}
    {wording : Wording} {text : String} (written : wording = .ok text)
    {entry : String → LogEntry} {world after : World σ}
    (concludes : environment.conclude (α := α) call detail attempts (some failure) wording entry
      world = .error raised after) : raised = failure ∧ SameProgress calls world after := by
  rcases discreet.concludes (α := α) call known attempts failure written entry world with
    ⟨told, ends, kept⟩
  rw [concludes] at ends
  cases ends
  exact ⟨rfl, kept⟩

end Environment.Discreet

end Reattempt
