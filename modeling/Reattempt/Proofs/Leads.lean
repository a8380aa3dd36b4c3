import Reattempt.Proofs.Wait

/-! What leads from one world to another: the steps that are added to a call, what is
counted for its policy, and that nobody stops listening. Passages of a run are put
together by `Leads.trans`. -/

namespace Reattempt

variable {σ : Type}

namespace World

/-- What leads from one world to another adds steps to the call and counts for its
policy. Nobody stops listening meanwhile. -/
structure Leads (call : Call) (count : Counters → Counters) (steps : List CallStep)
    (before after : World σ) : Prop where
  steps : after.stepsOf call.number = before.stepsOf call.number ++ steps
  counters : after.countersOf call.policy.number = count (before.countersOf call.policy.number)
  others : ∀ {policy}, policy ≠ call.policy.number →
    after.countersOf policy = before.countersOf policy
  listening : ∀ {publisher kind},
    (before.listenersOf publisher).hasListeners (some kind) = true →
      (after.listenersOf publisher).hasListeners (some kind) = true

namespace Leads

variable {call : Call} {before middle after world : World σ}

theorem trans {first second : Counters → Counters} {earlier later : List CallStep}
    (begun : Leads call first earlier before middle)
    (ended : Leads call second later middle after) :
    Leads call (second ∘ first) (earlier ++ later) before after where
  steps := by rw [ended.steps, begun.steps, List.append_assoc]
  counters := by rw [ended.counters, begun.counters, Function.comp]
  others different := (ended.others different).trans (begun.others different)
  listening heard := ended.listening (begun.listening heard)

theorem outside (outside : before.Outside after) : Leads call id [] before after where
  steps := by rw [outside.stepsOf, List.append_nil]
  counters := outside.countersOf _
  others _ := outside.countersOf _
  listening := outside.hasListeners

theorem trans_outside {count : Counters → Counters} {steps : List CallStep}
    (begun : Leads call count steps before middle) (ended : middle.Outside after) :
    Leads call count steps before after := by
  simpa using begun.trans (outside ended)

theorem relinking {count : Counters → Counters} {steps : List CallStep}
    (leads : Leads call count steps before after) (failures : Nat) (links : CauseLinks) :
    Leads call count steps before (after.relinking failures links) :=
  ⟨leads.steps, leads.counters, leads.others, leads.listening⟩

theorem note (step : CallStep) : Leads call id [step] world (world.note call step) where
  steps := stepsOf_note world call step
  counters := rfl
  others _ := rfl
  listening heard := heard

theorem logged (entry : LogEntry) : Leads call id [] world (world.observe (.logged entry)) where
  steps := by rw [stepsOf_logged, List.append_nil]
  counters := rfl
  others _ := rfl
  listening heard := heard

theorem changeProgress (change : Progress → Progress) :
    Leads call id [] world (world.changeProgress call.number change) where
  steps := (List.append_nil _).symm
  counters := rfl
  others _ := rfl
  listening heard := heard

theorem changeCounters (count : Counters → Counters) :
    Leads call count [] world (world.changeCounters call.policy.number count) where
  steps := (List.append_nil _).symm
  counters := countersOf_changeCounters_self _ _ _
  others different := by simp [World.changeCounters, Situation.countersOf, different]
  listening heard := heard

theorem counting (failure : Option Failure) :
    Leads call id [.classified failure true] world (world.counting call failure) :=
  (note _).trans (changeProgress _)

theorem rejecting (failure : Option Failure) :
    Leads call .countRejection [.classified failure false] world (world.rejecting call failure) :=
  ((note (.classified failure false)).trans (changeProgress .reject)).trans
    (changeCounters .countRejection)

theorem exhausting (failure : Option Failure) :
    Leads call .countExhaustion [.classified failure true] world
      (world.exhausting call failure) :=
  (counting failure).trans (changeCounters .countExhaustion)

theorem announcing (event : Event) :
    Leads call id (world.announcement call event) world (world.announcing call event) := by
  rw [World.announcement, World.announcing]
  split
  · exact note _
  · exact outside (Outside.refl world)

theorem beginning (kind : WaitKind) (interval : Scalar) :
    Leads call id [.waitBegun kind interval] world (world.beginning call kind interval) := by
  rw [World.beginning]
  split
  · exact (note _).trans (changeProgress _)
  · exact note _

end Leads

theorem Outside.progressOf_of_uncancelled {before after : World σ} (outside : before.Outside after)
    {call : Nat} (uncancelled : (after.progressOf call).cancelled = false) :
    after.progressOf call = before.progressOf call := by
  rcases outside.progress call with equal | equal
  · exact equal
  · rw [equal] at uncancelled
    cases uncancelled

end World

end Reattempt
