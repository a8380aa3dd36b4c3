import Reattempt.Proofs.Fate
import Reattempt.Proofs.Purity
import Reattempt.Proofs.Untouched

/-! Calls are isolated. What is asked of a call is answered by what is known about this
call alone, as long as predicate and interval function are pure and listeners leave calls
alone. So two calls that have come equally far answer the same request in the same way,
even in different worlds, and no other call notices. -/

namespace Reattempt

variable {σ α : Type}

open World Reattempt.Action

def Failure.unwakeable (number : Nat) : Failure :=
  .ofMessage (.made number) .runtime "Event loop is closed"

/-! ## Requests -/

/-- What happens while a call waits: it may be cancelled, and then a failure may be
raised. It may also be cancelled when the wait is over and the call does not go on yet. -/
structure Interlude where
  cancels : Bool := false
  raised? : Option Failure := none
  cancelsLate : Bool := false

namespace Interlude

variable (interlude : Interlude)

def ending : Except Failure Unit :=
  match interlude.raised? with
  | none => .ok ()
  | some failure => .error failure

def cancelling (cancels : Bool) (call : Nat) (last : Behaviour σ Unit) : Behaviour σ Unit :=
  if cancels then .cancel call last else last

def behaviour (call : Nat) : Behaviour σ Unit :=
  cancelling interlude.cancels call
    (match interlude.raised? with
      | none => .answer ()
      | some failure => .raise failure)

def lateBehaviour (call : Nat) : Behaviour σ Unit :=
  cancelling interlude.cancelsLate call (.answer ())

/-- What the code says. A call whose wait was left behind cannot be cancelled without a
failure. -/
def cancellingWord (cancels : Bool) (last : Except Failure Unit) (stranded : Bool) : Word Unit :=
  if cancels && stranded then { ending := .error (.unwakeable 0), cancels := true }
  else { ending := last, cancels }

def word (kind : WaitKind) (stranded : Bool) : Word Bool :=
  .passing kind ((cancellingWord interlude.cancels interlude.ending stranded).during kind)
    ((cancellingWord interlude.cancelsLate (.ok ()) stranded).during kind)

end Interlude

structure Request where
  operation : Operation
  interlude : Interlude := {}

namespace Environment

def awaiting (environment : Environment σ) (interlude : Interlude) (call : Nat) : Environment σ :=
  { environment with
    wait := fun _ _ => interlude.behaviour call
    lag := fun _ => interlude.lateBehaviour call }

def serve (environment : Environment σ) (call : Call) (request : Request) : Action σ Unit :=
  (environment.awaiting request.interlude call.number).perform call request.operation

variable {environment : Environment σ} {interlude : Interlude} {number : Nat}

/-! Waits make no difference where no one waits. -/

@[simp] theorem run_awaiting (code : Behaviour σ α) :
    (environment.awaiting interlude number).run code = environment.run code := by
  apply run_congr <;> rfl

@[simp] theorem isRetryable_awaiting (config : Config) (failure : Option Failure) :
    (environment.awaiting interlude number).isRetryable config failure =
      environment.isRetryable config failure := by
  simp only [isRetryable, run_awaiting]
  rfl

@[simp] theorem delay_awaiting (backoff : Backoff) (attempt : Int) :
    (environment.awaiting interlude number).delay backoff attempt =
      environment.delay backoff attempt := by
  induction backoff with
  | randomized inner factor induction =>
      simp only [delay, induction, jitter, uniform, run_awaiting]
      rfl
  | custom function => exact run_awaiting _
  | _ => rfl

theorem Discreet.awaiting {calls : Nat → Prop} (discreet : environment.Discreet calls) :
    (environment.awaiting interlude number).Discreet calls :=
  discreet

/-! ## Cancellations -/

private theorem cancel_of_stranded {call : Nat} {world : World σ}
    (stranded : (world.progressOf call).stranded = true) :
    Action.cancel call world =
      .error (.unwakeable world.failures)
        ((world.changeProgress call .cancel).relinking (world.failures + 1) world.links) := by
  have still : ((world.progressOf call).cancel).stranded = true := stranded
  simp only [Action.cancel, bind_apply, changeProgress_apply, progressOf_apply,
    progressOf_changeProgress_self, still, if_true]
  rfl

private theorem cancel_of_unstranded {call : Nat} {world : World σ}
    (unstranded : (world.progressOf call).stranded = false) :
    Action.cancel call world = .ok () (world.changeProgress call .cancel) := by
  have still : ((world.progressOf call).cancel).stranded = false := unstranded
  simp only [Action.cancel, bind_apply, changeProgress_apply, progressOf_apply,
    progressOf_changeProgress_self, still, Bool.false_eq_true, if_false]
  rfl

theorem tells_cancelling (environment : Environment σ) (cancels : Bool)
    {last : Behaviour σ Unit} {ending : Except Failure Unit}
    (lasts : ∀ world, environment.run last world = Action.ending ending world) (call : Nat)
    (world : World σ) :
    (environment.run (Interlude.cancelling cancels call last)).TellsAlike call world
      (Interlude.cancellingWord cancels ending (world.progressOf call).stranded) := by
  cases cancels with
  | false => exact ⟨⟨ending, false⟩, ⟨world, lasts world, rfl⟩, rfl⟩
  | true =>
      cases stranded : (world.progressOf call).stranded with
      | true =>
          have fails := cancel_of_stranded stranded
          refine ⟨⟨.error (.unwakeable world.failures), true⟩,
            ⟨(world.changeProgress call .cancel).relinking (world.failures + 1) world.links, ?_,
              ?_⟩, ?_⟩
          · change (Action.cancel call >>= fun _ => environment.run last) world = _
            rw [bind_apply, fails]
            rfl
          · exact progressOf_changeProgress_self call .cancel world
          · rfl
      | false =>
          have succeeds := cancel_of_unstranded stranded
          refine ⟨_, ⟨world.changeProgress call .cancel, ?_, ?_⟩, rfl⟩
          · change (Action.cancel call >>= fun _ => environment.run last) world = _
            rw [bind_apply, succeeds]
            exact lasts _
          · exact progressOf_changeProgress_self call .cancel world

theorem tells_interlude (environment : Environment σ) (interlude : Interlude) {call : Call}
    (kind : WaitKind) (interval : Scalar) {begun : World σ}
    (uncancelled : (begun.progressOf call.number).cancelled = false) :
    ((environment.awaiting interlude call.number).passTime call kind interval).TellsAlike
      call.number begun (interlude.word kind (begun.progressOf call.number).stranded) := by
  apply tells_passTime uncancelled
  · apply tells_runDuring
    apply tells_cancelling
    intro world
    rw [Interlude.ending]
    cases interlude.raised? <;> rfl
  · intro waited progress
    have stranded : (waited.progressOf call.number).stranded =
        (begun.progressOf call.number).stranded := by
      rw [progress, Progress.heed]
      split <;> rfl
    rw [← stranded]
    apply tells_runDuring
    apply tells_cancelling
    intro world
    rfl

/-! ## Calls side by side -/

/-- The policies of two calls differ at most in their numbers, their publishers and their
ways to wait, and the calls have come equally far. -/
structure Beside (calls : Nat → Prop) (left right : Call) (here there : World σ) : Prop where
  leftMember : calls left.number
  rightMember : calls right.number
  name : left.policy.name = right.policy.name
  config : left.policy.config = right.policy.config
  progress : here.progressOf left.number = there.progressOf right.number

/-- Two calls are served in the same way, up to the numbers of failures that the engine
makes. -/
structure Matches (left right : Call) (here there : World σ)
    (leftResult rightResult : EStateM.Result Failure (World σ) Unit) : Prop where
  outcome : (outcomeOf leftResult).mapError Failure.unnumbered =
    (outcomeOf rightResult).mapError Failure.unnumbered
  progress : (lastWorld leftResult).progressOf left.number =
    (lastWorld rightResult).progressOf right.number
  counters : ∃ ledger,
    (lastWorld leftResult).countersOf left.policy.number =
      (here.countersOf left.policy.number).enter ledger ∧
    (lastWorld rightResult).countersOf right.policy.number =
      (there.countersOf right.policy.number).enter ledger
  causes : ∃ leftChain? rightChain?,
    (lastWorld leftResult).links = here.links.extend leftChain? ∧
    (lastWorld rightResult).links = there.links.extend rightChain? ∧
    leftChain?.map Chain.unnumbered = rightChain?.map Chain.unnumbered

variable {calls : Nat → Prop}

/-- Pure code makes the same speech to all calls that have come equally far. -/
theorem exists_speech (pure : environment.Pure calls) (config : Config) (kind : WaitKind)
    (failure : Failure) (interlude : Interlude) (progress : Progress) :
    ∃ speech, ∀ {call : Call} {before : World σ}, calls call.number →
      call.policy.config = config → before.progressOf call.number = progress →
      Says (environment.awaiting interlude call.number) call kind failure before speech := by
  rcases (pure.isRetryable config (some failure)).word with ⟨verdict, -, judges⟩
  rcases (pure.delay config.interval (progress.attempts + 1 : Nat)).word with
    ⟨interval, -, computes⟩
  refine ⟨{ verdict, interval, wait := interlude.word kind (progress.settle kind false).stranded },
    ?_⟩
  rintro call before member rfl rfl
  refine ⟨?_, ?_, ?_⟩
  · rw [isRetryable_awaiting]
    exact judges member before
  · intro judged asked _
    have counted := attemptsOf_eq_of_outside (outside_of_isRetryable asked) call
    rw [delay_awaiting, counted]
    exact computes member _
  · intro interval planned records uncancelled
    have kept := ((environment.awaiting interlude call.number).untouched_recordFailure call _).of_ok
      records
    have begun := progressOf_beginning_settle planned call kind interval
    have stranded : ((planned.beginning call kind interval).progressOf call.number).stranded =
        ((before.progressOf call.number).settle kind false).stranded := by
      rw [begun, Progress.settle, Progress.settle]
      split
      · rfl
      · exact kept.stranded call.number
    rw [← stranded]
    apply tells_interlude
    rw [begun, Progress.cancelled_settle, uncancelled]

section Serve

variable {left right : Call} {here there : World σ} (beside : Beside calls left right here there)

include beside

theorem matches_onFailure (discreet : environment.Discreet calls) (pure : environment.Pure calls)
    (kind : WaitKind) (failure : Failure) (interlude : Interlude) :
    Matches left right here there
      ((environment.awaiting interlude left.number).onFailure left kind (some failure) here)
      ((environment.awaiting interlude right.number).onFailure right kind (some failure) there) := by
  rcases exists_speech pure left.policy.config kind failure interlude
    (here.progressOf left.number) with ⟨speech, speaks⟩
  have leftReported := reported_onFailure discreet.awaiting beside.leftMember
    (speaks beside.leftMember rfl rfl)
  have rightReported := reported_onFailure discreet.awaiting beside.rightMember
    (speaks beside.rightMember beside.config.symm beside.progress.symm)
  have exit : exitOf right kind failure there speech = exitOf left kind failure here speech := by
    rw [exitOf, exitOf, beside.config, beside.progress]
  rcases leftReported with
    ⟨leftOutcome, leftProgress, -, leftCounters, leftChain?, leftLinks, leftChained⟩
  rcases rightReported with
    ⟨rightOutcome, rightProgress, -, rightCounters, rightChain?, rightLinks, rightChained⟩
  rw [exit] at rightOutcome rightCounters rightChained
  refine ⟨leftOutcome.trans rightOutcome.symm, ?_, ⟨_, leftCounters, rightCounters⟩,
    leftChain?, rightChain?, leftLinks, rightLinks, ?_⟩
  · rw [leftProgress, rightProgress, beside.config, beside.progress]
  · rw [leftChained, rightChained, beside.name, attemptsOf, attemptsOf, beside.progress]

theorem matches_onSuccess {other : Environment σ} (discreet : environment.Discreet calls)
    (discreetToo : other.Discreet calls) :
    Matches left right here there (environment.onSuccess left here)
      (other.onSuccess right there) := by
  rcases discreet.reportsSuccess left here with ⟨leftAfter, leftReports⟩
  rcases discreetToo.reportsSuccess right there with ⟨rightAfter, rightReports⟩
  rcases discreet.succeeds beside.leftMember leftReports with ⟨leftSucceeds, -, leftLinks⟩
  rcases discreetToo.succeeds beside.rightMember rightReports with ⟨rightSucceeds, -, rightLinks⟩
  have leftCounters := environment.countersOf_onSuccess left here
  have rightCounters := other.countersOf_onSuccess right there
  rw [after_eq_of_ok leftReports] at leftCounters
  rw [after_eq_of_ok rightReports] at rightCounters
  have entry : entryOfSuccess right there = entryOfSuccess left here := by
    rw [entryOfSuccess, entryOfSuccess, attemptsOf, attemptsOf, beside.progress]
  rw [entry] at rightCounters
  rw [leftReports, rightReports]
  refine ⟨rfl, ?_, ⟨_, leftCounters, rightCounters⟩, none, none, leftLinks, rightLinks, rfl⟩
  rw [lastWorld, lastWorld, leftSucceeds, rightSucceeds, beside.progress]

theorem matches_cancel :
    Matches left right here there (Action.cancel left.number here)
      (Action.cancel right.number there) := by
  have cancelled : (here.changeProgress left.number .cancel).progressOf left.number =
      (there.changeProgress right.number .cancel).progressOf right.number := by
    rw [progressOf_changeProgress_self, progressOf_changeProgress_self, beside.progress]
  cases stranded : (here.progressOf left.number).stranded with
  | true =>
      rw [cancel_of_stranded stranded, cancel_of_stranded (beside.progress ▸ stranded)]
      exact ⟨rfl, cancelled, ⟨[], rfl, rfl⟩, none, none, rfl, rfl, rfl⟩
  | false =>
      rw [cancel_of_unstranded stranded, cancel_of_unstranded (beside.progress ▸ stranded)]
      exact ⟨rfl, cancelled, ⟨[], rfl, rfl⟩, none, none, rfl, rfl, rfl⟩

/-- Calls that have come equally far answer the same request in the same way. -/
theorem matches_serve (discreet : environment.Discreet calls) (pure : environment.Pure calls)
    (request : Request) :
    Matches left right here there (environment.serve left request here)
      (environment.serve right request there) := by
  rcases request with ⟨operation, interlude⟩
  cases operation with
  | success => exact matches_onSuccess beside discreet.awaiting discreet.awaiting
  | failure kind failure => exact matches_onFailure beside discreet pure kind failure interlude
  | cancel => exact matches_cancel beside

end Serve

/-! ## Other calls -/

theorem keeps_others_cancelling {others : Nat → Prop} {environment : Environment σ}
    {last : Behaviour σ Unit} (lasts : (environment.run last).Keeps (SameProgress others))
    (cancels : Bool) {call : Nat} (absent : ¬ others call) :
    (environment.run (Interlude.cancelling cancels call last)).Keeps (SameProgress others) := by
  cases cancels with
  | false => exact lasts
  | true => exact Keeps.bind (discreet_cancel absent).keeps fun _ => lasts

theorem keeps_others_interlude {others : Nat → Prop} (environment : Environment σ)
    (interlude : Interlude) {call : Nat} (absent : ¬ others call) :
    (environment.run (interlude.behaviour call)).Keeps (SameProgress others) := by
  apply keeps_others_cancelling _ _ absent
  cases interlude.raised? with
  | none => exact keeps_pure ()
  | some failure => exact keeps_throw failure

theorem keeps_others_lateInterlude {others : Nat → Prop} (environment : Environment σ)
    (interlude : Interlude) {call : Nat} (absent : ¬ others call) :
    (environment.run (interlude.lateBehaviour call)).Keeps (SameProgress others) :=
  keeps_others_cancelling (keeps_pure ()) _ absent

theorem keeps_others_serve (discreet : environment.Discreet calls) (pure : environment.Pure calls)
    (call : Call) (request : Request) :
    (environment.serve call request).Keeps
      (SameProgress fun other => calls other ∧ other ≠ call.number) := by
  have absent : ¬ (calls call.number ∧ call.number ≠ call.number) := fun both => both.2 rfl
  have fewer {before after : World σ} (same : SameProgress calls before after) :
      SameProgress (fun other => calls other ∧ other ≠ call.number) before after :=
    fun other member => same other member.1
  have ignores : IgnoresReports (environment.awaiting request.interlude call.number) call
      (SameProgress fun other => calls other ∧ other ≠ call.number) :=
    { observe := fun _ _ _ _ => rfl
      counting := fun world _ => sameProgress_changeProgress absent _ world
      rejecting := sameProgress_changeProgress absent _
      succeeding := sameProgress_changeProgress absent _
      changeCounters := fun _ _ _ _ => rfl
      newIdentity := fun _ _ _ => rfl
      publishes := fun event world =>
        fewer ((discreet.awaiting.deliverWithin _ _ event).keeps world) }
  have ignoresWaits : IgnoresWaits call
      (SameProgress (σ := σ) fun other => calls other ∧ other ≠ call.number) :=
    { note := fun _ _ _ _ => rfl
      logged := fun _ _ _ _ => rfl
      changeProgress := fun world change => sameProgress_changeProgress absent change world
      relinking := fun _ _ _ _ _ => rfl }
  rcases request with ⟨operation, interlude⟩
  cases operation with
  | success => exact ignores.keeps_onSuccess
  | cancel => exact (discreet_cancel absent).keeps
  | failure kind failure =>
      rw [serve, perform, onFailure_eq]
      refine kind.keeps_enclose ?_ fun _ _ _ => rfl
      refine Keeps.bind (ignores.keeps_recordFailure ?_ ?_) fun interval => ?_
      · rw [isRetryable_awaiting]
        exact fun world => fewer ((pure.isRetryable _ _).keeps world)
      · intro attempts
        rw [delay_awaiting]
        exact fun world => fewer ((pure.delay _ _).keeps world)
      · refine Keeps.bind (ignoresWaits.keeps_waitBefore (keeps_passTime call ?_ ?_)) fun _ => ?_
        · rw [run_awaiting]
          exact keeps_others_interlude environment interlude absent
        · rw [run_awaiting]
          exact keeps_others_lateInterlude environment interlude absent
        · exact fun world => sameProgress_changeProgress absent .resume world

end Environment

/-! ## Causes of failures -/

theorem Exit.of_chain? {exit : Exit} {failure interruption : Failure} {chain : Chain}
    (chained : exit.chain? failure interruption = some chain) :
    chain.failure = failure ∧ (chain.origin? = none ∨ chain.interruption = interruption) := by
  cases exit with
  | waited interval ending =>
      cases ending with
      | skipped =>
          cases chained
          exact ⟨rfl, .inl rfl⟩
      | noticed =>
          cases chained
          exact ⟨rfl, .inl rfl⟩
      | escaped raised => cases chained
      | unworded begun raised => cases chained
      | elapsed => cases chained
      | interrupted cause =>
          simp only [chain?, WaitEnding.chain?] at chained
          split at chained
          · cases chained
            exact ⟨rfl, .inl rfl⟩
          · cases chained
            exact ⟨rfl, .inr rfl⟩
  | _ => cases chained

def Request.failure? (request : Request) : Option Failure :=
  match request.operation with
  | .failure _ failure => some failure
  | .success | .cancel => none

namespace Environment

variable {environment : Environment σ}

/-- A failure of the caller gets no cause while another one is reported. -/
theorem find?_serve {number : Nat} {call : Call} {request : Request}
    (spared : ∀ {failure}, request.failure? = some failure → failure.identity ≠ .given number)
    (before : World σ) :
    ((environment.serve call request).after before).links.find? (.given number) =
      before.links.find? (.given number) := by
  rcases request with ⟨operation, interlude⟩
  cases operation with
  | success =>
      have kept := (environment.awaiting interlude call.number).untouched_onSuccess call before
      exact congrArg (OrderedMap.find? · (.given number)) kept.links
  | cancel =>
      have kept := keeps_cancel call.number before
      exact congrArg (OrderedMap.find? · (.given number)) kept.links
  | failure kind failure =>
      rcases exists_exits_perform (environment.awaiting interlude call.number) call kind failure
        before with ⟨exit, failures, exits, left⟩
      rcases exits.links with ⟨made, links⟩
      rw [serve, left]
      change (lastWorld _).links.find? _ = _
      rw [links]
      cases chained : exit.chain? failure _ with
      | none => rfl
      | some chain =>
          rcases Exit.of_chain? chained with ⟨rfl, origin⟩
          rw [CauseLinks.find?_extend (spared rfl).symm]
          split
          · next same =>
              rcases origin with origin | made
              · rw [origin]
                rfl
              · rw [made] at same
                cases same
          · rfl

end Environment

end Reattempt
