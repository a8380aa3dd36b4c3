import Reattempt.Proofs.Fate
import Reattempt.Proofs.Speech

/-! Listeners decide nothing. Whatever a run comes to can be computed from what the
operation, the predicate, the interval function and the waits say, attempt by attempt.
Listeners that are discreet about the call do not appear in this computation, so two runs
that differ only in who listens come to the same. -/

namespace Reattempt

variable {σ α : Type}

structure Script (α : Type) where
  outcome : Nat → Word α
  speech : Nat → Speech

/-- What a run comes to: how it ends, how far the call has come, its acts, what is entered
for it and the causes that are attached to failures. -/
structure Performance (α : Type) where
  outcome : Except Failure (Option α)
  progress : Progress
  acts : List CallStep
  ledger : List Entry := []
  chain? : Option Chain := none

namespace Performance

def precede (acts : List CallStep) (performance : Performance α) : Performance α :=
  { performance with acts := acts ++ performance.acts }

/-- What a run comes to that ends with the report of a failure. -/
def ofReport (call : Call) (kind : WaitKind) (failure : Failure) (acts : List CallStep)
    (speech : Speech) (attempted : Progress) : Performance α :=
  let limit := call.policy.config.limit
  let exit := speech.exit limit kind failure attempted
  { outcome := (kind.released (exit.outcome failure)).map fun _ => none
    progress := speech.advance limit kind failure attempted
    acts := acts ++ exit.acts failure kind (attempted.attempts + 1)
    ledger := exit.ledger
    chain? := exit.chain? failure
      (.interruption (.made 0) call.policy.name (attempted.attempts + 1 : Nat)) }

end Performance

namespace Script

variable (script : Script α) (call : Call) (kind : WaitKind) (arguments : Arguments)

/-- What a call comes to from the attempt with a number on. -/
def play : (budget number : Nat) → Progress → Performance α
  | 0, _, progress => { outcome := .ok none, progress, acts := [] }
  | budget + 1, number, progress =>
      let word := script.outcome number
      let speech := script.speech number
      let attempted := progress.heed word.cancels
      let limit := call.policy.config.limit
      match word.ending with
      | .ok value =>
          { outcome := .ok (some value)
            progress := attempted.succeed
            acts := [.attempted arguments]
            ledger := [if 0 < attempted.attempts then .succeededAfterRetry else .succeededAtOnce] }
      | .error failure =>
          if failure.isA .ordinary then
            let exit := speech.exit limit kind failure attempted
            if exit.isAgain then
              (play budget (number + 1) (speech.advance limit kind failure attempted)).precede
                (.attempted arguments :: exit.acts failure kind (attempted.attempts + 1))
            else .ofReport call kind failure [.attempted arguments] speech attempted
          else { outcome := .error failure, progress := attempted, acts := [.attempted arguments] }

end Script

namespace Environment

open World Reattempt.Action

/-- The caller's code follows the script in a call, from the attempt with a number on. -/
def Follows (environment : Environment σ) (call : Call) (kind : WaitKind)
    (operation : Arguments → Behaviour σ α) (arguments : Arguments) (script : Script α) :
    (budget number : Nat) → World σ → Prop
  | 0, _, _ => True
  | budget + 1, number, before =>
      (environment.run (operation arguments)).Tells call.number
        (before.note call (.attempted arguments)) (script.outcome number) ∧
      ∀ {failure failed},
        environment.run (operation arguments) (before.note call (.attempted arguments)) =
          .error failure failed →
        failure.isA .ordinary = true →
        Says environment call kind failure failed (script.speech number) ∧
        ∀ {next}, environment.onFailure call kind (some failure) failed = .ok () next →
          Follows environment call kind operation arguments script budget (number + 1) next

/-- The run comes to the performance, up to the numbers of failures that the engine
makes. -/
structure Performs (call : Call) (before : World σ) (performance : Performance α)
    (result : EStateM.Result Failure (World σ) (Option α)) : Prop where
  outcome : (outcomeOf result).mapError Failure.unnumbered =
    performance.outcome.mapError Failure.unnumbered
  progress : (lastWorld result).progressOf call.number = performance.progress
  acts : (lastWorld result).actsOf call.number = before.actsOf call.number ++ performance.acts
  counters : (lastWorld result).countersOf call.policy.number =
    (before.countersOf call.policy.number).enter performance.ledger
  causes : ∃ chain?, (lastWorld result).links = before.links.extend chain? ∧
    chain?.map Chain.unnumbered = performance.chain?.map Chain.unnumbered

variable {environment : Environment σ} {call : Call} {kind : WaitKind}
  {operation : Arguments → Behaviour σ α} {arguments : Arguments}

theorem actsOf_of_attempt {before after : World σ}
    (outside : (before.note call (.attempted arguments)).Outside after) :
    after.actsOf call.number = before.actsOf call.number ++ [.attempted arguments] := by
  rw [actsOf, outside.stepsOf, stepsOf_note, List.filter_append]
  rfl

section Report

variable {failure : Failure} {speech : Speech} {before failed : World σ}
  (outside : (before.note call (.attempted arguments)).Outside failed)

include outside

theorem Reported.performs {raised : Failure} {after : World σ}
    (reported : Reported call kind failure failed speech (.error raised after)) :
    Performs (α := α) call before (.ofReport call kind failure [.attempted arguments] speech
      (failed.progressOf call.number)) (.error raised after) := by
  rcases reported with ⟨same, progress, acts, counters, chain?, links, chained⟩
  have mapped (outcome : Except Failure Unit) (next : Unit → Option α) :
      (outcome.map next).mapError Failure.unnumbered =
        (outcome.mapError Failure.unnumbered).map next := by
    cases outcome <;> rfl
  refine ⟨?_, progress, ?_, ?_, chain?, ?_, chained⟩
  · rw [Performance.ofReport, mapped]
    rw [exitOf] at same
    rw [← same]
    rfl
  · rw [lastWorld] at acts ⊢
    rw [acts, actsOf_of_attempt outside, List.append_assoc]
    rfl
  · rw [lastWorld] at counters ⊢
    rw [counters, outside.countersOf]
    rfl
  · rw [lastWorld] at links ⊢
    rw [links, outside.links]
    rfl

theorem Reported.performs_again {next : World σ} {performance : Performance α}
    {result : EStateM.Result Failure (World σ) (Option α)}
    (reported : Reported call kind failure failed speech (.ok () next))
    (rest : Performs call next performance result) :
    Performs call before (performance.precede (.attempted arguments ::
      (exitOf call kind failure failed speech).acts failure kind (failed.attemptsOf call + 1)))
      result := by
  rcases Exit.eq_of_isAgain reported.again with ⟨interval, exit⟩
  rcases reported with ⟨-, -, acts, counters, chain?, links, chained⟩
  rw [exit] at counters chained
  rw [lastWorld] at acts counters links
  have unchained : chain? = none := Option.map_eq_none_iff.mp chained
  have kept : next.links = before.links := by
    rw [links, unchained, outside.links]
    rfl
  refine ⟨rest.outcome, rest.progress, ?_, ?_, ?_⟩
  · rw [rest.acts, acts, actsOf_of_attempt outside, Performance.precede]
    simp only [List.append_assoc, List.cons_append, List.nil_append]
  · rw [rest.counters, counters, outside.countersOf]
    rfl
  · rw [← kept]
    exact rest.causes

end Report

theorem performs_success {calls : Nat → Prop} (discreet : environment.Discreet calls)
    (member : calls call.number) {before answered after : World σ}
    (outside : (before.note call (.attempted arguments)).Outside answered)
    (reports : environment.onSuccess call answered = .ok () after) (value : α) :
    Performs call before
      { outcome := .ok (some value)
        progress := (answered.progressOf call.number).succeed
        acts := [.attempted arguments]
        ledger := [if 0 < (answered.progressOf call.number).attempts then .succeededAfterRetry
          else .succeededAtOnce] }
      (.ok (some value) after) := by
  rcases discreet.succeeds member reports with ⟨succeeded, acts, links⟩
  have counters := environment.countersOf_onSuccess call answered
  rw [after_eq_of_ok reports] at counters
  refine ⟨rfl, succeeded, ?_, ?_, none, links.trans outside.links, rfl⟩
  · rw [lastWorld, acts, actsOf_of_attempt outside]
  · rw [lastWorld, counters, outside.countersOf]
    rfl

theorem performs_attemptWithin {calls : Nat → Prop} (discreet : environment.Discreet calls)
    (member : calls call.number) {script : Script α} {budget number : Nat} {before : World σ}
    (follows : environment.Follows call kind operation arguments script budget number before) :
    Performs call before
      (script.play call kind arguments budget number (before.progressOf call.number))
      (environment.attemptWithin call kind operation arguments budget before) := by
  induction budget generalizing number before with
  | zero => exact ⟨rfl, rfl, (List.append_nil _).symm, rfl, none, rfl, rfl⟩
  | succ budget induction =>
      rcases follows with ⟨operates, reports⟩
      rw [attemptWithin_succ, Script.play]
      cases runs : environment.run (operation arguments)
          (before.note call (.attempted arguments)) with
      | ok value answered =>
          have outside := (environment.keeps_run _).of_ok runs
          rcases operates.of_ok runs with ⟨said, attempted⟩
          rw [progressOf_note] at attempted
          rcases discreet.reportsSuccess call answered with ⟨after, reports⟩
          simp only [said, reports, ← attempted]
          exact performs_success discreet member outside reports value
      | error failure failed =>
          have outside := (environment.keeps_run _).of_error runs
          rcases operates.of_error runs with ⟨said, attempted⟩
          rw [progressOf_note] at attempted
          cases ordinary : failure.isA .ordinary with
          | false =>
              simp only [said, ordinary, Bool.false_eq_true, if_false]
              exact ⟨rfl, attempted, actsOf_of_attempt outside, outside.countersOf _, none,
                outside.links, rfl⟩
          | true =>
              rcases reports runs ordinary with ⟨speaks, later⟩
              have reported := reported_onFailure discreet member speaks
              simp only [said, ordinary, if_true, ← attempted]
              cases ends : environment.onFailure call kind (some failure) failed with
              | ok value next =>
                  rw [ends] at reported
                  have again := reported.again
                  rw [exitOf] at again
                  rw [if_pos again, ← reported.progress]
                  exact reported.performs_again outside (induction (later ends))
              | error raised after =>
                  rw [ends] at reported
                  have last := reported.last
                  rw [exitOf] at last
                  rw [last, if_neg Bool.false_ne_true]
                  exact reported.performs outside

theorem Performs.enclose {performance : Performance α} {before start : World σ}
    {body : Action σ (Option α)} (performs : Performs call before performance (body start))
    (kind : WaitKind) :
    Performs call before { performance with outcome := kind.released performance.outcome }
      (kind.enclose body start) := by
  rcases kind.after_enclose body start with ⟨failures, -, enclosed⟩
  have last : lastWorld (kind.enclose body start) =
      (lastWorld (body start)).relinking failures (lastWorld (body start)).links := enclosed
  refine ⟨?_, ?_, ?_, ?_, ?_⟩
  · rw [WaitKind.outcomeOf_enclose]
    exact WaitKind.released_congr performs.outcome
  · rw [last, progressOf_relinking, performs.progress]
  · rw [last]
    exact performs.acts
  · rw [last]
    exact performs.counters
  · rw [last]
    exact performs.causes

/-- Two runs come to the same, up to the numbers of failures that the engine makes: they
return the same value or raise the same failure, attempt the operation and wait in the same
way, count the same, leave the call in the same state and attach the same causes. -/
structure Indistinct (call : Call) (links : CauseLinks)
    (left right : EStateM.Result Failure (World σ) (Option α)) : Prop where
  outcome : (outcomeOf left).mapError Failure.unnumbered =
    (outcomeOf right).mapError Failure.unnumbered
  progress : (lastWorld left).progressOf call.number = (lastWorld right).progressOf call.number
  acts : (lastWorld left).actsOf call.number = (lastWorld right).actsOf call.number
  counters : (lastWorld left).countersOf call.policy.number =
    (lastWorld right).countersOf call.policy.number
  causes : ∃ leftChain? rightChain?, (lastWorld left).links = links.extend leftChain? ∧
    (lastWorld right).links = links.extend rightChain? ∧
    leftChain?.map Chain.unnumbered = rightChain?.map Chain.unnumbered
  given : ∀ {failure number}, failure.identity = .given number →
    ((lastWorld left).links.causeOf failure).map Failure.unnumbered =
      ((lastWorld right).links.causeOf failure).map Failure.unnumbered

theorem Performs.indistinct {performance : Performance α} {before other : World σ}
    {left right : EStateM.Result Failure (World σ) (Option α)}
    (leftPerforms : Performs call before performance left)
    (rightPerforms : Performs call other performance right)
    (acts : other.actsOf call.number = before.actsOf call.number)
    (counters : other.countersOf call.policy.number = before.countersOf call.policy.number)
    (links : other.links = before.links) : Indistinct call before.links left right := by
  rcases leftPerforms with ⟨leftSame, leftProgress, leftActs, leftCounters, leftChain?,
    leftLinks, leftChained⟩
  rcases rightPerforms with ⟨rightSame, rightProgress, rightActs, rightCounters, rightChain?,
    rightLinks, rightChained⟩
  rw [acts] at rightActs
  rw [counters] at rightCounters
  rw [links] at rightLinks
  have chained := leftChained.trans rightChained.symm
  refine ⟨leftSame.trans rightSame.symm, leftProgress.trans rightProgress.symm,
    leftActs.trans rightActs.symm, leftCounters.trans rightCounters.symm,
    ⟨_, _, leftLinks, rightLinks, chained⟩, ?_⟩
  intro failure number given
  rw [leftLinks, rightLinks]
  have alike : CauseLinks.AlikeAt number before.links before.links := rfl
  exact (alike.extend chained).causeOf given

/-- Who listens makes no difference. In two runs of an operation under a policy that differ
only in the listeners that are registered, let the caller's code say the same, attempt by
attempt. If listeners do not cancel the call and raise ordinary failures at most, both runs
come to the same. -/
theorem runUnder_indifferent {policy : Policy} {asynchronous : Bool} {budget : Nat}
    {script : Script α} {before : World σ} {tables : OrderedMap Nat ListenerTable}
    (discreet : environment.Discreet (· = before.calls))
    (follows : environment.Follows (before.nextCall policy) (policy.waitKind asynchronous)
      operation arguments script budget 1 before.opening)
    (followsToo : environment.Follows (before.nextCall policy) (policy.waitKind asynchronous)
      operation arguments script budget 1 { before with tables }.opening) :
    Indistinct (before.nextCall policy) before.links
      (environment.runUnder policy asynchronous operation arguments budget before)
      (environment.runUnder policy asynchronous operation arguments budget
        { before with tables }) := by
  have left := performs_attemptWithin discreet rfl follows
  have right := performs_attemptWithin discreet rfl followsToo
  rw [runUnder_apply, runUnder_apply]
  exact (left.enclose _).indistinct (right.enclose _) rfl rfl rfl

end Environment

namespace Environment

open World Reattempt.Action

/-! ## A listener that is heard or not -/

namespace Grumbling

def script : Script Nat where
  outcome _ := { ending := .error (.ofMessage (.given 0) .connection "unreachable") }
  speech _ :=
    { verdict := { ending := .ok true }
      interval := { ending := .ok Backoff.defaultDelay }
      wait := { ending := .ok false } }

theorem follows {call : Call} (usual : call.policy.config = .default) (budget number : Nat)
    (before : World Unit) :
    environment.Follows call .suspended operation {} script budget number before := by
  induction budget generalizing number before with
  | zero => trivial
  | succ budget induction =>
      refine ⟨⟨_, rfl, rfl⟩, ?_⟩
      intro failure failed runs ordinary
      cases runs
      refine ⟨⟨?_, ?_, ?_⟩, fun _ => induction _ _⟩
      · rw [usual]
        exact ⟨_, ⟨_, rfl, rfl⟩, rfl⟩
      · intro judged _ _
        rw [usual]
        exact ⟨_, ⟨_, rfl, rfl⟩, rfl⟩
      · intro interval planned _ uncancelled
        have begun : ((planned.beginning call .suspended interval).progressOf
            call.number).cancelled = false := by
          rw [progressOf_beginning_settle, Progress.cancelled_settle, uncancelled]
        have told : (environment.passTime call .suspended interval).TellsAlike call.number
            (planned.beginning call .suspended interval)
            (.passing .suspended { ending := .ok () } { ending := .ok () }) :=
          tells_passTime begun ⟨_, ⟨_, rfl, rfl⟩, rfl⟩ fun _ => ⟨_, ⟨_, rfl, rfl⟩, rfl⟩
        exact told

end Grumbling

theorem runUnder_indifferent_grumbling :
    let heard := Grumbling.environment.runUnder Grumbling.policy true Grumbling.operation {} 5
      Grumbling.world
    let unheard := Grumbling.environment.runUnder Grumbling.policy true Grumbling.operation {} 5
      { Grumbling.world with tables := .empty }
    (lastWorld heard).observed.length ≠ (lastWorld unheard).observed.length ∧
      Indistinct (Grumbling.world.nextCall Grumbling.policy) .empty heard unheard := by
  intro heard unheard
  refine ⟨by decide, ?_⟩
  exact runUnder_indifferent (Grumbling.discreet _) (Grumbling.follows rfl 5 1 _)
    (Grumbling.follows rfl 5 1 _)

namespace Grumbling

def recruiting : Environment Unit :=
  { environment with
    listener := fun publisher listener _ =>
      if listener = "recruiter" then .listen publisher [.retry] "canceller" (.answer ())
      else .cancel 0 (.answer ()) }

def recruiter : World Unit :=
  { world with tables := OrderedMap.empty.set 0 (ListenerTable.empty.register .retry "recruiter") }

end Grumbling

/-- A listener that only registers another one does not cancel the call itself, and yet the
operation is attempted less often. -/
theorem runUnder_recruiting :
    let heard := Grumbling.recruiting.runUnder Grumbling.policy true Grumbling.operation {} 5
      Grumbling.recruiter
    let unheard := Grumbling.recruiting.runUnder Grumbling.policy true Grumbling.operation {} 5
      { Grumbling.recruiter with tables := .empty }
    ((lastWorld heard).progressOf 0).attempts = 2 ∧
      ((lastWorld unheard).progressOf 0).attempts = 3 := by
  decide

end Environment

end Reattempt
