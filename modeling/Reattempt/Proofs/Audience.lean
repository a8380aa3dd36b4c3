import Reattempt.Proofs.Ledger
import Reattempt.Proofs.Reserved

/-! What a listener hears of a policy. If the publisher of the policy is left to the
engine, a listener that is registered once for every kind receives an event for every
entry of the ledger that has a kind, and nothing else. -/

namespace Reattempt

variable {σ α : Type}

open World Reattempt.Action

namespace World

/-- The memory is as expected, and the listener is registered once for every kind. -/
structure Attended (publisher : Nat) (listener : Listener) (expected : σ → Prop)
    (world : World σ) : Prop where
  memory : expected world.memory
  registered : ∀ kind, ((world.listenersOf publisher).listeners kind).count listener = 1

/-- The listener goes on listening, and meanwhile it heard of these entries. -/
structure Hears (publisher : Nat) (listener : Listener) (expected : σ → Prop)
    (ledger : List Entry) (before after : World σ) : Prop where
  attended : after.Attended publisher listener expected
  received : ∀ kind, after.received publisher listener kind =
    before.received publisher listener kind + ledger.count kind.entry

/-- If the listener listens, it hears nothing and goes on listening. -/
def HearsNothing (publisher : Nat) (listener : Listener) (expected : σ → Prop)
    (before after : World σ) : Prop :=
  before.Attended publisher listener expected →
    Hears publisher listener expected [] before after

variable {publisher : Nat} {listener : Listener} {expected : σ → Prop}

theorem Hears.trans {first second third : World σ} {earlier later : List Entry}
    (begun : Hears publisher listener expected earlier first second)
    (ended : Hears publisher listener expected later second third) :
    Hears publisher listener expected (earlier ++ later) first third where
  attended := ended.attended
  received kind := by
    rw [ended.received, begun.received, List.count_append, Nat.add_assoc]

theorem Hears.andNothing {first second third : World σ} {ledger : List Entry}
    (begun : Hears publisher listener expected ledger first second)
    (ended : HearsNothing publisher listener expected second third) :
    Hears publisher listener expected ledger first third := by
  have heard := begun.trans (ended begun.attended)
  rwa [List.append_nil] at heard

instance : IsPreorder (World σ) (HearsNothing publisher listener expected) where
  refl _ attended := ⟨attended, fun _ => rfl⟩
  trans _ _ _ begun ended attended := (begun attended).trans (ended (begun attended).attended)

private theorem hearsNothing_of_same {before after : World σ}
    (memory : after.memory = before.memory) (tables : after.tables = before.tables)
    (deliveries : after.deliveriesOf publisher = before.deliveriesOf publisher) :
    HearsNothing publisher listener expected before after := by
  intro attended
  refine ⟨⟨memory ▸ attended.memory, ?_⟩, ?_⟩
  · intro kind
    rw [listenersOf, tables]
    exact attended.registered kind
  · intro kind
    rw [received, deliveries]
    rfl

theorem Attended.member {world : World σ} (attended : world.Attended publisher listener expected)
    (kind : EventKind) : listener ∈ (world.listenersOf publisher).listeners kind := by
  rw [← List.count_pos_iff, attended.registered]
  exact Nat.one_pos

theorem Attended.of_outside {before after : World σ}
    (attended : before.Attended publisher listener expected) (outside : before.Outside after)
    (memory : expected after.memory) : after.Attended publisher listener expected where
  memory := memory
  registered kind := (outside.enlisted (attended.member kind)).trans (attended.registered kind)

theorem hearsNothing_of_outside {before after : World σ} (outside : before.Outside after)
    (quiet : before.Attended publisher listener expected → Quiet publisher expected before after) :
    HearsNothing publisher listener expected before after := by
  intro attended
  refine ⟨attended.of_outside outside (quiet attended).memory, ?_⟩
  intro kind
  rw [received, (quiet attended).deliveries]
  rfl

theorem received_of_delivered {before after : World σ} {listeners : List Listener} {event : Event}
    {kind : EventKind} (known : event.kind? = some kind)
    (delivered : after.deliveriesOf publisher =
      before.deliveriesOf publisher ++ listeners.map fun listener => (listener, event))
    (other : EventKind) :
    after.received publisher listener other = before.received publisher listener other +
      if other = kind then listeners.count listener else 0 := by
  rw [received, received, delivered, List.countP_append, List.countP_map]
  congr 1
  split
  · next equal =>
      subst equal
      apply List.countP_congr
      intro candidate _
      simp [known]
  · next different =>
      rw [List.countP_eq_zero]
      intro candidate _
      simp [known, Ne.symm different]

end World

private theorem EventKind.count_entry (kind other : EventKind) :
    [kind.entry].count other.entry = if other = kind then 1 else 0 := by
  cases kind <;> cases other <;> rfl

theorem Action.Confined.keeps_hearsNothing {publisher : Nat} {expected : σ → Prop}
    {raises : Failure → Prop} {action : Action σ α}
    (confined : action.Confined publisher expected raises) (outside : action.Keeps Outside)
    (listener : Listener) : action.Keeps (HearsNothing publisher listener expected) :=
  fun world => hearsNothing_of_outside (outside world) fun attended =>
    (confined world attended.memory).1

/-- The failures that are reported can be written into the log, and what the caller's code
does in a turn of its own is confined. -/
def Turn.Confined (publisher : Nat) (expected : σ → Prop) : Turn σ → Prop
  | .failure _ _ reported | .record _ reported => reported.all Failure.isWorded = true
  | .aside behaviour => behaviour.Confined publisher expected fun _ => True
  | .success _ | .wait _ _ _ => True

namespace Environment.Reserves

variable {environment : Environment σ} (call : Call) {listener : Listener} {expected : σ → Prop}
  (reserves : environment.Reserves call.policy.publisher expected)

include reserves

theorem announces {detail : EventDetail} {kind : EventKind} (known : detail.kind? = some kind)
    (attempts : Nat) (failure : Option Failure) {world : World σ}
    (attended : world.Attended call.policy.publisher listener expected) :
    ∃ after, environment.announce call detail attempts failure world = .ok () after ∧
      Hears call.policy.publisher listener expected [kind.entry] world after := by
  have event : (call.event detail attempts failure).kind? = some kind := known
  have listening : world.hears call (call.event detail attempts failure) = true := by
    rw [World.hears, event, ListenerTable.hasListeners, Bool.not_eq_true',
      List.isEmpty_eq_false_iff]
    exact List.ne_nil_of_mem (attended.member kind)
  have noted : HearsNothing call.policy.publisher listener expected world
      (world.note call (.announced (call.event detail attempts failure))) :=
    hearsNothing_of_same rfl rfl (deliveriesOf_note _ _ _ _)
  have begun := noted attended
  rcases reserves.publishes event begun.attended.memory with ⟨after, equal, memory, delivered⟩
  have outside := (environment.keeps_publish _ _).of_ok equal
  refine ⟨after, ?_, begun.attended.of_outside outside memory, ?_⟩
  · rw [environment.announce_of_heard call listening, announcing, if_pos listening]
    exact equal
  · intro other
    rw [received_of_delivered event delivered, begun.received, begun.attended.registered,
      EventKind.count_entry]
    rfl

theorem concluded {detail : EventDetail} {kind : EventKind} {attempts : Nat}
    {failure : Option Failure} {wording : Wording} {text : String} (written : wording = .ok text)
    {entry : String → LogEntry} {world after : World σ} {raised : Failure}
    (concludes : environment.conclude (α := α) call detail attempts failure wording entry world =
      .error raised after)
    (known : detail.kind? = some kind)
    (attended : world.Attended call.policy.publisher listener expected) :
    Hears call.policy.publisher listener expected [kind.entry] world after := by
  have logged : HearsNothing call.policy.publisher listener expected world
      (world.observe (.logged (entry text))) :=
    hearsNothing_of_same rfl rfl (deliveriesOf_logged _ _ _)
  have begun := logged attended
  rcases reserves.announces call known attempts failure begun.attended with
    ⟨announced, equal, heard⟩
  have raises (_ : Unit) : (raise failure : Action σ α).Keeps
      (HearsNothing call.policy.publisher listener expected) :=
    (confined_raise failure).keeps_hearsNothing (keeps_raise failure) listener
  have ended := Keeps.after_bind (environment.announce call detail attempts failure) raises
    (world.observe (.logged (entry text)))
  rw [after_eq_of_ok equal] at ended
  rw [environment.conclude_of_written call written] at concludes
  rw [← after_eq_of_error concludes]
  exact (begun.trans heard).andNothing ended

theorem planned {attempts : Nat} {failure : Option Failure} {asking : World σ}
    {result : EStateM.Result Failure (World σ) Scalar}
    (planning : Planning environment call attempts failure asking result)
    (attended : asking.Attended call.policy.publisher listener expected) :
    Hears call.policy.publisher listener expected
      (environment.entryOfInterval call attempts asking).toList asking (lastWorld result) := by
  have computed := (reserves.delay call.policy.config.interval attempts).keeps_hearsNothing
    (environment.keeps_delay _ _) listener
  have logged {world : World σ} (entry : LogEntry) : HearsNothing call.policy.publisher listener
      expected world (world.observe (.logged entry)) :=
    hearsNothing_of_same rfl rfl (deliveriesOf_logged _ _ _)
  have known (interval : Scalar) : (EventDetail.retry interval).kind? = some .retry := rfl
  cases planning with
  | uncomputed computes =>
      rw [entryOfInterval, computes]
      exact computed.of_error computes attended
  | unwritten computes unwritten =>
      have heard := computed.of_ok computes attended
      simp only [entryOfInterval, computes, unwritten]
      exact heard.andNothing (hearsNothing_of_same rfl rfl rfl)
  | unannounced computes written announces =>
      rename_i interval _ _ _ entry _
      have heard := computed.of_ok computes attended
      have begun := heard.andNothing (logged entry)
      rcases reserves.announces call (known interval) attempts failure begun.attended with
        ⟨after, equal, told⟩
      rw [announces] at equal
      cases equal
  | announced computes written announces =>
      rename_i interval _ _ _ entry
      have heard := computed.of_ok computes attended
      have begun := heard.andNothing (logged entry)
      rcases reserves.announces call (known interval) attempts failure begun.attended with
        ⟨after, equal, told⟩
      rw [announces] at equal
      cases equal
      simp only [entryOfInterval, computes, written]
      exact begun.trans told

theorem recordFailure {failure : Option Failure} (worded : failure.all Failure.isWorded = true)
    {before : World σ} (attended : before.Attended call.policy.publisher listener expected) :
    Hears call.policy.publisher listener expected
      (environment.entryOfFailure call failure before).toList before
      ((environment.recordFailure call failure).after before) := by
  have judges := (reserves.isRetryable call.policy.config failure).keeps_hearsNothing
    (environment.keeps_isRetryable _ _) listener
  have recording := environment.recording_recordFailure call failure before
  generalize ends : environment.recordFailure call failure before = result at recording
  cases recording with
  | unclassified asked =>
      rw [after_eq_of_error ends, entryOfFailure, asked]
      exact judges.of_error asked attended
  | rejected asked concludes =>
      rename_i judged after entry raised
      rcases Failure.exists_text? worded with ⟨text, written⟩
      have judgement := judges.of_ok asked attended
      have noted : HearsNothing call.policy.publisher listener expected judged
          (judged.rejecting call failure) := hearsNothing_of_same rfl rfl (by simp [rejecting])
      have heard := judgement.andNothing noted
      rw [after_eq_of_error ends, entryOfFailure, asked]
      exact heard.trans (reserves.concluded call written concludes rfl heard.attended)
  | exhausted asked reached concludes =>
      rename_i judged after entry raised
      rcases Failure.exists_shown? worded with ⟨shown, written⟩
      have judgement := judges.of_ok asked attended
      have noted : HearsNothing call.policy.publisher listener expected judged
          (judged.exhausting call failure) :=
        hearsNothing_of_same rfl rfl (by simp [exhausting, counting])
      have heard := judgement.andNothing noted
      rw [after_eq_of_error ends, entryOfFailure, asked]
      simp only [reached, if_true]
      exact heard.trans (reserves.concluded call written concludes rfl heard.attended)
  | planned asked allowed planning =>
      rename_i judged
      have judgement := judges.of_ok asked attended
      have written : HearsNothing call.policy.publisher listener expected judged
          ((judged.counting call failure).note call
            (.intervalAsked (judged.attemptsOf call + 1))) :=
        hearsNothing_of_same rfl rfl (by simp [counting])
      have heard := judgement.andNothing written
      rw [after, ends, entryOfFailure, asked]
      simp only [allowed, Bool.false_eq_true, if_false]
      exact heard.trans (reserves.planned call planning heard.attended)

theorem onSuccess {before : World σ}
    (attended : before.Attended call.policy.publisher listener expected) :
    Hears call.policy.publisher listener expected [entryOfSuccess call before] before
      ((environment.onSuccess call).after before) := by
  rcases Nat.eq_zero_or_pos (before.attemptsOf call) with never | retried
  · have counted : HearsNothing call.policy.publisher listener expected before
        ((environment.onSuccess call).after before) := by
      rw [after_eq_of_ok (environment.onSuccess_at_once call never)]
      exact hearsNothing_of_same rfl rfl rfl
    have silent (kind : EventKind) : [entryOfSuccess call before].count kind.entry = 0 := by
      rw [entryOfSuccess, never]
      cases kind <;> rfl
    refine ⟨(counted attended).attended, ?_⟩
    intro kind
    rw [(counted attended).received, silent]
    rfl
  · rcases environment.onSuccess_after_retry call retried with ⟨entry, announces⟩
    have counted : HearsNothing call.policy.publisher listener expected before
        (((before.changeProgress call.number .succeed).changeCounters call.policy.number
          (·.countSuccess true)).observe (.logged entry)) :=
      hearsNothing_of_same rfl rfl (by simp)
    have begun := counted attended
    have known : EventDetail.success.kind? = some .success := rfl
    rcases reserves.announces call known (before.attemptsOf call)
      (before.progressOf call.number).lastFailure begun.attended with ⟨after, equal, told⟩
    rw [after_congr announces, after_eq_of_ok equal, entryOfSuccess, if_pos retried]
    exact begun.trans told

theorem waitAndResume (listener : Listener) (kind : WaitKind) (interval : Scalar) :
    (environment.waitAndResume call kind interval).Keeps
      (HearsNothing call.policy.publisher listener expected) := by
  have ignores : IgnoresWaits call (HearsNothing call.policy.publisher listener expected) :=
    { note := fun _ _ => hearsNothing_of_same rfl rfl (deliveriesOf_note _ _ _ _)
      logged := fun _ _ => hearsNothing_of_same rfl rfl (deliveriesOf_logged _ _ _)
      changeProgress := fun _ _ => hearsNothing_of_same rfl rfl rfl
      relinking := fun _ _ _ => hearsNothing_of_same rfl rfl rfl }
  have sleeps := (reserves.run (reserves.wait kind interval)).keeps_hearsNothing
    (environment.keeps_run _) listener
  have lags := (reserves.run (reserves.lag kind)).keeps_hearsNothing (environment.keeps_run _)
    listener
  apply Keeps.bind (ignores.keeps_waitBefore (keeps_passTime call sleeps lags))
  intro _ world
  exact hearsNothing_of_same rfl rfl rfl

theorem onFailure (kind : WaitKind) {failure : Option Failure}
    (worded : failure.all Failure.isWorded = true) {before : World σ}
    (attended : before.Attended call.policy.publisher listener expected) :
    Hears call.policy.publisher listener expected
      (environment.entryOfFailure call failure before).toList before
      ((environment.onFailure call kind failure).after before) := by
  have recorded := reserves.recordFailure call worded attended
  have waited := Keeps.after_bind (environment.recordFailure call failure)
    (fun interval => reserves.waitAndResume call listener kind interval) before
  rcases kind.after_enclose (environment.recordAndWait call kind failure) before with
    ⟨failures, -, enclosed⟩
  have left : HearsNothing call.policy.publisher listener expected
      ((environment.recordAndWait call kind failure).after before)
      ((environment.onFailure call kind failure).after before) := by
    rw [onFailure_eq, enclosed]
    exact hearsNothing_of_same rfl rfl rfl
  exact (recorded.andNothing waited).andNothing left

end Environment.Reserves

namespace Environment

variable (environment : Environment σ) (policy : Policy)

private theorem hears_take {listener : Listener} {expected : σ → Prop}
    (reserves : environment.Reserves policy.publisher expected) {turn : Turn σ}
    (confined : turn.Confined policy.publisher expected)
    {before : World σ} (attended : before.Attended policy.publisher listener expected) :
    Hears policy.publisher listener expected (environment.entryOf policy turn before).toList before
      ((environment.take policy turn).after before) := by
  cases turn with
  | success call => exact Reserves.onSuccess ⟨call, policy⟩ reserves attended
  | failure call kind failure =>
      exact Reserves.onFailure ⟨call, policy⟩ reserves kind confined attended
  | record call failure =>
      have silent (interval : Scalar) : (pure () : Action σ Unit).Keeps
          (HearsNothing policy.publisher listener expected) := keeps_pure ()
      have recorded := Reserves.recordFailure ⟨call, policy⟩ reserves confined attended
      exact recorded.andNothing
        (Keeps.after_bind (environment.recordFailure ⟨call, policy⟩ failure) silent before)
  | wait call kind interval =>
      exact Reserves.waitAndResume ⟨call, policy⟩ reserves listener kind interval before attended
  | aside behaviour =>
      have quiet := (reserves.run confined).keeps_hearsNothing (environment.keeps_run behaviour)
      exact quiet listener before attended

theorem hears_history {listener : Listener} {expected : σ → Prop}
    (reserves : environment.Reserves policy.publisher expected) {turns : List (Turn σ)}
    (confined : ∀ turn ∈ turns, turn.Confined policy.publisher expected)
    {before : World σ} (attended : before.Attended policy.publisher listener expected) :
    Hears policy.publisher listener expected (environment.ledger policy turns before) before
      (environment.history policy turns before) := by
  induction turns generalizing before with
  | nil => exact ⟨attended, fun _ => rfl⟩
  | cons turn rest induction =>
      have taken := environment.hears_take policy reserves (confined turn (by simp)) attended
      have rests := induction (fun later member => confined later (by simp [member])) taken.attended
      exact taken.trans rests

/-- Counters and events tell the same story. -/
theorem history_ledger (turns : List (Turn σ)) (before : World σ) :
    (environment.history policy turns before).countersOf policy.number =
      (before.countersOf policy.number).enter (environment.ledger policy turns before) ∧
    ∀ {listener : Listener} {expected : σ → Prop},
      environment.Reserves policy.publisher expected →
      (∀ turn ∈ turns, turn.Confined policy.publisher expected) →
      before.Attended policy.publisher listener expected →
      ∀ kind, (environment.history policy turns before).received policy.publisher listener kind =
        before.received policy.publisher listener kind +
          (environment.ledger policy turns before).count kind.entry := by
  refine ⟨environment.countersOf_history policy turns before, ?_⟩
  intro listener expected reserves confined attended
  exact (environment.hears_history policy reserves confined attended).received

end Environment

namespace Environment

/-! ## Two listeners -/

namespace Audited

def environment (echo : Behaviour Unit Unit) : Environment Unit where
  interval _ _ := .answer Backoff.defaultDelay
  predicate _ _ := .answer true
  listener _ listener _ := if listener = "echo" then echo else .answer ()
  wait _ _ := .answer ()
  draw _ _ := .answer 0.0
  depth := 1

def policy : Policy where
  number := 0
  name := "backend"
  shared := { number := 0, config := .default }
  publisher := 0
  sleeps := false

def world : World Unit where
  tables := OrderedMap.empty.set 0
    ((ListenerTable.empty.registerAll EventKind.all "auditor").register .retry "echo")
  memory := ()

def unreachable : Failure := .ofMessage (.given 0) .connection "unreachable"

def turns : List (Turn Unit) :=
  [.failure 0 .blocking (some unreachable), .success 0]

def forgery : Behaviour Unit Unit :=
  .publish 0 { detail := .success, policyName := "backend", attempts := 1, lastFailure := none }
    (.answer ())

theorem attended : world.Attended 0 "auditor" fun _ => True where
  memory := trivial
  registered kind := by cases kind <;> decide

theorem reserves : (environment (.answer ())).Reserves 0 fun _ => True where
  interval _ _ := trivial
  predicate _ _ := trivial
  wait _ _ := trivial
  lag _ := trivial
  draw _ _ := trivial
  listener _ listener _ := by
    rw [environment]
    dsimp only
    split <;> trivial

end Audited

theorem history_ledger_audited :
    let after := (Audited.environment (.answer ())).history Audited.policy Audited.turns
      Audited.world
    after.countersOf 0 = { succeededAfterRetry := 1 } ∧
    ∀ kind, after.received 0 "auditor" kind =
      [Entry.retried, .succeededAfterRetry].count kind.entry := by
  intro after
  have entered : (Audited.environment (.answer ())).ledger Audited.policy Audited.turns
      Audited.world = [.retried, .succeededAfterRetry] := by decide
  have told := history_ledger (Audited.environment (.answer ())) Audited.policy Audited.turns
    Audited.world
  rw [entered] at told
  refine ⟨told.1, ?_⟩
  intro kind
  have worded : (some Audited.unreachable).all Failure.isWorded = true := rfl
  have confined : ∀ turn ∈ Audited.turns, turn.Confined 0 fun _ => True := by
    simp [Audited.turns, Turn.Confined, worded]
  have received := told.2 Audited.reserves confined Audited.attended kind
  exact received.trans (Nat.zero_add _)

/-- A listener that publishes events by hand lets others hear of successes that were never
counted. -/
theorem received_forgery :
    let after := (Audited.environment Audited.forgery).history Audited.policy
      [.failure 0 .blocking (some Audited.unreachable)] Audited.world
    (∀ kind, "auditor" ∈ (Audited.world.listenersOf 0).listeners kind) ∧
      (after.countersOf 0).succeededAfterRetry = 0 ∧ after.received 0 "auditor" .success = 1 := by
  intro after
  refine ⟨Audited.attended.member, ?_⟩
  decide

end Environment

end Reattempt
