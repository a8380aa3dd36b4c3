import Reattempt.Proofs.Discreet
import Reattempt.Proofs.Enlistment
import Reattempt.Proofs.Trace

/-! The delivery of one event, listener by listener. Who is called with the event was decided
when the delivery started. In the meantime listeners may register others, publish events
themselves and raise failures; only a failure that cannot be reported cuts the delivery short. -/

namespace Reattempt

variable {σ : Type}

open World Reattempt.Action

/-- An event that is being delivered, and what surrounds it. Deliveries may nest `depth` deep
inside this one. -/
structure Occasion (σ : Type) where
  environment : Environment σ
  depth : Nat
  publisher : Nat
  event : Event
  kind : EventKind

/-- One call of a listener: the world it starts in, what is observed while it runs and how it
ends. -/
structure Hearing (σ : Type) where
  listener : Listener
  world : World σ
  during : List Observation
  result : EStateM.Result Failure (World σ) Unit

namespace Hearing

def raised? (hearing : Hearing σ) : Option Failure :=
  match hearing.result with
  | .ok _ _ => none
  | .error failure _ => some failure

/-- What is reported of an ordinary failure, if it can be worded. -/
def reported? (hearing : Hearing σ) : Option String :=
  hearing.raised?.bind fun failure =>
    if failure.isA .ordinary then failure.text.toOption else none

/-- Any other failure cuts the delivery short. -/
def fatal? (hearing : Hearing σ) : Option Failure :=
  hearing.raised?.filter fun failure => !failure.isReportable

inductive Stops (hearing : Hearing σ) : EStateM.Result Failure (World σ) Unit → Prop
  | raised {failure : Failure} (special : failure.isA .ordinary = false)
      (raises : hearing.result = .error failure (lastWorld hearing.result)) :
      Stops hearing (.error failure (lastWorld hearing.result))
  /-- A failure that cannot be worded is replaced by another one. -/
  | refused {failure : Failure} {refusal : Refusal} (ordinary : failure.isA .ordinary = true)
      (refused : failure.text = .error refusal)
      (raises : hearing.result = .error failure (lastWorld hearing.result)) :
      Stops hearing (.error (refusal.toFailure (.made (lastWorld hearing.result).failures))
        ((lastWorld hearing.result).relinking ((lastWorld hearing.result).failures + 1)
          (lastWorld hearing.result).links))

private theorem raised?_of_fatal {hearing : Hearing σ} {failure : Failure}
    (fatal : hearing.fatal? = some failure) :
    hearing.raised? = some failure ∧ failure.isReportable = false := by
  rcases Option.filter_eq_some_iff.mp fatal with ⟨raised, other⟩
  exact ⟨raised, by simpa using other⟩

private theorem result_of_raised {hearing : Hearing σ} {failure : Failure}
    (raised : hearing.raised? = some failure) :
    hearing.result = .error failure (lastWorld hearing.result) := by
  rw [raised?] at raised
  cases ends : hearing.result with
  | ok value after =>
      rw [ends] at raised
      cases raised
  | error other after =>
      rw [ends] at raised
      cases raised
      rfl

private theorem reported?_of_fatal {hearing : Hearing σ} {failure : Failure}
    (fatal : hearing.fatal? = some failure) : hearing.reported? = none := by
  rcases raised?_of_fatal fatal with ⟨raised, unreportable⟩
  rw [reported?, raised, Option.bind_some]
  split
  · next ordinary =>
      rw [Failure.isReportable, ordinary, Bool.true_and] at unreportable
      cases text : failure.text with
      | ok text =>
          rw [text] at unreportable
          cases unreportable
      | error refusal => rfl
  · rfl

namespace Stops

variable {hearing : Hearing σ} {result : EStateM.Result Failure (World σ) Unit}
  (stops : hearing.Stops result)

include stops

theorem trace : (lastWorld result).trace = (lastWorld hearing.result).trace := by
  cases stops <;> rfl

theorem tables : (lastWorld result).tables = (lastWorld hearing.result).tables := by
  cases stops <;> rfl

theorem fails : ∃ raised, result = .error raised (lastWorld result) := by
  cases stops <;> exact ⟨_, rfl⟩

theorem result_eq {failure : Failure} (raised : hearing.raised? = some failure)
    (special : failure.isA .ordinary = false) :
    result = .error failure (lastWorld hearing.result) := by
  have ends := result_of_raised raised
  cases stops with
  | raised special raises =>
      rw [raises] at ends
      cases ends
      rfl
  | refused ordinary refused raises =>
      rw [raises] at ends
      cases ends
      rw [ordinary] at special
      cases special

end Stops

end Hearing

namespace Occasion

variable (occasion : Occasion σ)

def call (listener : Listener) : Action σ Unit := do
  let world ← get
  Action.observe (.delivered occasion.publisher listener occasion.event world.links)
  (occasion.environment.listener occasion.publisher listener occasion.event).perform
    (occasion.environment.deliverWithin occasion.depth)

/-- The listener is called with the event, and an ordinary failure is reported. -/
def tell (listener : Listener) : Action σ Unit :=
  occasion.environment.notify (occasion.environment.deliverWithin occasion.depth)
    occasion.publisher occasion.event occasion.kind listener

structure Hears (hearing : Hearing σ) : Prop where
  called : occasion.call hearing.listener hearing.world = hearing.result
  observed : (lastWorld hearing.result).trace = hearing.world.trace ++
    .delivered occasion.publisher hearing.listener occasion.event hearing.world.links ::
      hearing.during

def warnings (hearing : Hearing σ) : List Observation :=
  (hearing.reported?.map fun text =>
    .logged (occasion.event.complaint occasion.kind text)).toList

def next (hearing : Hearing σ) : World σ :=
  match hearing.reported? with
  | some text =>
      (lastWorld hearing.result).observe (.logged (occasion.event.complaint occasion.kind text))
  | none => lastWorld hearing.result

/-- All that is observed of a hearing, the warning at its end included. -/
def observations (hearing : Hearing σ) : List Observation :=
  .delivered occasion.publisher hearing.listener occasion.event hearing.world.links ::
    (hearing.during ++ occasion.warnings hearing)

def enlistments (hearing : Hearing σ) : List Enlistment :=
  occasion.environment.enlistmentsBy (occasion.environment.deliverWithin occasion.depth)
    (occasion.environment.enlistmentsWithin occasion.depth) occasion.publisher occasion.event
    hearing.listener hearing.world

/-- The listeners are told one after another, each in the world that the one before it left,
and all of them unless one raises a failure that cannot be reported. -/
inductive Told : List Listener → World σ → List (Hearing σ) →
    EStateM.Result Failure (World σ) Unit → Prop
  | done (world : World σ) : Told [] world [] (.ok () world)
  | passed {hearing : Hearing σ} {rest : List Listener} {hearings : List (Hearing σ)}
      {result : EStateM.Result Failure (World σ) Unit} (hears : occasion.Hears hearing)
      (passes : hearing.fatal? = none) (later : Told rest (occasion.next hearing) hearings result) :
      Told (hearing.listener :: rest) hearing.world (hearing :: hearings) result
  | stopped {hearing : Hearing σ} {failure : Failure} {rest : List Listener}
      {result : EStateM.Result Failure (World σ) Unit} (hears : occasion.Hears hearing)
      (fatal : hearing.fatal? = some failure) (stops : hearing.Stops result) :
      Told (hearing.listener :: rest) hearing.world [hearing] result

def listeners (world : World σ) : List Listener :=
  (world.listenersOf occasion.publisher).listeners occasion.kind

/-- What a delivery does, with the hearings that it comes to. -/
structure Delivers (world : World σ) (hearings : List (Hearing σ))
    (result : EStateM.Result Failure (World σ) Unit) : Prop where
  told : occasion.Told (occasion.listeners world) world hearings result
  inOrder : hearings.map Hearing.listener <+: occasion.listeners world
  once : (occasion.listeners world).Nodup → (hearings.map Hearing.listener).Nodup
  newcomers : ∀ {listener}, listener ∉ occasion.listeners world →
    listener ∉ hearings.map Hearing.listener
  completes : (∀ hearing ∈ hearings, hearing.fatal? = none) →
    hearings.map Hearing.listener = occasion.listeners world ∧ ∃ after, result = .ok () after
  /-- A failure that cannot be reported comes from the last one who is told. -/
  stops : ∀ {hearing failure}, hearing ∈ hearings → hearing.fatal? = some failure →
    hearings.getLast? = some hearing ∧ hearing.Stops result
  propagates : ∀ {hearing failure}, hearing ∈ hearings → hearing.raised? = some failure →
    failure.isA .ordinary = false →
    hearings.getLast? = some hearing ∧ result = .error failure (lastWorld hearing.result)
  trace : (lastWorld result).trace = world.trace ++ hearings.flatMap occasion.observations
  tables : (lastWorld result).tables =
    ListenerTables.enterAll world.tables (hearings.flatMap occasion.enlistments)
  registered : ∀ {enlistment}, enlistment ∈ hearings.flatMap occasion.enlistments →
    ∀ kind ∈ enlistment.kinds, enlistment.listener ∈
      ((lastWorld result).listenersOf enlistment.publisher).listeners kind
  distinct : ∀ {publisher kind}, ((world.listenersOf publisher).listeners kind).Nodup →
    (((lastWorld result).listenersOf publisher).listeners kind).Nodup

/-! ## Calling the listeners -/

theorem exists_hears (listener : Listener) (world : World σ) :
    ∃ during, occasion.Hears
      { listener, world, during, result := occasion.call listener world } := by
  have outside := Behaviour.keeps_perform
    (occasion.environment.keeps_deliverWithin occasion.depth)
    (occasion.environment.listener occasion.publisher listener occasion.event)
    (world.observe (.delivered occasion.publisher listener occasion.event world.links))
  rcases Precedes.of_outside outside with ⟨during, equal⟩
  rw [trace_observe, List.append_assoc] at equal
  exact ⟨during, rfl, equal.symm⟩

theorem tell_eq {hearing : Hearing σ} (hears : occasion.Hears hearing) :
    occasion.tell hearing.listener hearing.world =
      match hearing.result with
      | .ok _ after => .ok () after
      | .error failure after =>
          if failure.isA .ordinary then
            match failure.text with
            | .ok text =>
                .ok () (after.observe (.logged (occasion.event.complaint occasion.kind text)))
            | .error refusal =>
                .error (refusal.toFailure (.made after.failures))
                  { after with failures := after.failures + 1 }
          else .error failure after := by
  have called := hears.called
  simp only [call, bind_apply, get_apply, observe_apply] at called
  rw [← called]
  exact occasion.environment.notify_apply _ _ _ _ _ _

private theorem tell_of_passing {hearing : Hearing σ} (hears : occasion.Hears hearing)
    (passes : hearing.fatal? = none) :
    occasion.tell hearing.listener hearing.world = .ok () (occasion.next hearing) := by
  rw [tell_eq occasion hears, next, Hearing.reported?]
  rw [Hearing.fatal?] at passes
  cases ends : hearing.result with
  | ok value after =>
      have silent : hearing.raised? = none := by rw [Hearing.raised?, ends]
      rw [silent]
      rfl
  | error failure after =>
      have raised : hearing.raised? = some failure := by rw [Hearing.raised?, ends]
      rw [raised, Option.filter_eq_none_iff] at passes
      have reportable := passes failure rfl
      rw [Bool.not_eq_true', Bool.not_eq_false] at reportable
      rcases Failure.exists_text_of_isReportable reportable with ⟨ordinary, text, written⟩
      simp only [raised, Option.bind_some, ordinary, written, if_true, Except.toOption, lastWorld]

theorem exists_stops {hearing : Hearing σ} (hears : occasion.Hears hearing) {failure : Failure}
    (fatal : hearing.fatal? = some failure) :
    hearing.Stops (occasion.tell hearing.listener hearing.world) := by
  rcases Hearing.raised?_of_fatal fatal with ⟨raised, unreportable⟩
  have raises := Hearing.result_of_raised raised
  rw [tell_eq occasion hears, raises]
  cases ordinary : failure.isA .ordinary with
  | false =>
      simp only [ordinary, Bool.false_eq_true, if_false]
      exact .raised ordinary raises
  | true =>
      rw [Failure.isReportable, ordinary, Bool.true_and] at unreportable
      cases text : failure.text with
      | ok text =>
          rw [text] at unreportable
          cases unreportable
      | error refusal =>
          simp only [ordinary, if_true, text]
          exact .refused ordinary text raises

private theorem tellAll_cons (listener : Listener) (rest : List Listener) (world : World σ) :
    (listener :: rest).forM occasion.tell world =
      match occasion.tell listener world with
      | .ok _ middle => rest.forM occasion.tell middle
      | .error failure middle => .error failure middle := by
  change (occasion.tell listener >>= fun _ => rest.forM occasion.tell) world = _
  rw [bind_apply]
  cases occasion.tell listener world <;> rfl

theorem exists_told (listeners : List Listener) (world : World σ) :
    ∃ hearings, occasion.Told listeners world hearings
      (listeners.forM occasion.tell world) := by
  induction listeners generalizing world with
  | nil => exact ⟨[], .done world⟩
  | cons listener rest induction =>
      rcases occasion.exists_hears listener world with ⟨during, hears⟩
      let hearing : Hearing σ :=
        { listener, world, during, result := occasion.call listener world }
      cases fatal : hearing.fatal? with
      | none =>
          rcases induction (occasion.next hearing) with ⟨hearings, later⟩
          rw [tellAll_cons, occasion.tell_of_passing hears fatal]
          exact ⟨_, .passed hears fatal later⟩
      | some failure =>
          have stops : hearing.Stops (occasion.tell listener world) :=
            occasion.exists_stops hears fatal
          rcases stops.fails with ⟨raised, ends⟩
          have last : (listener :: rest).forM occasion.tell world =
              occasion.tell listener world := by
            rw [tellAll_cons, ends]
          rw [last]
          exact ⟨_, .stopped hears fatal stops⟩

/-! ## What a hearing leaves -/

section Hears

variable {occasion} {hearing : Hearing σ}

theorem trace_next (hears : occasion.Hears hearing) :
    (occasion.next hearing).trace = hearing.world.trace ++ occasion.observations hearing := by
  have warned : (occasion.next hearing).trace =
      (lastWorld hearing.result).trace ++ occasion.warnings hearing := by
    rw [next, warnings]
    cases hearing.reported? with
    | none => exact (List.append_nil _).symm
    | some failure => exact trace_observe _ _
  rw [warned, hears.observed, observations, List.append_assoc, List.cons_append]

theorem trace_of_fatal (hears : occasion.Hears hearing) {failure : Failure}
    (fatal : hearing.fatal? = some failure) : (lastWorld hearing.result).trace =
      hearing.world.trace ++ occasion.observations hearing := by
  rw [← trace_next hears, next, Hearing.reported?_of_fatal fatal]

theorem tables_next : (occasion.next hearing).tables = (lastWorld hearing.result).tables := by
  rw [next]
  split <;> rfl

theorem tables_result (hears : occasion.Hears hearing) : (lastWorld hearing.result).tables =
    ListenerTables.enterAll hearing.world.tables (occasion.enlistments hearing) := by
  rw [← hears.called]
  exact Behaviour.enlists_perform
    (occasion.environment.enlists_deliverWithin occasion.depth) _ _

end Hears

/-! ## What all hearings leave -/

namespace Told

variable {occasion} {listeners : List Listener} {world : World σ} {hearings : List (Hearing σ)}
  {result : EStateM.Result Failure (World σ) Unit}
  (told : occasion.Told listeners world hearings result)

include told

theorem isPrefix : hearings.map Hearing.listener <+: listeners := by
  induction told with
  | done => exact List.prefix_refl []
  | passed hears passes later induction => exact List.cons_prefix_cons.mpr ⟨rfl, induction⟩
  | stopped hears fatal stops => exact List.cons_prefix_cons.mpr ⟨rfl, List.nil_prefix⟩

theorem completes (passing : ∀ hearing ∈ hearings, hearing.fatal? = none) :
    hearings.map Hearing.listener = listeners ∧ ∃ after, result = .ok () after := by
  induction told with
  | done world => exact ⟨rfl, world, rfl⟩
  | passed hears passes later induction =>
      rcases induction fun other member => passing other (List.mem_cons_of_mem _ member) with
        ⟨equal, ends⟩
      exact ⟨congrArg _ equal, ends⟩
  | stopped hears fatal stops =>
      rw [passing _ (List.mem_singleton_self _)] at fatal
      cases fatal

theorem stops {hearing : Hearing σ} {failure : Failure} (member : hearing ∈ hearings)
    (fatal : hearing.fatal? = some failure) :
    hearings.getLast? = some hearing ∧ hearing.Stops result := by
  induction told with
  | done => cases member
  | passed hears passes later induction =>
      rcases List.mem_cons.mp member with equal | member
      · rw [equal, passes] at fatal
        cases fatal
      · rcases induction member with ⟨last, ends⟩
        exact ⟨by rw [List.getLast?_cons, last]; rfl, ends⟩
  | stopped hears _ stops =>
      rw [List.mem_singleton] at member
      subst member
      exact ⟨rfl, stops⟩

theorem propagates {hearing : Hearing σ} {failure : Failure} (member : hearing ∈ hearings)
    (raised : hearing.raised? = some failure) (special : failure.isA .ordinary = false) :
    hearings.getLast? = some hearing ∧ result = .error failure (lastWorld hearing.result) := by
  have fatal : hearing.fatal? = some failure := by
    rw [Hearing.fatal?, raised, Option.filter_some, Failure.isReportable, special]
    rfl
  rcases told.stops member fatal with ⟨last, stops⟩
  exact ⟨last, stops.result_eq raised special⟩

theorem trace : (lastWorld result).trace =
    world.trace ++ hearings.flatMap occasion.observations := by
  induction told with
  | done world => exact (List.append_nil _).symm
  | passed hears passes later induction =>
      rw [induction, trace_next hears, List.flatMap_cons, List.append_assoc]
  | stopped hears fatal stops =>
      rw [stops.trace, trace_of_fatal hears fatal, List.flatMap_singleton]

theorem tables : (lastWorld result).tables =
    ListenerTables.enterAll world.tables (hearings.flatMap occasion.enlistments) := by
  induction told with
  | done => rfl
  | passed hears passes later induction =>
      rw [induction, tables_next, tables_result hears, List.flatMap_cons,
        ListenerTables.enterAll_append]
  | stopped hears fatal stops =>
      rw [stops.tables, tables_result hears, List.flatMap_singleton]

end Told

theorem Told.delivers {occasion : Occasion σ} {world : World σ} {hearings : List (Hearing σ)}
    {result : EStateM.Result Failure (World σ) Unit}
    (told : occasion.Told (occasion.listeners world) world hearings result) :
    occasion.Delivers world hearings result where
  told := told
  inOrder := told.isPrefix
  once distinct := told.isPrefix.sublist.nodup distinct
  newcomers absent member := absent (told.isPrefix.subset member)
  completes := told.completes
  stops := told.stops
  propagates := told.propagates
  trace := told.trace
  tables := told.tables
  registered {enlistment} member kind concerned := by
    rw [listenersOf, told.tables]
    exact ListenerTables.mem_enterAll_of_mem member concerned
  distinct {publisher kind} distinct := by
    rw [listenersOf, told.tables]
    have before : ((ListenerTables.tableOf world.tables publisher).listeners kind).Nodup := distinct
    exact ListenerTables.nodup_enterAll before _

end Occasion

namespace Environment

theorem deliverWithin_delivers (environment : Environment σ) (depth publisher : Nat)
    {event : Event} {kind : EventKind} (known : event.kind? = some kind) (world : World σ) :
    ∃ hearings, Occasion.Delivers { environment, depth, publisher, event, kind } world hearings
      (environment.deliverWithin (depth + 1) publisher event world) := by
  let occasion : Occasion σ := { environment, depth, publisher, event, kind }
  rcases occasion.exists_told (occasion.listeners world) world with ⟨hearings, told⟩
  rw [environment.deliverWithin_succ_apply depth publisher known]
  exact ⟨hearings, told.delivers⟩

namespace Crowded

def interrupt : Failure := .ofMessage (.given 1) .keyboardInterrupt "stop"

def environment : Environment Unit where
  interval _ _ := .answer Backoff.defaultDelay
  predicate _ _ := .answer true
  listener publisher listener _ :=
    if listener = "recruiter" then .listen publisher [.retry] "newcomer" (.answer ())
    else if listener = "grumbler" then .raise (.ofMessage (.given 0) .value "not again")
    else if listener = "stopper" then .raise interrupt
    else .answer ()
  wait _ _ := .answer ()
  draw _ _ := .answer 0.0
  depth := 0

def world : World Unit where
  tables := OrderedMap.empty.set 0
    { retry := ["recruiter", "grumbler", "stopper", "auditor"] }
  memory := ()

def event : Event where
  detail := .retry (.whole 1)
  policyName := "backend"
  attempts := 1
  lastFailure := none

def occasion : Occasion Unit where
  environment := environment
  depth := 0
  publisher := 0
  event := event
  kind := .retry

end Crowded

def Crowded.kindless : Event where
  detail := .plain
  policyName := "backend"
  attempts := 1
  lastFailure := none

end Environment

end Reattempt
