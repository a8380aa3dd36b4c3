import Reattempt.Proofs.Outside
import Reattempt.Proofs.Registration

/-! Registrations that the caller's code makes while it runs. They are collected along the
run, those of nested deliveries as well, and the tables afterwards are the tables before with
these registrations entered in their order. Nothing else changes them, however the code ends. -/

namespace Reattempt

variable {σ α β : Type}

structure Enlistment where
  publisher : Nat
  kinds : List EventKind
  listener : Listener
  deriving DecidableEq, Repr

abbrev ListenerTables := OrderedMap Nat ListenerTable

namespace ListenerTables

def tableOf (tables : ListenerTables) (publisher : Nat) : ListenerTable :=
  (tables.find? publisher).getD .empty

def enter (tables : ListenerTables) (enlistment : Enlistment) : ListenerTables :=
  tables.set enlistment.publisher
    ((tables.tableOf enlistment.publisher).registerAll enlistment.kinds enlistment.listener)

def enterAll (tables : ListenerTables) (enlistments : List Enlistment) : ListenerTables :=
  enlistments.foldl enter tables

theorem enterAll_append (tables : ListenerTables) (earlier later : List Enlistment) :
    tables.enterAll (earlier ++ later) = (tables.enterAll earlier).enterAll later :=
  List.foldl_append

theorem listeners_enter (tables : ListenerTables) (enlistment : Enlistment) (publisher : Nat)
    (kind : EventKind) :
    ((tables.enter enlistment).tableOf publisher).listeners kind =
      if publisher = enlistment.publisher ∧ kind ∈ enlistment.kinds then
        ListenerTable.enlist ((tables.tableOf publisher).listeners kind) enlistment.listener
      else (tables.tableOf publisher).listeners kind := by
  rw [tableOf, enter, OrderedMap.find?_set]
  by_cases same : publisher = enlistment.publisher
  · subst same
    simp only [if_true, Option.getD_some, ListenerTable.listeners_registerAll, true_and]
  · simp [same, tableOf]

theorem mem_enterAll {tables : ListenerTables} {publisher : Nat} {kind : EventKind}
    {listener : Listener} (member : listener ∈ (tables.tableOf publisher).listeners kind)
    (enlistments : List Enlistment) :
    listener ∈ ((tables.enterAll enlistments).tableOf publisher).listeners kind := by
  induction enlistments generalizing tables with
  | nil => exact member
  | cons first rest induction =>
      apply induction
      rw [listeners_enter]
      split
      · exact (ListenerTable.prefix_enlist _ _).subset member
      · exact member

theorem mem_enterAll_of_mem {tables : ListenerTables} {enlistments : List Enlistment}
    {enlistment : Enlistment} (member : enlistment ∈ enlistments) {kind : EventKind}
    (concerned : kind ∈ enlistment.kinds) :
    enlistment.listener ∈
      ((tables.enterAll enlistments).tableOf enlistment.publisher).listeners kind := by
  induction enlistments generalizing tables with
  | nil => cases member
  | cons first rest induction =>
      rcases List.mem_cons.mp member with equal | member
      · subst equal
        have listed : enlistment.listener ∈
            ((tables.enter enlistment).tableOf enlistment.publisher).listeners kind := by
          rw [listeners_enter, if_pos ⟨rfl, concerned⟩]
          exact ListenerTable.mem_enlist _ _
        exact mem_enterAll listed rest
      · exact induction member

theorem nodup_enterAll {tables : ListenerTables} {publisher : Nat} {kind : EventKind}
    (distinct : ((tables.tableOf publisher).listeners kind).Nodup)
    (enlistments : List Enlistment) :
    (((tables.enterAll enlistments).tableOf publisher).listeners kind).Nodup := by
  induction enlistments generalizing tables with
  | nil => exact distinct
  | cons first rest induction =>
      apply induction
      rw [listeners_enter]
      split
      · exact ListenerTable.nodup_enlist distinct _
      · exact distinct

end ListenerTables

namespace Action

/-- The action makes these registrations and leaves the tables as they are otherwise. -/
def Enlists (action : Action σ α) (enlistments : World σ → List Enlistment) : Prop :=
  ∀ world, (action.after world).tables = ListenerTables.enterAll world.tables (enlistments world)

def enlistmentsThen (first : World σ → List Enlistment) (action : Action σ α)
    (rest : α → World σ → List Enlistment) (world : World σ) : List Enlistment :=
  first world ++
    match action world with
    | .ok value after => rest value after
    | .error _ _ => []

theorem enlists_of_tables {action : Action σ α}
    (same : ∀ world, (action.after world).tables = world.tables) : action.Enlists fun _ => [] :=
  same

theorem Enlists.bind {action : Action σ α} {next : α → Action σ β}
    {first : World σ → List Enlistment} {rest : α → World σ → List Enlistment}
    (begun : action.Enlists first) (ended : ∀ value, (next value).Enlists (rest value)) :
    (action >>= next).Enlists (enlistmentsThen first action rest) := by
  intro world
  have earlier := begun world
  rw [enlistmentsThen, ListenerTables.enterAll_append, ← earlier]
  simp only [after, bind_apply]
  cases action world with
  | error failure middle => rfl
  | ok value middle => exact ended value middle

/-- Handling a failure registers nobody, so what was registered before it counts. -/
theorem Enlists.tryCatch {action : Action σ α} {handle : Failure → Action σ α}
    {enlistments : World σ → List Enlistment} (begun : action.Enlists enlistments)
    (handled : ∀ failure world, ((handle failure).after world).tables = world.tables) :
    (tryCatch action handle).Enlists enlistments := by
  intro world
  rw [← begun world]
  simp only [after, tryCatch_apply]
  cases action world with
  | ok value middle => rfl
  | error failure middle => exact handled failure middle

theorem enlists_cancel (call : Nat) : (cancel call : Action σ Unit).Enlists fun _ => [] := by
  apply enlists_of_tables
  intro world
  have cancelled : (cancel call : Action σ Unit) world =
      if ((world.changeProgress call .cancel).progressOf call).stranded then
        (fail .runtime "Event loop is closed" : Action σ Unit) (world.changeProgress call .cancel)
      else .ok () (world.changeProgress call .cancel) := by
    simp only [cancel, bind_apply, changeProgress_apply, progressOf_apply]
    split <;> rfl
  rw [after, cancelled]
  split <;> rfl

end Action

open Reattempt.Action

namespace Behaviour

/-- The registrations made in carrying out a behaviour, given how events are delivered and
which registrations that brings. -/
def enlistments (deliver : Nat → Event → Action σ Unit)
    (nested : Nat → Event → World σ → List Enlistment) :
    Behaviour σ α → World σ → List Enlistment
  | .answer _, _ => []
  | .raise _, _ => []
  | .look next, world =>
      (next world.toSituation world.memory).enlistments deliver nested world
  | .remember memory next, world => next.enlistments deliver nested { world with memory }
  | .cancel call next, world =>
      enlistmentsThen (fun _ => []) (Action.cancel call)
        (fun _ => next.enlistments deliver nested) world
  | .listen publisher kinds listener next, world =>
      { publisher, kinds, listener } ::
        next.enlistments deliver nested (world.register publisher kinds listener)
  | .publish publisher event next, world =>
      enlistmentsThen (nested publisher event) (deliver publisher event)
        (fun _ => next.enlistments deliver nested) world
  | .note remark next, world =>
      next.enlistments deliver nested (world.observe (.remarked remark))

theorem enlists_perform {deliver : Nat → Event → Action σ Unit}
    {nested : Nat → Event → World σ → List Enlistment}
    (delivers : ∀ publisher event, (deliver publisher event).Enlists (nested publisher event))
    (behaviour : Behaviour σ α) :
    (behaviour.perform deliver).Enlists (behaviour.enlistments deliver nested) := by
  induction behaviour with
  | answer value => exact fun _ => rfl
  | raise failure => exact fun _ => rfl
  | look next induction => exact fun world => induction _ _ world
  | remember memory next induction => exact fun world => induction { world with memory }
  | cancel call next induction => exact (enlists_cancel call).bind fun _ => induction
  | listen publisher kinds listener next induction =>
      exact fun world => induction (world.register publisher kinds listener)
  | publish publisher event next induction =>
      exact (delivers publisher event).bind fun _ => induction
  | note remark next induction => exact fun world => induction (world.observe (.remarked remark))

end Behaviour

namespace Environment

variable (environment : Environment σ)

def enlistmentsBy (deliver : Nat → Event → Action σ Unit)
    (nested : Nat → Event → World σ → List Enlistment) (publisher : Nat) (event : Event)
    (listener : Listener) (world : World σ) : List Enlistment :=
  (environment.listener publisher listener event).enlistments deliver nested
    (world.observe (.delivered publisher listener event world.links))

def enlistmentsAmong (deliver : Nat → Event → Action σ Unit)
    (nested : Nat → Event → World σ → List Enlistment) (publisher : Nat) (event : Event)
    (kind : EventKind) : List Listener → World σ → List Enlistment
  | [] => fun _ => []
  | listener :: rest =>
      enlistmentsThen (environment.enlistmentsBy deliver nested publisher event listener)
        (environment.notify deliver publisher event kind listener)
        fun _ => enlistmentsAmong deliver nested publisher event kind rest

def enlistmentsWithin : (depth publisher : Nat) → Event → World σ → List Enlistment
  | 0, _, _, _ => []
  | depth + 1, publisher, event, world =>
      match event.kind? with
      | none => []
      | some kind =>
          environment.enlistmentsAmong (environment.deliverWithin depth)
            (enlistmentsWithin depth) publisher event kind
            ((world.listenersOf publisher).listeners kind) world

variable {deliver : Nat → Event → Action σ Unit}
  {nested : Nat → Event → World σ → List Enlistment}
  (delivers : ∀ publisher event, (deliver publisher event).Enlists (nested publisher event))

include delivers

theorem enlists_notify (publisher : Nat) (event : Event) (kind : EventKind)
    (listener : Listener) :
    (environment.notify deliver publisher event kind listener).Enlists
      (environment.enlistmentsBy deliver nested publisher event listener) := by
  intro world
  refine Enlists.tryCatch (Behaviour.enlists_perform delivers _) ?_
    (world.observe (.delivered publisher listener event world.links))
  intro failure world
  split
  · cases failure.text <;> rfl
  · rfl

theorem enlists_notifyAll (publisher : Nat) (event : Event) (kind : EventKind)
    (listeners : List Listener) :
    (listeners.forM (environment.notify deliver publisher event kind)).Enlists
      (environment.enlistmentsAmong deliver nested publisher event kind listeners) := by
  induction listeners with
  | nil => exact fun _ => rfl
  | cons listener rest induction =>
      exact (environment.enlists_notify delivers publisher event kind listener).bind
        fun _ => induction

omit delivers

theorem deliverWithin_succ_apply (depth publisher : Nat) {event : Event} {kind : EventKind}
    (known : event.kind? = some kind) (world : World σ) :
    environment.deliverWithin (depth + 1) publisher event world =
      ((world.listenersOf publisher).listeners kind).forM
        (environment.notify (environment.deliverWithin depth) publisher event kind) world := by
  simp only [deliverWithin, known]
  rfl

theorem enlists_deliverWithin (depth publisher : Nat) (event : Event) :
    (environment.deliverWithin depth publisher event).Enlists
      (environment.enlistmentsWithin depth publisher event) := by
  induction depth generalizing publisher event with
  | zero => exact fun _ => rfl
  | succ depth induction =>
      intro world
      cases known : event.kind? with
      | none =>
          simp only [deliverWithin, enlistmentsWithin, known]
          rfl
      | some kind =>
          rw [after_congr (environment.deliverWithin_succ_apply depth publisher known world)]
          simp only [enlistmentsWithin, known]
          exact environment.enlists_notifyAll induction publisher event kind _ world

end Environment

end Reattempt
