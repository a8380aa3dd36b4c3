import Mathlib.Data.List.Induction
import Mathlib.Data.List.Nodup
import Reattempt.Proofs.Effect

/-! What a table of listeners says about the registrations that it comes from. Each kind of
events sees only the registrations for this kind, and of these only the first one of every
listener. -/

namespace Reattempt

variable {σ : Type}

inductive Registration where
  | forKind (kind : EventKind) (listener : Listener)
  | forAll (listener : Listener)
  deriving DecidableEq, Repr

namespace Registration

def kinds : Registration → List EventKind
  | .forKind kind _ => [kind]
  | .forAll _ => EventKind.all

def listener : Registration → Listener
  | .forKind _ listener | .forAll listener => listener

private theorem kinds_ne_nil (registration : Registration) : registration.kinds ≠ [] := by
  cases registration <;> simp [kinds, EventKind.all]

def listenersFor (kind : EventKind) (registrations : List Registration) : List Listener :=
  (registrations.filter fun registration => kind ∈ registration.kinds).map listener

private theorem listenersFor_append (kind : EventKind) (earlier later : List Registration) :
    listenersFor kind (earlier ++ later) = listenersFor kind earlier ++ listenersFor kind later := by
  rw [listenersFor, List.filter_append, List.map_append]
  rfl

private theorem listenersFor_singleton (kind : EventKind) (registration : Registration) :
    listenersFor kind [registration] =
      if kind ∈ registration.kinds then [registration.listener] else [] := by
  by_cases concerned : kind ∈ registration.kinds <;> simp [listenersFor, concerned]

theorem listenersFor_ne_nil {kind : EventKind} {registrations : List Registration} :
    listenersFor kind registrations ≠ [] ↔
      ∃ registration ∈ registrations, kind ∈ registration.kinds := by
  simp [listenersFor]

theorem mem_listenersFor {kind : EventKind} {registration : Registration}
    {registrations : List Registration} (member : registration ∈ registrations)
    (concerned : kind ∈ registration.kinds) :
    registration.listener ∈ listenersFor kind registrations :=
  List.mem_map_of_mem (List.mem_filter.mpr ⟨member, by simpa using concerned⟩)

end Registration

namespace ListenerTable

theorem ext_listeners {table other : ListenerTable}
    (same : ∀ kind, table.listeners kind = other.listeners kind) : table = other := by
  cases table
  cases other
  have success := same .success
  have retry := same .retry
  have error := same .error
  have ignoredError := same .ignoredError
  simp only [listeners] at success retry error ignoredError
  rw [success, retry, error, ignoredError]

@[simp] theorem listeners_empty (kind : EventKind) : empty.listeners kind = [] := by
  cases kind <;> rfl

/-! ## First registrations -/

theorem mem_enlist (listeners : List Listener) (listener : Listener) :
    listener ∈ enlist listeners listener := by
  rw [enlist]
  split
  · assumption
  · exact List.mem_append_right _ (List.mem_singleton_self listener)

theorem enlist_of_mem {listeners : List Listener} {listener : Listener}
    (member : listener ∈ listeners) : enlist listeners listener = listeners :=
  if_pos member

private theorem enlist_eraseDups (listeners : List Listener) (listener : Listener) :
    enlist listeners.eraseDups listener = (listeners ++ [listener]).eraseDups := by
  rw [enlist, List.eraseDups_append, List.cons_removeAll, List.nil_removeAll]
  simp only [List.mem_eraseDups, List.contains_eq_mem, decide_eq_false_iff_not]
  by_cases member : listener ∈ listeners <;> simp [member, List.eraseDups_cons]

theorem nodup_enlist {listeners : List Listener} (distinct : listeners.Nodup)
    (listener : Listener) : (enlist listeners listener).Nodup := by
  rw [enlist]
  split
  · exact distinct
  · next absent =>
      rw [← List.concat_eq_append]
      exact List.Nodup.concat absent distinct

private theorem pairwise_eraseDups (listeners : List Listener) :
    listeners.eraseDups.Pairwise fun first second =>
      listeners.idxOf first < listeners.idxOf second := by
  induction listeners using List.reverseRecOn with
  | nil => exact .nil
  | append_singleton earlier last induction =>
      have kept : earlier.eraseDups.Pairwise fun first second =>
          (earlier ++ [last]).idxOf first < (earlier ++ [last]).idxOf second := by
        refine induction.imp_of_mem fun firstMember secondMember sorted => ?_
        rw [List.mem_eraseDups] at firstMember secondMember
        rwa [List.idxOf_append_of_mem firstMember, List.idxOf_append_of_mem secondMember]
      rw [← enlist_eraseDups, enlist]
      split
      · exact kept
      · next absent =>
          rw [List.mem_eraseDups] at absent
          refine List.pairwise_append.mpr ⟨kept, List.pairwise_singleton _ _, ?_⟩
          intro first member other equal
          rw [List.mem_singleton] at equal
          rw [List.mem_eraseDups] at member
          rw [equal, List.idxOf_append_of_mem member, List.idxOf_append_of_notMem absent]
          exact Nat.lt_add_right _ (List.idxOf_lt_length_of_mem member)

private theorem nodup_eraseDups (listeners : List Listener) : listeners.eraseDups.Nodup :=
  (pairwise_eraseDups listeners).imp fun before equal => by
    rw [equal] at before
    exact Nat.lt_irrefl _ before

private theorem eraseDups_ne_nil {listeners : List Listener} :
    listeners.eraseDups ≠ [] ↔ listeners ≠ [] := by
  cases listeners with
  | nil => rfl
  | cons first rest => simp [List.eraseDups_cons]

/-! ## Registrations -/

theorem listeners_registerAll (table : ListenerTable) (kinds : List EventKind)
    (listener : Listener) (kind : EventKind) :
    (table.registerAll kinds listener).listeners kind =
      if kind ∈ kinds then enlist (table.listeners kind) listener else table.listeners kind := by
  induction kinds generalizing table with
  | nil => rfl
  | cons first rest induction =>
      refine (induction (table.register first listener)).trans ?_
      rw [listeners_register]
      by_cases equal : kind = first
      · subst equal
        simp [enlist_of_mem (mem_enlist _ _)]
      · simp [equal]

def enroll (table : ListenerTable) (registrations : List Registration) : ListenerTable :=
  registrations.foldl
    (fun table registration => table.registerAll registration.kinds registration.listener) table

theorem enroll_append (table : ListenerTable) (earlier later : List Registration) :
    table.enroll (earlier ++ later) = (table.enroll earlier).enroll later :=
  List.foldl_append

/-- Every listener of a kind is listed where it was registered first. -/
theorem listeners_enroll (registrations : List Registration) (kind : EventKind) :
    (empty.enroll registrations).listeners kind =
      (Registration.listenersFor kind registrations).eraseDups := by
  induction registrations using List.reverseRecOn with
  | nil => exact listeners_empty kind
  | append_singleton earlier last induction =>
      rw [enroll_append, Registration.listenersFor_append, Registration.listenersFor_singleton]
      refine (listeners_registerAll _ last.kinds last.listener kind).trans ?_
      rw [induction]
      split
      · exact enlist_eraseDups _ _
      · rw [List.append_nil]

theorem hasListeners_some {table : ListenerTable} {kind : EventKind} :
    table.hasListeners (some kind) = true ↔ table.listeners kind ≠ [] := by
  simp [hasListeners]

theorem hasListeners_none {table : ListenerTable} :
    table.hasListeners none = true ↔ ∃ kind, table.hasListeners (some kind) = true := by
  simp [hasListeners, EventKind.mem_all]

end ListenerTable

namespace World

def enroll (publisher : Nat) (registrations : List Registration) (world : World σ) : World σ :=
  registrations.foldl
    (fun world registration =>
      world.register publisher registration.kinds registration.listener) world

theorem listenersOf_enroll (publisher : Nat) (registrations : List Registration)
    (world : World σ) :
    (world.enroll publisher registrations).listenersOf publisher =
      (world.listenersOf publisher).enroll registrations := by
  induction registrations generalizing world with
  | nil => rfl
  | cons first rest induction =>
      refine (induction (world.register publisher first.kinds first.listener)).trans ?_
      rw [listenersOf_register_self]
      rfl

end World

theorem Action.newPublisher_apply (world : World σ) :
    ∃ fresh, (Action.newPublisher : Action σ Nat) world = .ok world.publishers fresh ∧
      fresh.listenersOf world.publishers = .empty :=
  ⟨_, rfl, by simp [World.listenersOf]⟩

/-! ## The table as a whole -/

open Registration in
/-- What the table of a publisher has to do with the registrations so far. -/
structure Tabulates (tableAfter : List Registration → ListenerTable) : Prop where
  /-- The listeners of a kind are those registered for it, each in its first place. -/
  listed : ∀ registrations kind, (tableAfter registrations).listeners kind =
    (listenersFor kind registrations).eraseDups
  distinct : ∀ registrations kind, ((tableAfter registrations).listeners kind).Nodup
  ordered : ∀ registrations kind, ((tableAfter registrations).listeners kind).Pairwise
    fun first second => (listenersFor kind registrations).idxOf first <
      (listenersFor kind registrations).idxOf second
  /-- A registration for all kinds is one for each of them. -/
  forEach : ∀ registrations listener kind,
    (tableAfter (registrations ++ [.forAll listener])).listeners kind =
      (tableAfter (registrations ++ [.forKind kind listener])).listeners kind
  /-- A registration for one kind leaves the others alone. -/
  others : ∀ registrations {kind other}, other ≠ kind → ∀ listener,
    (tableAfter (registrations ++ [.forKind kind listener])).listeners other =
      (tableAfter registrations).listeners other
  separate : ∀ {first second}, (∀ kind, listenersFor kind first = listenersFor kind second) →
    tableAfter first = tableAfter second
  /-- Nothing changes if every kind that is concerned has the listener already. -/
  covered : ∀ {registrations registration},
    (∀ kind ∈ registration.kinds, registration.listener ∈ listenersFor kind registrations) →
      tableAfter (registrations ++ [registration]) = tableAfter registrations
  repeated : ∀ {registrations registration}, registration ∈ registrations →
    tableAfter (registrations ++ [registration]) = tableAfter registrations
  hasListeners : ∀ registrations kind,
    (tableAfter registrations).hasListeners (some kind) = true ↔
      ∃ registration ∈ registrations, kind ∈ registration.kinds
  hasAnyListeners : ∀ registrations,
    (tableAfter registrations).hasListeners none = true ↔ registrations ≠ []

namespace ListenerTable

open Registration

section Listed

variable {tableAfter : List Registration → ListenerTable}
  (listed : ∀ registrations kind, (tableAfter registrations).listeners kind =
    (listenersFor kind registrations).eraseDups)

include listed

theorem separate_of_listed {first second : List Registration}
    (same : ∀ kind, (listenersFor kind first).eraseDups = (listenersFor kind second).eraseDups) :
    tableAfter first = tableAfter second := by
  apply ext_listeners
  intro kind
  rw [listed, listed, same]

theorem covered_of_listed {registrations : List Registration} {registration : Registration}
    (listening : ∀ kind ∈ registration.kinds,
      registration.listener ∈ listenersFor kind registrations) :
    tableAfter (registrations ++ [registration]) = tableAfter registrations := by
  apply separate_of_listed listed
  intro kind
  rw [listenersFor_append, listenersFor_singleton]
  split
  · next concerned =>
      rw [← enlist_eraseDups]
      exact enlist_of_mem (List.mem_eraseDups.mpr (listening kind concerned))
  · rw [List.append_nil]

theorem hasListeners_of_listed (registrations : List Registration) (kind : EventKind) :
    (tableAfter registrations).hasListeners (some kind) = true ↔
      ∃ registration ∈ registrations, kind ∈ registration.kinds := by
  rw [hasListeners_some, listed, eraseDups_ne_nil, listenersFor_ne_nil]

theorem hasAnyListeners_of_listed (registrations : List Registration) :
    (tableAfter registrations).hasListeners none = true ↔ registrations ≠ [] := by
  rw [hasListeners_none]
  constructor
  · rintro ⟨kind, somebody⟩
    rcases (hasListeners_of_listed listed registrations kind).mp somebody with
      ⟨registration, member, -⟩
    exact List.ne_nil_of_mem member
  · intro something
    rcases List.exists_mem_of_ne_nil _ something with ⟨registration, member⟩
    rcases List.exists_mem_of_ne_nil _ registration.kinds_ne_nil with ⟨kind, concerned⟩
    exact ⟨kind, (hasListeners_of_listed listed registrations kind).mpr
      ⟨registration, member, concerned⟩⟩

/-- Everything follows from the lists of first registrations. -/
theorem tabulates_of_listed : Tabulates tableAfter where
  listed := listed
  distinct registrations kind := by
    rw [listed]
    exact nodup_eraseDups _
  ordered registrations kind := by
    rw [listed]
    exact pairwise_eraseDups _
  forEach registrations listener kind := by
    have concerned : kind ∈ (Registration.forAll listener).kinds := kind.mem_all
    have singly : kind ∈ (Registration.forKind kind listener).kinds := List.mem_singleton_self kind
    rw [listed, listed, listenersFor_append, listenersFor_append, listenersFor_singleton,
      listenersFor_singleton, if_pos concerned, if_pos singly]
    rfl
  others registrations kind other different listener := by
    have aside : other ∉ (Registration.forKind kind listener).kinds :=
      fun member => different (List.mem_singleton.mp member)
    rw [listed, listed, listenersFor_append, listenersFor_singleton, if_neg aside, List.append_nil]
  separate same := separate_of_listed listed fun kind => congrArg List.eraseDups (same kind)
  covered := covered_of_listed listed
  repeated member :=
    covered_of_listed listed fun _ concerned => mem_listenersFor member concerned
  hasListeners := hasListeners_of_listed listed
  hasAnyListeners := hasAnyListeners_of_listed listed

end Listed

end ListenerTable

/-- The table of a new publisher is a function of the registrations, kind by kind. -/
theorem Action.newPublisher_tabulates (world : World σ) :
    ∃ publisher fresh, (Action.newPublisher : Action σ Nat) world = .ok publisher fresh ∧
      Tabulates fun registrations =>
        (fresh.enroll publisher registrations).listenersOf publisher := by
  rcases newPublisher_apply world with ⟨fresh, creates, nobody⟩
  refine ⟨_, fresh, creates, ListenerTable.tabulates_of_listed fun registrations kind => ?_⟩
  rw [World.listenersOf_enroll, nobody]
  exact ListenerTable.listeners_enroll registrations kind

end Reattempt
