import Reattempt.Counters
import Reattempt.Listeners
import Reattempt.Log.Level
import Reattempt.Progress

/-! What exists while calls are retried. Policies and calls are handles with fixed
contents; all that changes is kept in a world under the numbers of these handles,
together with what can be observed of a run and the memory of the caller's own code.
-/

namespace Reattempt

structure Policy where
  number : Nat
  name : String
  shared : SharedConfig
  /-- The publisher of the policy's events. -/
  publisher : Nat
  /-- Whether blocking waits use a sleep function of the caller. -/
  sleeps : Bool
  deriving Repr

def Policy.config (policy : Policy) : Config :=
  policy.shared.config

def Policy.shown (policy : Policy) : String :=
  s!"Retry(name={quoted policy.name}, config={policy.config.shown})"

structure Call where
  number : Nat
  policy : Policy
  deriving Repr

def Progress.shown (progress : Progress) (policy : Policy) : String :=
  s!"RetryContext(name={quoted policy.name}, attempt_count={progress.attempts}, " ++
    s!"state={progress.phase.name})"

/-- How a call waits: on a signal that a cancellation sets, in a sleep function of
the caller, or suspended as a task. -/
inductive WaitKind where
  | blocking
  | sleeping
  | suspended
  deriving DecidableEq, Repr

inductive LogSource where
  | policy
  | call
  | publisher
  | registry
  deriving DecidableEq, Repr

def LogSource.name : LogSource → String
  | .policy => "aretry.retry"
  | .call => "aretry.context"
  | .publisher => "aretry.publisher"
  | .registry => "aretry.registry"

structure LogEntry where
  level : LogLevel
  source : LogSource
  message : String
  fields : List (String × Value)
  deriving Repr

structure Arguments where
  positional : List Value := []
  keyword : List (String × Value) := []
  deriving Repr

/-- What happens in one call, in the order in which it happens. A wait is skipped
when the call was cancelled before it, and it is over when nothing interrupted it.
-/
inductive CallStep where
  | attempted (arguments : Arguments)
  | classified (failure : Option Failure) (retryable : Bool)
  | intervalAsked (attempt : Nat)
  | announced (event : Event)
  | waitSkipped (kind : WaitKind) (interval : Scalar)
  | waitBegun (kind : WaitKind) (interval : Scalar)
  | waitOver (kind : WaitKind) (interval : Scalar)
  deriving Repr

/-- What the caller's code writes into the trace by itself. -/
inductive Remark where
  | phase (phase : Phase)
  | counters (counters : Counters)
  deriving Repr

/-- A step of a run that can be seen from outside. A delivery records the causes of
failures as they are at that moment. -/
inductive Observation where
  | ofCall (call : Nat) (step : CallStep)
  | drawn (low high : Scalar)
  | delivered (publisher : Nat) (listener : Listener) (event : Event) (links : CauseLinks)
  | logged (entry : LogEntry)
  | remarked (remark : Remark)
  deriving Repr

/-- The state that the caller's code may look at. -/
structure Situation where
  progress : OrderedMap Nat Progress := .empty
  counters : OrderedMap Nat Counters := .empty
  /-- The number of calls opened so far; it is also the number of the next one. -/
  calls : Nat := 0

/-- Everything that changes. Fresh policies, publishers, configurations and failure
objects are numbered in the order of their creation. -/
structure World (σ : Type) extends Situation where
  tables : OrderedMap Nat ListenerTable := .empty
  links : CauseLinks := .empty
  policies : Nat := 0
  publishers : Nat := 0
  configs : Nat := 0
  failures : Nat := 0
  /-- What has been observed, the latest first, so that a long run does not slow down
  the observations at its end. -/
  observed : List Observation := []
  memory : σ

namespace Situation

def progressOf (situation : Situation) (call : Nat) : Progress :=
  (situation.progress.find? call).getD .fresh

def countersOf (situation : Situation) (policy : Nat) : Counters :=
  (situation.counters.find? policy).getD {}

end Situation

namespace World

variable {σ : Type}

def listenersOf (world : World σ) (publisher : Nat) : ListenerTable :=
  (world.tables.find? publisher).getD .empty

def trace (world : World σ) : List Observation :=
  world.observed.reverse

def observe (observation : Observation) (world : World σ) : World σ :=
  { world with observed := observation :: world.observed }

def clearTrace (world : World σ) : World σ :=
  { world with observed := [] }

def changeProgress (call : Nat) (change : Progress → Progress) (world : World σ) : World σ :=
  { world with progress := world.progress.set call (change (world.progressOf call)) }

def changeCounters (policy : Nat) (change : Counters → Counters) (world : World σ) : World σ :=
  { world with counters := world.counters.set policy (change (world.countersOf policy)) }

def register (publisher : Nat) (kinds : List EventKind) (listener : Listener) (world : World σ) :
    World σ :=
  { world with
    tables :=
      world.tables.set publisher ((world.listenersOf publisher).registerAll kinds listener) }

def link (failure cause : Failure) (world : World σ) : World σ :=
  { world with links := world.links.set failure.identity cause }

/-! ## What a change touches -/

@[simp] theorem trace_observe (observation : Observation) (world : World σ) :
    (world.observe observation).trace = world.trace ++ [observation] :=
  List.reverse_cons

@[simp] theorem progressOf_changeProgress_self (call : Nat) (change : Progress → Progress)
    (world : World σ) :
    (world.changeProgress call change).progressOf call = change (world.progressOf call) := by
  simp [changeProgress, Situation.progressOf]

@[simp] theorem progressOf_changeProgress_of_ne {call other : Nat} (different : other ≠ call)
    (change : Progress → Progress) (world : World σ) :
    (world.changeProgress call change).progressOf other = world.progressOf other := by
  simp [changeProgress, Situation.progressOf, different]

@[simp] theorem countersOf_changeCounters_self (policy : Nat) (change : Counters → Counters)
    (world : World σ) :
    (world.changeCounters policy change).countersOf policy = change (world.countersOf policy) := by
  simp [changeCounters, Situation.countersOf]

@[simp] theorem listenersOf_register_self (publisher : Nat) (kinds : List EventKind)
    (listener : Listener) (world : World σ) :
    (world.register publisher kinds listener).listenersOf publisher =
      (world.listenersOf publisher).registerAll kinds listener := by
  simp [register, listenersOf]

end World

end Reattempt
