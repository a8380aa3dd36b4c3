import Reattempt.Event

/-! Who listens to what. Every kind of event has its own listeners, in the order of
their first registration and without repetition. -/

namespace Reattempt

abbrev Listener := String

structure ListenerTable where
  success : List Listener := []
  retry : List Listener := []
  error : List Listener := []
  ignoredError : List Listener := []
  deriving DecidableEq, Repr

namespace ListenerTable

def empty : ListenerTable := {}

instance : Inhabited ListenerTable := ⟨empty⟩

def listeners (table : ListenerTable) : EventKind → List Listener
  | .success => table.success
  | .retry => table.retry
  | .error => table.error
  | .ignoredError => table.ignoredError

def put (table : ListenerTable) (listeners : List Listener) : EventKind → ListenerTable
  | .success => { table with success := listeners }
  | .retry => { table with retry := listeners }
  | .error => { table with error := listeners }
  | .ignoredError => { table with ignoredError := listeners }

/-- Add a listener at the end, unless it is listed already. -/
def enlist (listeners : List Listener) (listener : Listener) : List Listener :=
  if listener ∈ listeners then listeners else listeners ++ [listener]

def register (table : ListenerTable) (kind : EventKind) (listener : Listener) : ListenerTable :=
  table.put (enlist (table.listeners kind) listener) kind

def registerAll (table : ListenerTable) (kinds : List EventKind) (listener : Listener) :
    ListenerTable :=
  kinds.foldl (fun table kind => table.register kind listener) table

/-- Whether anybody listens to the kind, or to anything if no kind is given. -/
def hasListeners (table : ListenerTable) : Option EventKind → Bool
  | some kind => !(table.listeners kind).isEmpty
  | none => EventKind.all.any fun kind => !(table.listeners kind).isEmpty

example : (((empty.register .retry "log").registerAll EventKind.all "audit").register
    .retry "log").listeners .retry = ["log", "audit"] := by decide

theorem listeners_put (table : ListenerTable) (listeners : List Listener) (kind other : EventKind) :
    (table.put listeners kind).listeners other =
      if other = kind then listeners else table.listeners other := by
  cases kind <;> cases other <;> rfl

theorem listeners_register (table : ListenerTable) (kind other : EventKind) (listener : Listener) :
    (table.register kind listener).listeners other =
      if other = kind then enlist (table.listeners kind) listener else table.listeners other :=
  listeners_put table _ kind other

end ListenerTable

end Reattempt
