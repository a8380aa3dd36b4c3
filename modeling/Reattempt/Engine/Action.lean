import Reattempt.Engine.Behaviour

/-! Actions of the engine: they change the world and end with a result or a failure.
A failure keeps all changes made so far. -/

namespace Reattempt

abbrev Action (σ : Type) (α : Type) : Type :=
  EStateM Failure (World σ) α

namespace Action

variable {σ α : Type}

def observe (observation : Observation) : Action σ Unit :=
  modify (World.observe observation)

def step (call : Nat) (step : CallStep) : Action σ Unit :=
  observe (.ofCall call step)

def log (level : LogLevel) (source : LogSource) (message : String)
    (fields : List (String × Value) := []) : Action σ Unit :=
  observe (.logged { level, source, message, fields })

def progressOf (call : Nat) : Action σ Progress := do
  return (← get).progressOf call

def changeProgress (call : Nat) (change : Progress → Progress) : Action σ Unit :=
  modify (World.changeProgress call change)

def changeCounters (policy : Nat) (change : Counters → Counters) : Action σ Unit :=
  modify (World.changeCounters policy change)

def newIdentity : Action σ Identity :=
  modifyGet fun world => (.made world.failures, { world with failures := world.failures + 1 })

def fail (type : FailureType) (message : String) : Action σ α := do
  throw (.ofMessage (← newIdentity) type message)

/-- Raise a failure. A missing one cannot be raised, which is a failure as well. -/
def raise : Option Failure → Action σ α
  | some failure => throw failure
  | none => fail .type Failure.missingMessage

def calculate (result : Except ArithmeticFault α) : Action σ α := do
  match result with
  | .ok value => pure value
  | .error fault => throw (fault.toFailure (← newIdentity))

/-- Write a text. What is raised in its place is a new failure. -/
def write (wording : Wording) : Action σ String := do
  match wording with
  | .ok text => pure text
  | .error refusal => throw (refusal.toFailure (← newIdentity))

/-- Carry out the body of a coroutine. The end of an iteration cannot be raised out of
it. -/
def inCoroutine (body : Action σ α) : Action σ α := do
  try body
  catch failure =>
    if failure.isA .stopIteration then throw (.ofCoroutine (← newIdentity) failure)
    else throw failure

/-- Ask for the current or the next wait of a call to be interrupted. A call whose
wait was left behind cannot be woken, but it counts as cancelled all the same. -/
def cancel (call : Nat) : Action σ Unit := do
  changeProgress call .cancel
  if (← progressOf call).stranded then fail .runtime "Event loop is closed"

end Action

end Reattempt
