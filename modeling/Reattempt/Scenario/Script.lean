import Reattempt.Engine.Registry
import Reattempt.Number.Reading

/-! Scripts for the code around the engine. A scenario says in advance how
operations end, what happens during waits, how listeners react and which numbers are
drawn, and it names what the scripts refer to. -/

namespace Reattempt

/-! ## Answers

Where an answer holds a text that was refused, it holds what the refusal says. -/

namespace Wording

def answer : Wording → String
  | .ok text => text
  | .error refusal => refusal.message

instance : Coe Wording String := ⟨answer⟩

instance : Coe String Wording := ⟨.ok⟩

end Wording

def Value.toJson (value : Value) : Json :=
  match value.encode with
  | .ok json => json
  | .error refusal => .text refusal.message

/-! ## Scripts -/

/-- How to come by a failure: none at all, a stored object, or a new one for every
use. The name of a type may be unknown. -/
inductive FailureScript where
  | missing
  | stored (name : String)
  | unknownType (name : String)
  | fresh (type : FailureType) (content : FailureContent) (cause : FailureScript)
  deriving Repr

instance : Inhabited FailureScript := ⟨.missing⟩

inductive CallName where
  | latest
  | named (name : String)
  deriving DecidableEq, Repr

def CallName.shown : CallName → String
  | .latest => "$last"
  | .named name => name

inductive Ending where
  | raises (failure : FailureScript)
  | answers (value : Value)
  | echoes
  deriving Repr

/-- An outcome may cancel a call before the operation ends. -/
structure Outcome where
  cancel : Option CallName := none
  ending : Ending
  deriving Repr

/-- What happens during a wait, in this order. The task that waits can only be
cancelled where there is one. -/
structure WaitScript where
  cancel : Option CallName := none
  raises : Option FailureScript := none
  cancelTask : Bool := false
  deriving Repr

/-- Kinds of events, or a value that stands for none. -/
inductive KindSelection where
  | known (kinds : List EventKind)
  | unknown (value : Value)
  deriving Repr

def KindSelection.message (value : Value) : Wording := do
  return s!"{← value.shown} is not a valid RetryEventType"

/-- A field of an event. The wait is a number that may be refused when it is read. -/
inductive FieldScript where
  | lastFailure (failure : FailureScript)
  | waitInterval (interval : Except ReadingFault Scalar)
  | plain (field : Event.Field)
  deriving Repr

structure EventScript where
  kind? : Option EventKind
  fields : List FieldScript
  created : Except MomentError Moment

inductive Reaction where
  | nothing
  | raises (failure : FailureScript)
  | cancels (call : CallName)
  | listens (kinds : KindSelection) (listener : Listener)
  | showsPhase (call : CallName)
  | showsCounters (policy : String)
  | publishes (event : EventScript)

/-- An interval function of the caller: the square of the attempt's number, a table
whose last value goes on for ever, or a function that always raises the same
failure. -/
inductive IntervalScript where
  | square
  | table (values : List Scalar)
  | raises (failure : Option Failure)
  deriving Repr

inductive PredicateScript where
  | contains (text : String)
  | answers (value : Value)
  | raises (failure : FailureScript)
  deriving Repr

/-- The scripts that are left, and the objects that they refer to by name. -/
structure Scenario where
  reactions : OrderedMap Listener Reaction := .empty
  waits : List (Option WaitScript) := []
  draws : List Float := []
  /-- The outcomes of every operation, each with the number of times it is left. -/
  outcomes : OrderedMap Nat (List (Outcome × Nat)) := .empty
  intervals : List IntervalScript := []
  predicates : List PredicateScript := []
  failures : OrderedMap String (Option Failure) := .empty
  calls : OrderedMap String Nat := .empty
  policies : OrderedMap String Policy := .empty
  /-- The number of failure objects given so far. -/
  given : Nat := 0

namespace Scenario

instance : Inhabited Scenario := ⟨{}⟩

abbrev Change (α : Type) : Type :=
  EStateM Failure Scenario α

def newIdentity : Change Identity :=
  modifyGet fun scenario => (.given scenario.given, { scenario with given := scenario.given + 1 })

def fail {α : Type} (type : FailureType) (message : String) : Change α := do
  throw (.ofMessage (← newIdentity) type message)

def calculate {α : Type} (result : Except ArithmeticFault α) : Change α := do
  match result with
  | .ok value => pure value
  | .error fault => throw (fault.toFailure (← newIdentity))

def write (wording : Wording) : Change String := do
  match wording with
  | .ok text => pure text
  | .error refusal => throw (refusal.toFailure (← newIdentity))

/-- What a name stands for. A name that stands for nothing is a missing key. -/
def named {α : Type} (name : String) : Option α → Change α
  | some value => pure value
  | none => fail .key name

def failure : FailureScript → Change (Option Failure)
  | .missing => pure none
  | .stored name => do named name ((← get).failures.find? name)
  | .unknownType name => fail .key name
  | .fresh type content causeScript => do
      if !content.isWritable then calculate (.error .tooManyDigits)
      let identity ← newIdentity
      let cause ← failure causeScript
      return some { identity, type, content, cause }

def call? (scenario : Scenario) (situation : Situation) : CallName → Option Nat
  | .latest => if situation.calls = 0 then none else some (situation.calls - 1)
  | .named name => scenario.calls.find? name

def nextOutcome : List (Outcome × Nat) → Option Outcome × List (Outcome × Nat)
  | [] => (none, [])
  | (_, 0) :: rest => nextOutcome rest
  | (outcome, times + 1) :: rest => (some outcome, (outcome, times) :: rest)

def outcomesLeft (scenario : Scenario) (operation : Nat) : Nat :=
  (((scenario.outcomes.find? operation).getD []).map Prod.snd).foldl (· + ·) 0

end Scenario

end Reattempt
