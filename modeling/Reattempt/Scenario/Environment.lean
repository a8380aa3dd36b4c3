import Reattempt.Scenario.Script

/-! The environment that a scenario describes. Every script is used up as the engine
calls the code it stands for. -/

namespace Reattempt

namespace Arguments

def toValue (arguments : Arguments) : Value :=
  let named := arguments.keyword.mergeSort fun left right => decide (left.1 ≤ right.1)
  .list [.list arguments.positional,
    .list (named.map fun (name, value) => .list [.text name, value])]

end Arguments

namespace Scenario

variable {α : Type}

def memory : Behaviour Scenario Scenario :=
  .look fun _ scenario => .answer scenario

def remember (scenario : Scenario) : Behaviour Scenario Unit :=
  .remember scenario (.answer ())

def situation : Behaviour Scenario Situation :=
  .look fun situation _ => .answer situation

def tryApply (change : Change α) : Behaviour Scenario (Except Failure α) := do
  match change.run (← memory) with
  | .ok value scenario =>
      remember scenario
      return .ok value
  | .error failure scenario =>
      remember scenario
      return .error failure

def apply (change : Change α) : Behaviour Scenario α := do
  match ← tryApply change with
  | .ok value => return value
  | .error failure => .raise failure

def buildFailure (script : FailureScript) : Behaviour Scenario (Option Failure) :=
  apply (failure script)

def raise : Option Failure → Behaviour Scenario α
  | some failure => .raise failure
  | none => apply (fail .type Failure.missingMessage)

def raiseScript (script : FailureScript) : Behaviour Scenario α := do
  raise (← buildFailure script)

def findCall (name : CallName) : Behaviour Scenario Nat := do
  apply (named name.shown ((← memory).call? (← situation) name))

def findPolicy (name : String) : Behaviour Scenario Policy := do
  apply (named name ((← memory).policies.find? name))

def cancel (name : CallName) : Behaviour Scenario Unit := do
  .cancel (← findCall name) (.answer ())

def cancelIfAny (name? : Option CallName) : Behaviour Scenario Unit :=
  match name? with
  | some name => cancel name
  | none => pure ()

/-! ## Interval functions and predicates -/

def squared (attempt : Int) : Behaviour Scenario Scalar := do
  return .real (← apply (calculate (Scalar.whole (attempt * attempt)).toReal))

/-- The entry of the attempt; the last entry stands for all later attempts. An
attempt before the first one counts from the end. -/
def tabulated (values : List Scalar) (attempt : Int) : Behaviour Scenario Scalar :=
  let index := min attempt values.length - 1
  let position := if index < 0 then index + values.length else index
  match if position < 0 then none else values[position.toNat]? with
  | some value => pure value
  | none => apply (fail .index "list index out of range")

def interval (function : Callable) (attempt : Int) : Behaviour Scenario Scalar := do
  match (← memory).intervals[function.number]? with
  | some .square => squared attempt
  | some (.table values) => tabulated values attempt
  | some (.raises failure) => raise failure
  | none => apply (fail .notImplemented "")

def containsText (text part : List Char) : Bool :=
  match text with
  | [] => part.isEmpty
  | _ :: rest => part.isPrefixOf text || containsText rest part

def predicate (function : Callable) (failure : Option Failure) : Behaviour Scenario Bool := do
  match (← memory).predicates[function.number]? with
  | some (.contains part) => do
      let text ← apply (write (Failure.text? failure))
      pure (containsText text.toList part.toList)
  | some (.answers value) => pure value.isTrue
  | some (.raises script) => raiseScript script
  | none => apply (fail .notImplemented "")

/-- The next draw, or a half when the draws are used up. The bounds are on record, so
they must be short enough to be written. -/
def draw (low high : Scalar) : Behaviour Scenario Float := do
  let _ ← apply (calculate low.written)
  let _ ← apply (calculate high.written)
  let scenario ← memory
  match scenario.draws with
  | [] => pure 0.5
  | value :: rest =>
      remember { scenario with draws := rest }
      return value

/-! ## Listeners -/

def buildField : FieldScript → Behaviour Scenario Event.Field
  | .plain field => pure field
  | .lastFailure script => do
      return .lastFailure (← buildFailure script)
  | .waitInterval (.ok interval) => pure (.waitInterval interval)
  | .waitInterval (.error fault) => apply (fail .value fault.message)

def buildEvent (script : EventScript) : Behaviour Scenario StampedEvent := do
  let fields ← script.fields.mapM buildField
  match script.created with
  | .error error => apply (fail error.failureType error.message)
  | .ok created =>
      match Event.ofFields script.kind? fields with
      | .error error => apply (fail error.failureType error.message)
      | .ok event => return { event, created }

def react (publisher : Nat) : Reaction → Behaviour Scenario Unit
  | .nothing => pure ()
  | .raises script => raiseScript script
  | .cancels call => cancel call
  | .listens (.known kinds) listener => .listen publisher kinds listener (.answer ())
  | .listens (.unknown value) _ => do
      apply (fail .value (← apply (write (KindSelection.message value))))
  | .showsPhase name => do
      let call ← findCall name
      .note (.phase ((← situation).progressOf call).phase) (.answer ())
  | .showsCounters name => do
      let policy ← findPolicy name
      .note (.counters ((← situation).countersOf policy.number)) (.answer ())
  | .publishes script => do
      let stamped ← buildEvent script
      .publish publisher stamped.event (.answer ())

def listener (publisher : Nat) (name : Listener) (_ : Event) : Behaviour Scenario Unit := do
  react publisher (((← memory).reactions.find? name).getD .nothing)

/-! ## Waits and operations -/

def nextWait : Behaviour Scenario WaitScript := do
  let scenario ← memory
  match scenario.waits with
  | [] => pure {}
  | wait :: rest =>
      remember { scenario with waits := rest }
      return wait.getD {}

/-- What happens while a call waits as a task. Its wait runs in another task, and
the failures that end only that one are not seen from here, which holds for a failure
to make one as well. -/
def suspended (script : WaitScript) : Behaviour Scenario Unit := do
  let raised? := (← tryApply (failure (script.raises.getD .missing))).toOption.join
  match raised?.filter fun failure => failure.taskEffect = .stopsLoop with
  | some failure => .raise failure
  | none => if script.cancelTask then raiseScript (.fresh .cancelled (.arguments []) .missing)

def wait (kind : WaitKind) (_ : Scalar) : Behaviour Scenario Unit := do
  let script ← nextWait
  cancelIfAny script.cancel
  match kind, script.raises with
  | .suspended, _ => suspended script
  | _, some failure => raiseScript failure
  | _, none => pure ()

def operation (number : Nat) (arguments : Arguments) : Behaviour Scenario Value := do
  let scenario ← memory
  let (outcome?, rest) := nextOutcome ((scenario.outcomes.find? number).getD [])
  remember { scenario with outcomes := scenario.outcomes.set number rest }
  match outcome? with
  | none => pure (.text "ok")
  | some outcome =>
      cancelIfAny outcome.cancel
      match outcome.ending with
      | .raises script => raiseScript script
      | .answers value => pure value
      | .echoes => pure arguments.toValue

def environment (depth : Nat) : Environment Scenario where
  interval := interval
  predicate := predicate
  listener := listener
  wait := wait
  draw := draw
  depth := depth

end Scenario

end Reattempt
