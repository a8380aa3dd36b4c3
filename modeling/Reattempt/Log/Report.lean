import Reattempt.Value

/-! Reports of failures in log records. What is being handled is given as a triple
of the failure's type, the failure and a trace of calls. The report takes the type
from the failure itself. A value that counts as false says that nothing is being
handled. -/

namespace Reattempt

namespace Report

/-- What is printed of calls comes in front of what they led to. -/
def withCalls (calls : List String) (outcome : String) : String :=
  if calls.isEmpty then outcome
  else "Traceback (most recent call last):\n" ++ String.join calls ++ outcome

def causeSeparator : String :=
  "\n\nThe above exception was the direct cause of the following exception:\n\n"

def contextSeparator : String :=
  "\n\nDuring handling of the above exception, another exception occurred:\n\n"

end Report

namespace Failure

/-- The type and the message in one line; an empty message is left out. A message that
cannot be written does not stop the report. -/
def summary (failure : Failure) : String :=
  match failure.text with
  | .ok "" => failure.type.qualifiedName
  | .ok text => s!"{failure.type.qualifiedName}: {text}"
  | .error _ => s!"{failure.type.qualifiedName}: <exception str() failed>"

/-- The failure after the given calls. What it was raised from is reported above it: its
cause, or else what was being handled. -/
def report (calls : List String) : Failure → String
  | { identity, type, content, cause := none, own, context := none, trace := _ } =>
      Report.withCalls calls (summary { identity, type, content, own })
  | { identity, type, content, cause := none, own, context := some context, trace := _ } =>
      report context.trace context ++ Report.contextSeparator ++
        Report.withCalls calls (summary { identity, type, content, own })
  | { identity, type, content, cause := some cause, own, context := _, trace := _ } =>
      report cause.trace cause ++ Report.causeSeparator ++
        Report.withCalls calls (summary { identity, type, content, own })

end Failure

inductive ReportError where
  | notATriple (typeName : String)
  | tooShort (typeName : String)
  | lookedUpByKey
  | notATrace (typeName : String)
  | notAFailure (typeName : String)
  deriving DecidableEq, Repr

namespace ReportError

/-- A value that is looked up by key has nothing under the key of the trace, which
is its position in the triple. -/
def message : ReportError → String
  | .notATriple typeName => s!"'{typeName}' object is not subscriptable"
  | .tooShort typeName => s!"{typeName} index out of range"
  | .lookedUpByKey => "2"
  | .notATrace typeName => s!"'{typeName}' object has no attribute 'tb_frame'"
  | .notAFailure typeName => s!"'{typeName}' object has no attribute '__suppress_context__'"

def failureType : ReportError → FailureType
  | .notATriple _ => .type
  | .tooShort _ => .index
  | .lookedUpByKey => .key
  | .notATrace _ | .notAFailure _ => .missingAttribute

end ReportError

namespace Report

def handling (failure? : Option Failure) : Value :=
  .tuple [.null, (failure?.map Value.failure).getD .null, .null]

/-- What is printed of the calls in a trace. There need not be a trace. -/
def calls? : Value → Except ReportError (List String)
  | .null => .ok []
  | .trace _ calls => .ok calls
  | other => .error (.notATrace other.typeName)

/-- The report on the last two parts of a triple. The trace is looked at first. -/
def onParts (raised trace : Value) : Except ReportError String := do
  let calls ← calls? trace
  match raised with
  | .null => return withCalls calls "NoneType: None"
  | .failure failure => return failure.report calls
  | other => .error (.notAFailure other.typeName)

def onItems (typeName : String) : List Value → Except ReportError String
  | _ :: raised :: trace :: _ => onParts raised trace
  | _ => .error (.tooShort typeName)

/-- The report on a value that counts as true. A text has three parts if it has
three characters, but none of them is a trace. -/
def onValue : Value → Except ReportError String
  | .tuple items => onItems "tuple" items
  | .list items => onItems "list" items
  | .text text => .error (if text.length < 3 then .tooShort "string" else .notATrace "str")
  | .mapping _ => .error .lookedUpByKey
  | other => .error (.notATriple other.typeName)

/-- The report on what is being handled, if anything is. -/
def on? (handled : Value) : Except ReportError (Option String) :=
  if handled.isTrue then (onValue handled).map some else .ok none

end Report

end Reattempt
