import Reattempt.Log.Report
import Reattempt.Log.Template
import Reattempt.Log.Timestamp

/-! Log records and their form as one line of JSON. Fields added to a record follow
the standard ones; a field that has the key of an earlier one takes its place. -/

namespace Reattempt

/-- The keys of a record's own attributes, which are never written as fields. -/
def reservedKeys : List String :=
  ["name", "msg", "args", "levelname", "levelno", "pathname", "filename", "module", "exc_info",
   "exc_text", "stack_info", "lineno", "funcName", "created", "msecs", "relativeCreated", "thread",
   "threadName", "processName", "process", "message", "asctime"]

structure LogRecord where
  logger : Value
  levelName : Value
  template : Value
  /-- What is filled into the template. -/
  given : Value
  /-- Seconds since the start of 1970. -/
  created : Value
  milliseconds : Value
  module : Value
  function : Value
  line : Value
  thread : Value
  /-- What is being handled while the record is made. -/
  handled : Value
  /-- Added fields in the order of their first appearance. -/
  extra : OrderedMap String Value

inductive LogError where
  | timestamp (error : TimestampError)
  | composing (typeName : String)
  | template (error : TemplateError)
  | report (error : ReportError)
  | unwritten (refusal : Refusal)
  deriving DecidableEq, Repr

namespace LogError

def message : LogError → String
  | .timestamp error => error.message
  | .composing typeName => s!"'{typeName}' object is not callable"
  | .template error => error.message
  | .report error => error.message
  | .unwritten refusal => refusal.message

def failureType : LogError → FailureType
  | .timestamp error => error.failureType
  | .composing _ => .type
  | .template error => error.failureType
  | .report error => error.failureType
  | .unwritten refusal => refusal.type

end LogError

/-- What a field says: a value that was given, or the codes of a composed text. -/
inductive LogContent where
  | given (value : Value)
  | composed (codes : List Nat)
  deriving Repr

def LogContent.encode : LogContent → Except Refusal Json
  | .given value => value.encode
  | .composed codes => .ok (.ofCodes codes)

namespace LogRecord

/-- Set an attribute of the record or add a field. The attributes that are not
written have no counterpart here. -/
def set (record : LogRecord) (key : String) (value : Value) : LogRecord :=
  match key with
  | "name" => { record with logger := value }
  | "levelname" => { record with levelName := value }
  | "msg" => { record with template := value }
  | "args" => { record with given := value }
  | "created" => { record with created := value }
  | "msecs" => { record with milliseconds := value }
  | "module" => { record with module := value }
  | "funcName" => { record with function := value }
  | "lineno" => { record with line := value }
  | "threadName" => { record with thread := value }
  | "exc_info" => { record with handled := value }
  | key =>
      if key ∈ reservedKeys then record else { record with extra := record.extra.set key value }

/-- The key under which a record is asked for its message. A field with this key
answers in place of the record, and no value can be asked. -/
def composingKey : String := "getMessage"

def message (record : LogRecord) : Except LogError (List Nat) :=
  match record.extra.find? composingKey with
  | some value => .error (.composing value.typeName)
  | none => do
      let template ← record.template.plain.mapError .unwritten
      (Template.fill template record.given).mapError .template

def standardFields (record : LogRecord) (timestamp : String) (message : List Nat) :
    List (String × LogContent) :=
  [("timestamp", .given (.text timestamp)), ("level", .given record.levelName),
   ("logger", .given record.logger), ("message", .composed message),
   ("module", .given record.module), ("function", .given record.function),
   ("line", .given record.line), ("thread", .given record.thread)]

def correlationFields : (correlation : Option String) → List (String × LogContent)
  | none => []
  | some identifier => [("correlation_id", .given (.text identifier))]

def exceptionFields : (report : Option String) → List (String × LogContent)
  | none => []
  | some report => [("exception", .given (.text report))]

/-- What the written record says. The correlation identifier is the one in force when the
record is written. -/
def contents (record : LogRecord) (correlation : Option String) :
    Except LogError (OrderedMap String LogContent) := do
  let timestamp ← (Timestamp.text record.created record.milliseconds).mapError .timestamp
  let message ← record.message
  let report ← (Report.on? record.handled).mapError .report
  let own := OrderedMap.setAll .empty (record.standardFields timestamp message ++
    correlationFields correlation ++ exceptionFields report)
  return own.setAll (record.extra.mapValues .given).entries

/-- All fields of the written record. None of them is written before all are known. -/
def fields (record : LogRecord) (correlation : Option String) :
    Except LogError (OrderedMap String Json) := do
  ((← record.contents correlation).traverse LogContent.encode).mapError .unwritten

def line? (record : LogRecord) (correlation : Option String) : Except LogError String := do
  return Json.line (.object (← record.fields correlation).entries)

end LogRecord

end Reattempt
