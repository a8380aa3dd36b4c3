import Reattempt.Keyword
import Reattempt.Log.Level
import Reattempt.Log.Record

/-! Logging a message with named fields. A request below the logger's level makes no
record. -/

namespace Reattempt

structure Logger where
  name : String
  threshold : LogLevel

/-- A message on its way into a log. -/
structure LogRequest where
  level : LogLevel
  message : Value
  fields : List (String × Value)

structure LogSite where
  created : Scalar
  milliseconds : Scalar
  module : String
  function : String
  line : Nat
  thread : String

inductive LogRequestError where
  | parameterGivenTwice (key : String)
  | reservedKey (key : String)
  | unwritable (error : LogError)
  deriving DecidableEq, Repr

namespace LogRequestError

def message : LogRequestError → String
  | .parameterGivenTwice key => Keyword.givenTwice "log_structured" key
  | .reservedKey key => quoted ("Attempt to overwrite " ++ quoted key ++ " in LogRecord")
  | .unwritable error => error.message

def failureType : LogRequestError → FailureType
  | .parameterGivenTwice _ => .type
  | .reservedKey _ => .key
  | .unwritable error => error.failureType

end LogRequestError

namespace Logger

/-- What every request has besides its fields. -/
def parameters : List String := ["logger", "level", "message"]

def record (logger : Logger) (site : LogSite) (request : LogRequest) : LogRecord where
  logger := .text logger.name
  levelName := .text request.level.name
  template := request.message
  given := .tuple []
  created := .number site.created
  milliseconds := .number site.milliseconds
  module := .text site.module
  function := .text site.function
  line := .number (.whole site.line)
  thread := .text site.thread
  handled := .null
  extra := OrderedMap.setAll .empty request.fields

/-- The record of a request, if its level is not below the logger's. A field may not
have the name of a parameter, whatever the level, nor that of an attribute of the
record. -/
def log (logger : Logger) (site : LogSite) (request : LogRequest) :
    Except LogRequestError (Option LogRecord) :=
  match request.fields.find? (fun field => field.1 ∈ parameters) with
  | some (key, _) => .error (.parameterGivenTwice key)
  | none =>
      if request.level.passes logger.threshold then
        match request.fields.find? (fun field => field.1 ∈ reservedKeys) with
        | some (key, _) => .error (.reservedKey key)
        | none => .ok (some (logger.record site request))
      else .ok none

/-- Log a request and give the fields of the record that is written for it, if one
is. -/
def fields? (logger : Logger) (site : LogSite) (correlation : Option String)
    (request : LogRequest) : Except LogRequestError (Option (OrderedMap String Json)) := do
  match ← logger.log site request with
  | some record => return some (← (record.fields correlation).mapError .unwritable)
  | none => return none

end Logger

end Reattempt
