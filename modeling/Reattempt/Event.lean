import Reattempt.Failure.Basic
import Reattempt.Keyword
import Reattempt.Moment

/-! Events: what a policy tells its listeners. Listeners subscribe to kinds of
events. A plain record belongs to no kind, so it can be neither delivered nor
described. -/

namespace Reattempt

/-- A success after at least one retry, a wait before another attempt, the end of
all attempts, and a failure that is not worth another attempt. -/
inductive EventKind where
  | success
  | retry
  | error
  | ignoredError
  deriving DecidableEq, Repr

namespace EventKind

def all : List EventKind := [.success, .retry, .error, .ignoredError]

def name : EventKind → String
  | .success => "success"
  | .retry => "retry"
  | .error => "error"
  | .ignoredError => "ignored_error"

def ofName? (name : String) : Option EventKind :=
  all.find? fun kind => kind.name = name

theorem mem_all (kind : EventKind) : kind ∈ all := by
  cases kind <;> simp [all]

end EventKind

inductive EventDetail where
  | plain
  | success
  | retry (wait : Scalar)
  | error
  | ignoredError
  deriving Repr

structure Event where
  detail : EventDetail
  policyName : String
  attempts : Int
  lastFailure : Option Failure
  deriving Repr

namespace EventDetail

def kind? : EventDetail → Option EventKind
  | .plain => none
  | .success => some .success
  | .retry _ => some .retry
  | .error => some .error
  | .ignoredError => some .ignoredError

def recordName (kind? : Option EventKind) : String :=
  match kind? with
  | none => "RetryEvent"
  | some .success => "RetryOnSuccessEvent"
  | some .retry => "RetryOnRetryEvent"
  | some .error => "RetryOnErrorEvent"
  | some .ignoredError => "RetryOnIgnoredErrorEvent"

/-- The same detail, with waits compared as numbers. -/
def same : EventDetail → EventDetail → Bool
  | .retry left, .retry right => left.same right
  | left, right => left.kind? = right.kind?

end EventDetail

inductive EventError where
  | timeGivenTwice (kind? : Option EventKind)
  | unknownField (kind? : Option EventKind) (key : String)
  | missingFields (kind? : Option EventKind) (names : List String)
  | noKind
  | unwritten (refusal : Refusal)
  deriving DecidableEq, Repr

namespace EventError

def enumeration (names : List String) : String :=
  match names.map fun name => s!"'{name}'" with
  | [] => ""
  | [name] => name
  | [first, second] => s!"{first} and {second}"
  | names => ", ".intercalate names.dropLast ++ ", and " ++ names.getLastD ""

def message : EventError → String
  | .timeGivenTwice kind? =>
      s!"aretry.events.{EventDetail.recordName kind?}() got multiple values for " ++
        "keyword argument 'creation_time'"
  | .unknownField kind? key =>
      Keyword.refused (EventDetail.recordName kind? ++ ".__init__") key
  | .missingFields kind? names =>
      let plural := if names.length = 1 then "argument" else "arguments"
      s!"{EventDetail.recordName kind?}.__init__() missing {names.length} " ++
        s!"required positional {plural}: {enumeration names}"
  | .noKind => "'RetryEvent' object has no attribute 'event_type'"
  | .unwritten refusal => refusal.message

def failureType : EventError → FailureType
  | .noKind => .missingAttribute
  | .unwritten refusal => refusal.type
  | .timeGivenTwice _ | .unknownField _ _ | .missingFields _ _ => .type

end EventError

namespace Event

def kind? (event : Event) : Option EventKind :=
  event.detail.kind?

/-! ## Building an event from named fields -/

inductive Field where
  | policyName (value : String)
  | attempts (value : Int)
  | lastFailure (value : Option Failure)
  | waitInterval (value : Scalar)
  | unknown (key : String)
  deriving Repr

/-- The time of creation is given apart from the fields. -/
def Field.isTime : Field → Bool
  | .unknown key => key = "creation_time"
  | _ => false

def Field.unknownKey? (kind? : Option EventKind) : Field → Option String
  | .unknown key => some key
  | .waitInterval _ => if kind? = some .retry then none else some "wait_interval"
  | _ => none

structure Draft where
  policyName : Option String
  attempts : Option Int
  lastFailure : Option (Option Failure)
  waitInterval : Scalar

/-- A failure that is ignored may come first, so its event needs no attempts and no
failure. -/
def Draft.initial (kind? : Option EventKind) : Draft :=
  let optional := kind? = some .ignoredError
  { policyName := none
    attempts := if optional then some 0 else none
    lastFailure := if optional then some none else none
    waitInterval := .real 0.0 }

def Draft.put (draft : Draft) : Field → Draft
  | .policyName value => { draft with policyName := some value }
  | .attempts value => { draft with attempts := some value }
  | .lastFailure value => { draft with lastFailure := some value }
  | .waitInterval value => { draft with waitInterval := value }
  | .unknown _ => draft

def Draft.missing (draft : Draft) : List String :=
  (if draft.policyName.isNone then ["retry_name"] else []) ++
    (if draft.attempts.isNone then ["number_of_attempts"] else []) ++
    (if draft.lastFailure.isNone then ["last_failure"] else [])

def Draft.detail (draft : Draft) : Option EventKind → EventDetail
  | none => .plain
  | some .success => .success
  | some .retry => .retry draft.waitInterval
  | some .error => .error
  | some .ignoredError => .ignoredError

/-- A second time is refused first, and an unknown field before missing ones are
noticed. -/
def ofFields (kind? : Option EventKind) (fields : List Field) : Except EventError Event :=
  match fields.any Field.isTime, fields.findSome? (Field.unknownKey? kind?) with
  | true, _ => .error (.timeGivenTwice kind?)
  | false, some key => .error (.unknownField kind? key)
  | false, none =>
      let draft := fields.foldl Draft.put (Draft.initial kind?)
      match draft.policyName, draft.attempts, draft.lastFailure with
      | some policyName, some attempts, some lastFailure =>
          .ok { detail := draft.detail kind?, policyName, attempts, lastFailure }
      | _, _, _ => .error (.missingFields kind? draft.missing)

end Event

structure StampedEvent where
  event : Event
  created : Moment
  deriving Repr

namespace StampedEvent

def sameFailure : Option Failure → Option Failure → Bool
  | none, none => true
  | some left, some right => left.sameObject right
  | _, _ => false

/-- Equal kinds and fields; failures are compared as objects and times as instants.
-/
def same (left right : StampedEvent) : Bool :=
  left.event.detail.same right.event.detail &&
    left.event.policyName = right.event.policyName &&
    left.event.attempts = right.event.attempts &&
    sameFailure left.event.lastFailure right.event.lastFailure &&
    left.created.sameInstant right.created

def text (stamped : StampedEvent) : Except EventError String := do
  let event := stamped.event
  let failure : Wording := Failure.shown? event.lastFailure
  let attempts (number : Int) : Except EventError String :=
    (Scalar.whole number).wording.mapError .unwritten
  match event.detail, event.kind? with
  | .retry wait, _ =>
      let wait ← wait.wording.mapError .unwritten
      let next ← attempts (event.attempts + 1)
      return s!"{stamped.created.text}: Retry '{event.policyName}', waiting {wait}s until " ++
        s!"attempt '{next}'. Last failure: {← failure.mapError .unwritten}"
  | _, some kind =>
      let attempts ← attempts event.attempts
      return s!"{stamped.created.text}: Retry '{event.policyName}' recorded {kind.name} after " ++
        s!"{attempts} attempt(s). Last failure: {← failure.mapError .unwritten}"
  | _, none => throw .noKind

def shown (stamped : StampedEvent) : Wording := do
  let event := stamped.event
  let attempts ← (Scalar.whole event.attempts).wording
  let failure ← Failure.shown? event.lastFailure
  let wait ← match event.detail with
    | .retry wait => do pure s!", wait_interval={← wait.wording}"
    | _ => pure ""
  return s!"{EventDetail.recordName event.kind?}(retry_name={quoted event.policyName}, " ++
    s!"number_of_attempts={attempts}, last_failure={failure}, " ++
    s!"creation_time={stamped.created.shown}" ++ wait ++ ")"

end StampedEvent

end Reattempt
