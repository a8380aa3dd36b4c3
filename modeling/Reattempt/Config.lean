import Reattempt.Backoff.Basic
import Reattempt.Keyword
import Reattempt.Value

/-! Retry configurations. A configuration says how often an operation is attempted,
how long to wait in between and which failures are worth another attempt. It is
built from settings, which are checked together, and later settings replace earlier
ones. -/

namespace Reattempt

inductive AttemptLimit where
  | unlimited
  | atMost (attempts : Nat) (positive : 0 < attempts)
  deriving DecidableEq, Repr

namespace AttemptLimit

/-- Stands for a limit that is never reached. -/
def unlimitedCode : Int := -1

def ofInt? (code : Int) : Option AttemptLimit :=
  if code = unlimitedCode then some .unlimited
  else if positive : 0 < code.toNat then some (.atMost code.toNat positive)
  else none

def toInt : AttemptLimit → Int
  | .unlimited => unlimitedCode
  | .atMost attempts _ => attempts

def isReached (limit : AttemptLimit) (failed : Nat) : Bool :=
  match limit with
  | .unlimited => false
  | .atMost attempts _ => attempts ≤ failed

@[simp] theorem ofInt?_toInt (limit : AttemptLimit) : ofInt? limit.toInt = some limit := by
  cases limit with
  | unlimited => rfl
  | atMost attempts positive =>
      have different : (attempts : Int) ≠ unlimitedCode := by simp only [unlimitedCode]; omega
      simp [ofInt?, toInt, different, positive]

end AttemptLimit

inductive Predicate where
  | always
  | custom (function : Callable)
  deriving DecidableEq, Repr

def Predicate.shown : Predicate → String
  | .always => "<function _always_retry>"
  | .custom function => function.shown

structure Config where
  limit : AttemptLimit
  interval : Backoff
  predicate : Predicate
  retryTypes : List FailureType
  ignoreTypes : List FailureType
  deriving Repr

/-! ## Settings -/

inductive Offered (α : Type) where
  | function (function : α)
  | value (value : Value)
  deriving Repr

instance {α : Type} : Inhabited (Offered α) := ⟨.value .null⟩

inductive TypeSelection where
  | listed (types : List FailureType)
  | single (type : FailureType)
  deriving DecidableEq, Repr

inductive Setting where
  | maxAttempts (code : Int)
  | interval (offered : Offered Backoff)
  | predicate (offered : Offered Predicate)
  | retryTypes (selection : TypeSelection)
  | ignoreTypes (selection : TypeSelection)
  | unknown (key : String)
  deriving Repr

def Setting.namesOwner : Setting → Bool
  | .unknown key => key = Keyword.owner
  | _ => false

inductive ConfigError where
  | ownerGivenTwice
  | unknownSetting (key : String)
  | limitOutOfRange (code : Int)
  | intervalNotCallable (value : Value)
  | predicateNotCallable (value : Value)
  | typesNotListed
  deriving Repr

namespace ConfigError

def message : ConfigError → Wording
  | .ownerGivenTwice => .ok (Keyword.givenTwice "RetryConfig.merge" Keyword.owner)
  | .unknownSetting key => .ok (Keyword.refused "RetryConfig.__init__" key)
  | .limitOutOfRange code => return "max_attempts must be >= 1 or INFINITE_ATTEMPTS " ++
      s!"({AttemptLimit.unlimitedCode}), got {← (Scalar.whole code).wording}"
  | .intervalNotCallable value => return s!"interval_function must be callable, got {← value.shown}"
  | .predicateNotCallable value =>
      return s!"retry_on_exception must be callable, got {← value.shown}"
  | .typesNotListed => .ok "'type' object is not iterable"

def failureType : ConfigError → FailureType
  | .ownerGivenTwice | .unknownSetting _ | .typesNotListed => .type
  | _ => .value

end ConfigError

structure Config.Draft where
  limit : Int
  interval : Offered Backoff
  predicate : Offered Predicate
  retryTypes : TypeSelection
  ignoreTypes : TypeSelection

namespace Config.Draft

/-- Up to three attempts at regular intervals, whatever the failure. -/
def default : Draft where
  limit := 3
  interval := .function (.constant Backoff.defaultDelay)
  predicate := .function .always
  retryTypes := .listed []
  ignoreTypes := .listed []

def put (draft : Draft) : Setting → Draft
  | .maxAttempts code => { draft with limit := code }
  | .interval offered => { draft with interval := offered }
  | .predicate offered => { draft with predicate := offered }
  | .retryTypes selection => { draft with retryTypes := selection }
  | .ignoreTypes selection => { draft with ignoreTypes := selection }
  | .unknown _ => draft

def checkTypes : TypeSelection → Except ConfigError (List FailureType)
  | .listed types => .ok types
  | .single _ => .error .typesNotListed

def checkLimit (code : Int) : Except ConfigError AttemptLimit :=
  match AttemptLimit.ofInt? code with
  | some limit => .ok limit
  | none => .error (.limitOutOfRange code)

def checkFunction (refuse : Value → ConfigError) : Offered α → Except ConfigError α
  | .function function => .ok function
  | .value value => .error (refuse value)

/-- The checks in the order in which their errors win. -/
def check (draft : Draft) : Except ConfigError Config := do
  let limit ← checkLimit draft.limit
  let interval ← checkFunction .intervalNotCallable draft.interval
  let predicate ← checkFunction .predicateNotCallable draft.predicate
  let retryTypes ← checkTypes draft.retryTypes
  let ignoreTypes ← checkTypes draft.ignoreTypes
  return { limit, interval, predicate, retryTypes, ignoreTypes }

end Config.Draft

namespace Config

def draft (config : Config) : Draft where
  limit := config.limit.toInt
  interval := .function config.interval
  predicate := .function config.predicate
  retryTypes := .listed config.retryTypes
  ignoreTypes := .listed config.ignoreTypes

def firstUnknown? : List Setting → Option String
  | [] => none
  | .unknown key :: _ => some key
  | _ :: rest => firstUnknown? rest

/-- Put the settings into the draft and check the result; an unknown setting is
refused first. -/
def ofDraft (draft : Draft) (settings : List Setting) : Except ConfigError Config :=
  match firstUnknown? settings with
  | some key => .error (.unknownSetting key)
  | none => (settings.foldl Draft.put draft).check

def ofSettings (settings : List Setting) : Except ConfigError Config :=
  ofDraft .default settings

def default : Config where
  limit := .atMost 3 (by decide)
  interval := .constant Backoff.defaultDelay
  predicate := .always
  retryTypes := []
  ignoreTypes := []

example : ofSettings [] = .ok default := rfl

/-- The configuration with some settings replaced. Merging belongs to the
configuration, so no setting may be called like its owner. -/
def merge (config : Config) (settings : List Setting) : Except ConfigError Config :=
  if settings.any Setting.namesOwner then .error .ownerGivenTwice
  else ofDraft config.draft settings

theorem merge_nil (config : Config) : config.merge [] = .ok config := by
  simp [merge, ofDraft, firstUnknown?, draft, Draft.check, Draft.checkLimit, Draft.checkFunction,
    Draft.checkTypes, bind, Except.bind, pure, Except.pure]

/-! ## Classification by type -/

def allowsType (config : Config) (type : FailureType) : Bool :=
  !config.ignoreTypes.any (·.covers type) &&
    (config.retryTypes.isEmpty || config.retryTypes.any (·.covers type))

/-- A missing failure is of no type, so nothing ignores it. -/
def allows (config : Config) : Option Failure → Bool
  | some failure => config.allowsType failure.type
  | none => config.retryTypes.isEmpty

/-! ## Text -/

def shownTypes (types : List FailureType) : String :=
  parenthesized (types.map fun type => s!"<class '{type.qualifiedName}'>")

def shown (config : Config) : String :=
  s!"RetryConfig(max_attempts={config.limit.toInt}, interval_function={config.interval.shown}, " ++
    s!"retry_on_exception={config.predicate.shown}, " ++
    s!"retry_exceptions={shownTypes config.retryTypes}, " ++
    s!"ignore_exceptions={shownTypes config.ignoreTypes})"

end Config

/-- A configuration object. Equal configurations given by different owners differ in
number. -/
structure SharedConfig where
  number : Nat
  config : Config
  deriving Repr

end Reattempt
