import Reattempt.Engine.Attempt
import Reattempt.Keyword

/-! Creating policies and running operations under them. A run opens a call,
attempts the operation and reports every outcome until the call ends. Failures that
are not ordinary end it unreported. -/

namespace Reattempt

variable {σ α : Type}

namespace Action

def share (config : Config) : Action σ SharedConfig :=
  modifyGet fun world =>
    ({ number := world.configs, config }, { world with configs := world.configs + 1 })

def newPublisher : Action σ Nat :=
  modifyGet fun world =>
    (world.publishers,
      { world with
        publishers := world.publishers + 1
        tables := world.tables.set world.publishers .empty })

/-- Create a policy, with all counters at zero and without listeners. Without a
configuration it gets the default one. -/
def newPolicy (name : String) (shared? : Option SharedConfig) (sleeps : Bool) :
    Action σ Policy := do
  if name.isEmpty then fail .value "name must be a non-empty string"
  let shared ← match shared? with
    | some shared => pure shared
    | none => share .default
  let publisher ← newPublisher
  let number ← modifyGet fun world =>
    (world.policies,
      { world with
        policies := world.policies + 1
        counters := world.counters.set world.policies {} })
  let limit ← calculate (Scalar.whole shared.config.limit.toInt).written
  log .debug .policy s!"Created retry '{name}' with max_attempts={limit}"
  return { number, name, shared, publisher, sleeps }

def openCall (policy : Policy) : Action σ Call :=
  modifyGet fun world =>
    ({ number := world.calls, policy },
      { world with
        calls := world.calls + 1
        progress := world.progress.set world.calls .fresh })

end Action

namespace Environment

/-- Call the operation once. An ordinary failure is an outcome of the attempt. -/
def attempt (environment : Environment σ) (call : Call) (operation : Arguments → Behaviour σ α)
    (arguments : Arguments) : Action σ (Except Failure α) := do
  Action.step call.number (.attempted arguments)
  try
    return .ok (← environment.run (operation arguments))
  catch failure =>
    if failure.isA .ordinary then return .error failure else throw failure

/-- Attempt the operation until the call ends, but not more often than the budget
allows. There is no answer if the budget is used up while the call could go on. -/
def attemptWithin (environment : Environment σ) (call : Call) (kind : WaitKind)
    (operation : Arguments → Behaviour σ α) (arguments : Arguments) :
    (budget : Nat) → Action σ (Option α)
  | 0 => pure none
  | budget + 1 => do
      match ← environment.attempt call operation arguments with
      | .ok value =>
          environment.onSuccess call
          return some value
      | .error failure =>
          environment.onFailure call kind failure
          environment.attemptWithin call kind operation arguments budget

/-- Run an operation under a policy, in a call of its own. A suspended call is a
coroutine. -/
def runUnder (environment : Environment σ) (policy : Policy) (asynchronous : Bool)
    (operation : Arguments → Behaviour σ α) (arguments : Arguments) (budget : Nat) :
    Action σ (Option α) :=
  let kind := policy.waitKind asynchronous
  kind.enclose do
    let call ← Action.openCall policy
    environment.attemptWithin call kind operation arguments budget

/-! ## Running an operation at once -/

/-- The parameters of `execute` itself, which come before the operation's arguments.
-/
def executionParameters : List String := [Keyword.owner, "func"]

def executionName (asynchronous : Bool) : String :=
  if asynchronous then "Retry.execute_async" else "Retry.execute"

/-- Run an operation under a policy without wrapping it first. Its named arguments
are passed along, so they may not be called like what comes before them. -/
def execute (environment : Environment σ) (policy : Policy) (asynchronous : Bool)
    (operation : Arguments → Behaviour σ α) (arguments : Arguments) (budget : Nat) :
    Action σ (Option α) := do
  match arguments.keyword.find? (fun argument => argument.1 ∈ executionParameters) with
  | some (name, _) =>
      Action.fail .type (Keyword.givenTwice (executionName asynchronous) name)
  | none => environment.runUnder policy asynchronous operation arguments budget

end Environment

end Reattempt
