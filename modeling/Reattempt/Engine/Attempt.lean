import Reattempt.Engine.Interval

/-! The life of a call between its attempts. A reported failure is classified and
counted; then the call waits and may be attempted again, or the failure is raised
once more because the call must stop. An interrupted wait raises the last failure
with the interruption as its cause. -/

namespace Reattempt

variable {σ α : Type}

/-- What a failure raised by the tasks of an event loop does to a call that is waiting
for one of them. -/
inductive TaskEffect where
  | cancelsCall
  | stopsLoop
  | endsTask
  deriving DecidableEq, Repr

namespace Failure

def taskEffect (failure : Failure) : TaskEffect :=
  if failure.isA .cancelled then .cancelsCall
  else if failure.isA .keyboardInterrupt || failure.isA .systemExit then .stopsLoop
  else .endsTask

def interruptsSleep (failure : Failure) : Bool :=
  failure.isA .waitInterrupted || failure.isA .interrupted

end Failure

inductive WaitTask where
  | sleep
  | wakeup
  deriving DecidableEq, Repr

def Policy.waitKind (policy : Policy) (asynchronous : Bool) : WaitKind :=
  if asynchronous then .suspended
  else if policy.sleeps then .sleeping
  else .blocking

/-- Carry out what a call does when it waits like this. A suspended call does it in a
coroutine. -/
def WaitKind.enclose (kind : WaitKind) (body : Action σ α) : Action σ α :=
  match kind with
  | .suspended => Action.inCoroutine body
  | .blocking | .sleeping => body

namespace Environment

/-- Whether a failure is worth another attempt. The predicate is asked only about
failures whose type allows it. -/
def isRetryable (environment : Environment σ) (config : Config) (failure : Option Failure) :
    Action σ Bool :=
  if config.allows failure then
    match config.predicate with
    | .always => pure true
    | .custom function => environment.run (environment.predicate function failure)
  else pure false

/-- Publish an event of the call's policy, if anybody listens to its kind. -/
def announce (environment : Environment σ) (call : Call) (detail : EventDetail) (attempts : Nat)
    (lastFailure : Option Failure) : Action σ Unit := do
  let world ← get
  if (world.listenersOf call.policy.publisher).hasListeners detail.kind? then
    let event := { detail, policyName := call.policy.name, attempts, lastFailure }
    Action.step call.number (.announced event)
    environment.publish call.policy.publisher event

def logFields (call : Call) (attempts : Nat) : List (String × Value) :=
  [("retry_name", .text call.policy.name), ("attempt", .number (.whole attempts))]

def reject (environment : Environment σ) (call : Call) (failure : Option Failure) :
    Action σ α := do
  Action.changeProgress call.number .reject
  let attempts := (← Action.progressOf call.number).attempts
  Action.changeCounters call.policy.number .countRejection
  let text ← Action.write (Failure.text? failure)
  Action.log .debug .call
    s!"Retry '{call.policy.name}' ignored non-retryable {Failure.typeName? failure}: {text}"
  environment.announce call .ignoredError attempts failure
  Action.raise failure

def exhaust (environment : Environment σ) (call : Call) (attempts : Nat)
    (failure : Option Failure) : Action σ α := do
  Action.changeCounters call.policy.number .countExhaustion
  let shown ← Action.write (Failure.shown? failure)
  Action.log .debug .call
    s!"Retry '{call.policy.name}' exhausted after {attempts} attempt(s): {shown}"
    (logFields call attempts)
  environment.announce call .error attempts failure
  Action.raise failure

def planWait (environment : Environment σ) (call : Call) (attempts : Nat)
    (failure : Option Failure) : Action σ Scalar := do
  Action.step call.number (.intervalAsked attempts)
  let interval ← environment.delay call.policy.config.interval attempts
  let shown ← Action.calculate interval.fixedText
  Action.log .debug .call
    s!"Retry '{call.policy.name}' waiting {shown}s before attempt {attempts + 1}"
    (logFields call attempts ++ [("wait_time", .number interval)])
  environment.announce call (.retry interval) attempts failure
  return interval

/-- Classify and count a failure. The result is the wait before the next attempt; if
there must be none, the failure is raised again. -/
def recordFailure (environment : Environment σ) (call : Call) (failure : Option Failure) :
    Action σ Scalar := do
  let retryable ← environment.isRetryable call.policy.config failure
  Action.step call.number (.classified failure retryable)
  if retryable then
    let limit := call.policy.config.limit
    Action.changeProgress call.number fun progress => progress.count limit failure
    let attempts := (← Action.progressOf call.number).attempts
    if limit.isReached attempts then environment.exhaust call attempts failure
    else environment.planWait call attempts failure
  else environment.reject call failure

/-! ## Waiting -/

def newInterruption (call : Call) : Action σ Failure := do
  let attempts := (← Action.progressOf call.number).attempts
  return .interruption (← Action.newIdentity) call.policy.name attempts

/-- The failure that says that the wait was interrupted: the cause itself if it says
so, else a new one. -/
def interruptionBy (call : Call) (cause : Failure) : Action σ Failure :=
  if cause.isA .waitInterrupted then pure cause else newInterruption call

/-- End an interrupted wait. The last failure is raised again with the interruption
as its cause, and a new interruption has what interrupted the wait as its own cause.
-/
def raiseInterrupted (call : Call) (cause : Failure) : Action σ α := do
  Action.changeProgress call.number .interrupt
  let lastFailure := (← Action.progressOf call.number).lastFailure
  let interruption ← interruptionBy call cause
  let text ← Action.write interruption.text
  let shown ← Action.write (Failure.shown? lastFailure)
  Action.log .warning .call s!"{text}; re-raising last failure {shown}"
  -- Nobody knows a new interruption before it is raised, so it gets its cause here.
  if !cause.isA .waitInterrupted then modify (World.link interruption cause)
  match lastFailure with
  | none => throw interruption
  | some failure =>
      modify (World.link failure interruption)
      throw failure

/-- Wait for the signal that a cancellation gives, and tell whether it came in time. A
signal given after the end of the time is not noticed, even if it is given before the
call goes on. -/
def awaitSignal (environment : Environment σ) (call : Call) (interval : Scalar) :
    Action σ Bool := do
  environment.run (environment.wait .blocking interval)
  let signalled := (← Action.progressOf call.number).cancelled
  environment.run (environment.lag .blocking)
  return signalled

/-- Wait in the thread of the call. When the signal was given before, the wait is asked
for nevertheless, but it is over at once. -/
def waitBlocking (environment : Environment σ) (call : Call) (interval : Scalar) :
    Action σ Unit := do
  if (← Action.progressOf call.number).cancelled then
    Action.step call.number (.waitSkipped .blocking interval)
    raiseInterrupted call (← newInterruption call)
  Action.step call.number (.waitBegun .blocking interval)
  if ← environment.awaitSignal call interval then
    raiseInterrupted call (← newInterruption call)
  Action.step call.number (.waitOver .blocking interval)

/-- Wait in a sleep function of the caller, which does not notice a cancellation. -/
def waitSleeping (environment : Environment σ) (call : Call) (interval : Scalar) :
    Action σ Unit := do
  try
    if (← Action.progressOf call.number).cancelled then
      Action.step call.number (.waitSkipped .sleeping interval)
      throw (← newInterruption call)
    Action.step call.number (.waitBegun .sleeping interval)
    environment.run (environment.wait .sleeping interval)
  catch failure =>
    if failure.interruptsSleep then raiseInterrupted call failure else throw failure
  Action.step call.number (.waitOver .sleeping interval)

/-- Let tasks run. A failure that only ends the task it is raised in is not seen from
outside. -/
def runTasks (environment : Environment σ) (code : Behaviour σ Unit) : Action σ Unit := do
  try environment.run code
  catch failure => if failure.taskEffect = .endsTask then pure () else throw failure

/-- Let tasks run until one of the two is done and the call goes on, and tell which of
them is done then. The wakeup event is new, and every cancellation from here on sets it
together with the flag, which is down. It ends its task only if there is time for that:
one that comes after the end of the sleep, before the call goes on, comes too late. -/
def firstDone (environment : Environment σ) (call : Call) (interval : Scalar) :
    Action σ (List WaitTask) := do
  environment.runTasks (environment.wait .suspended interval)
  let isSet := (← Action.progressOf call.number).cancelled
  environment.runTasks (environment.lag .suspended)
  return if isSet then [.wakeup] else [.sleep]

/-- Wait as a task. The call is stranded when the loop stops before the wait is over:
then its wakeup event stays in place, but nothing can set it any more. -/
def waitSuspended (environment : Environment σ) (call : Call) (interval : Scalar) :
    Action σ Unit := do
  let cancelled := (← Action.progressOf call.number).cancelled
  if cancelled then
    Action.step call.number (.waitSkipped .suspended interval)
    raiseInterrupted call (← newInterruption call)
  Action.step call.number (.waitBegun .suspended interval)
  Action.changeProgress call.number (.setStranded false)
  let done ← try environment.firstDone call interval
    catch failure =>
      match failure.taskEffect with
      | .cancelsCall => raiseInterrupted call failure
      | .stopsLoop | .endsTask =>
          Action.changeProgress call.number (.setStranded true)
          throw failure
  if .wakeup ∈ done then raiseInterrupted call (← newInterruption call)
  Action.step call.number (.waitOver .suspended interval)

/-! ## Reporting the outcome of an attempt -/

def onFailureInThread (environment : Environment σ) (call : Call) (sleeps : Bool)
    (failure : Option Failure) : Action σ Unit := do
  let interval ← environment.recordFailure call failure
  if sleeps then environment.waitSleeping call interval
  else environment.waitBlocking call interval
  Action.changeProgress call.number .resume

def onFailureInTask (environment : Environment σ) (call : Call) (failure : Option Failure) :
    Action σ Unit :=
  Action.inCoroutine do
    let interval ← environment.recordFailure call failure
    environment.waitSuspended call interval
    Action.changeProgress call.number .resume

/-- Report that an attempt failed. Returns when the operation may be attempted
again. -/
def onFailure (environment : Environment σ) (call : Call) (kind : WaitKind)
    (failure : Option Failure) : Action σ Unit :=
  match kind with
  | .blocking => environment.onFailureInThread call false failure
  | .sleeping => environment.onFailureInThread call true failure
  | .suspended => environment.onFailureInTask call failure

/-- Report that an attempt succeeded. A success at once is counted and nothing else.
-/
def onSuccess (environment : Environment σ) (call : Call) : Action σ Unit := do
  Action.changeProgress call.number .succeed
  let progress ← Action.progressOf call.number
  let attempts := progress.attempts
  if 0 < attempts then
    Action.changeCounters call.policy.number (·.countSuccess true)
    Action.log .debug .call
      s!"Retry '{call.policy.name}' succeeded after {attempts} failed attempt(s)"
      (logFields call attempts)
    environment.announce call .success attempts progress.lastFailure
  else Action.changeCounters call.policy.number (·.countSuccess false)

end Environment

end Reattempt
