import Reattempt.Config

/-! How far one call has come. The transitions of this record are the whole state
machine of a call: an attempt fails and is counted or rejected, a wait ends or is
interrupted, an attempt succeeds. -/

namespace Reattempt

/-- A call is attempting its operation or waiting to do so again, until it ends in
one of the last three phases. -/
inductive Phase where
  | attempting
  | waiting
  | succeeded
  | exhausted
  | rejected
  deriving DecidableEq, Repr

namespace Phase

def all : List Phase := [.attempting, .waiting, .succeeded, .exhausted, .rejected]

def name : Phase → String
  | .attempting => "attempting"
  | .waiting => "waiting"
  | .succeeded => "succeeded"
  | .exhausted => "exhausted"
  | .rejected => "rejected"

end Phase

structure Progress where
  /-- The failures that were counted, which are those worth another attempt. -/
  attempts : Nat := 0
  lastFailure : Option Failure := none
  phase : Phase := .attempting
  interrupted : Bool := false
  cancelled : Bool := false
  /-- The last suspended wait was left behind by a failure that ended everything
  around it, so nothing can wake it any more. -/
  stranded : Bool := false
  deriving Repr

namespace Progress

def fresh : Progress := {}

instance : Inhabited Progress := ⟨fresh⟩

def count (progress : Progress) (limit : AttemptLimit) (failure : Option Failure) : Progress :=
  let attempts := progress.attempts + 1
  { progress with
    attempts
    lastFailure := failure
    phase := if limit.isReached attempts then .exhausted else .waiting }

def reject (progress : Progress) : Progress :=
  { progress with phase := .rejected }

def succeed (progress : Progress) : Progress :=
  { progress with phase := .succeeded }

def resume (progress : Progress) : Progress :=
  { progress with phase := .attempting }

def interrupt (progress : Progress) : Progress :=
  { progress with interrupted := true }

def cancel (progress : Progress) : Progress :=
  { progress with cancelled := true }

/-- Begin a suspended wait, or leave one behind. -/
def setStranded (stranded : Bool) (progress : Progress) : Progress :=
  { progress with stranded }

@[simp] theorem attempts_count (progress : Progress) (limit : AttemptLimit)
    (failure : Option Failure) :
    (progress.count limit failure).attempts = progress.attempts + 1 :=
  rfl

theorem phase_count (progress : Progress) (limit : AttemptLimit) (failure : Option Failure) :
    (progress.count limit failure).phase =
      if limit.isReached (progress.attempts + 1) then .exhausted else .waiting :=
  rfl

end Progress

end Reattempt
