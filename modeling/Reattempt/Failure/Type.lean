/-! The types of failures. A type has a name, the place it is defined in, and any
number of parent types, so a type may descend from another one along several paths.
-/

namespace Reattempt

mutual
/-- A type, the place that defines it (empty for the standard ones) and its direct
parents. -/
inductive FailureType where
  | named (name home : String) (parents : FailureTypes)

inductive FailureTypes where
  | nil
  | cons (first : FailureType) (rest : FailureTypes)
end

deriving instance DecidableEq for FailureType
deriving instance DecidableEq for FailureTypes
deriving instance Repr for FailureType
deriving instance Repr for FailureTypes

namespace FailureTypes

def ofList : List FailureType → FailureTypes
  | [] => .nil
  | first :: rest => .cons first (ofList rest)

def toList : FailureTypes → List FailureType
  | .nil => []
  | .cons first rest => first :: rest.toList

end FailureTypes

namespace FailureType

def name : FailureType → String
  | .named name _ _ => name

def parents : FailureType → List FailureType
  | .named _ _ parents => parents.toList

/-- The name with the home in front, unless the type has none. -/
def qualifiedName : FailureType → String
  | .named name home _ => if home.isEmpty then name else home ++ "." ++ name

def standard (name : String) (parents : List FailureType) : FailureType :=
  .named name "" (FailureTypes.ofList parents)

end FailureType

mutual
def FailureType.covers (ancestor : FailureType) : FailureType → Bool
  | .named name home parents =>
      ancestor = .named name home parents || parents.coveredBy ancestor

def FailureTypes.coveredBy (ancestor : FailureType) : FailureTypes → Bool
  | .nil => false
  | .cons first rest => ancestor.covers first || rest.coveredBy ancestor
end

namespace FailureType

/-! ## The standard hierarchy -/

def base : FailureType := standard "BaseException" []

/-- Failures of this type are reported and may be retried. Those that only descend
from `base`, such as the cancellation of a task, pass through untouched. -/
def ordinary : FailureType := standard "Exception" [base]

def keyboardInterrupt : FailureType := standard "KeyboardInterrupt" [base]
def systemExit : FailureType := standard "SystemExit" [base]

def cancelled : FailureType :=
  .named "CancelledError" "asyncio.exceptions" (.ofList [base])

def arithmetic : FailureType := standard "ArithmeticError" [ordinary]
def overflow : FailureType := standard "OverflowError" [arithmetic]
def zeroDivision : FailureType := standard "ZeroDivisionError" [arithmetic]
def missingAttribute : FailureType := standard "AttributeError" [ordinary]
def lookup : FailureType := standard "LookupError" [ordinary]
def key : FailureType := standard "KeyError" [lookup]
def index : FailureType := standard "IndexError" [lookup]
def system : FailureType := standard "OSError" [ordinary]
def connection : FailureType := standard "ConnectionError" [system]
def connectionReset : FailureType := standard "ConnectionResetError" [connection]
def connectionRefused : FailureType := standard "ConnectionRefusedError" [connection]
def fileNotFound : FailureType := standard "FileNotFoundError" [system]
def permission : FailureType := standard "PermissionError" [system]
def timeout : FailureType := standard "TimeoutError" [system]

def interrupted : FailureType := standard "InterruptedError" [system]

def runtime : FailureType := standard "RuntimeError" [ordinary]
def notImplemented : FailureType := standard "NotImplementedError" [runtime]
def recursion : FailureType := standard "RecursionError" [runtime]

def waitInterrupted : FailureType :=
  .named "RetryInterruptedError" "aretry.exceptions" (.ofList [runtime])

def stopIteration : FailureType := standard "StopIteration" [ordinary]

def type : FailureType := standard "TypeError" [ordinary]
def value : FailureType := standard "ValueError" [ordinary]

def standardTypes : List FailureType :=
  [base, ordinary, keyboardInterrupt, systemExit, cancelled, arithmetic, overflow, zeroDivision,
   missingAttribute, lookup, key, index, system, connection, connectionReset, connectionRefused,
   fileNotFound, permission, timeout, interrupted, runtime, notImplemented, recursion,
   waitInterrupted, type, value]

example : ordinary.covers connectionReset = true := by decide
example : ordinary.covers cancelled = false := by decide

/-! ## Laws -/

@[simp] theorem covers_refl (kind : FailureType) : kind.covers kind = true := by
  cases kind
  simp [covers]

end FailureType

mutual
theorem FailureType.covers_trans {ancestor middle : FailureType}
    (above : ancestor.covers middle = true) :
    (kind : FailureType) → middle.covers kind = true → ancestor.covers kind = true
  | .named name home parents, below => by
      simp only [FailureType.covers, Bool.or_eq_true, decide_eq_true_eq] at below ⊢
      cases below with
      | inl equal =>
          subst equal
          simpa [FailureType.covers] using above
      | inr below => exact .inr (FailureTypes.coveredBy_trans above parents below)

theorem FailureTypes.coveredBy_trans {ancestor middle : FailureType}
    (above : ancestor.covers middle = true) :
    (kinds : FailureTypes) → kinds.coveredBy middle = true → kinds.coveredBy ancestor = true
  | .nil, below => by simp [FailureTypes.coveredBy] at below
  | .cons first rest, below => by
      simp only [FailureTypes.coveredBy, Bool.or_eq_true] at below ⊢
      cases below with
      | inl below => exact .inl (FailureType.covers_trans above first below)
      | inr below => exact .inr (FailureTypes.coveredBy_trans above rest below)
end

end Reattempt
