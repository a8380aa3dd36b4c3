import Reattempt.Failure.Type
import Reattempt.Number.Scalar
import Reattempt.OrderedMap
import Reattempt.Text.Quoted

/-! Failures as objects. What a failure is never changes: its identity, its type,
its arguments and the cause it was created with. A cause attached later is kept
apart in a map of links, because it belongs to the object and is seen through every
holder of it. -/

namespace Reattempt

/-! ## Texts that may be refused -/

structure Refusal where
  type : FailureType
  message : String
  deriving DecidableEq, Repr

/-- A text that may turn out to be impossible to write. -/
abbrev Wording := Except Refusal String

theorem mapError_eq_ok_iff {ε : Type u} {ε' : Type v} {α : Type w} {result : Except ε α}
    {convert : ε → ε'} {value : α} :
    result.mapError convert = .ok value ↔ result = .ok value := by
  cases result with
  | ok other =>
      constructor <;>
        · intro same
          cases same
          rfl
  | error fault => constructor <;> nofun

namespace ArithmeticFault

def failureType : ArithmeticFault → FailureType
  | .logarithmDomain | .nanToWhole | .tooManyDigits => .value
  | .divisionByZero => .zeroDivision
  | _ => .overflow

def refusal (fault : ArithmeticFault) : Refusal :=
  { type := fault.failureType, message := fault.message }

end ArithmeticFault

def Scalar.wording (value : Scalar) : Wording :=
  value.written.mapError ArithmeticFault.refusal

def parenthesized (items : List String) : String :=
  match items with
  | [item] => "(" ++ item ++ ",)"
  | items => "(" ++ ", ".intercalate items ++ ")"

inductive Literal where
  | null
  | flag (value : Bool)
  | whole (value : Int)
  | text (value : String)
  deriving DecidableEq, Repr

namespace Literal

def shown : Literal → Wording
  | .null => .ok "None"
  | .flag value => .ok (if value then "True" else "False")
  | .whole value => (Scalar.whole value).wording
  | .text value => .ok (quoted value)

/-- Like `shown`, but a text stands without quotes. -/
def plain : Literal → Wording
  | .text value => .ok value
  | literal => literal.shown

end Literal

/-! ## Failures -/

/-- Tells failure objects apart. The objects of callers and those made by the engine
are numbered separately. -/
inductive Identity where
  | given (number : Nat)
  | made (number : Nat)
  deriving DecidableEq, Repr

/-- What a failure says. An interrupted wait knows the policy it belongs to and the
number of failed attempts. -/
inductive FailureContent where
  | arguments (arguments : List Literal)
  | interruptedWait (policyName : String) (attempt : Int)
  deriving DecidableEq, Repr

/-- How a failure of the caller's own type words itself. -/
structure OwnWording where
  text : Wording
  shown : Wording
  deriving Repr

/-- `trace` is what is printed of the calls that the failure went through, and
`context` the failure that was being handled when it was raised, unless that one is
kept out of reports. -/
structure Failure where
  identity : Identity
  type : FailureType
  content : FailureContent
  cause : Option Failure := none
  own : Option OwnWording := none
  context : Option Failure := none
  trace : List String := []
  deriving Repr

namespace FailureContent

def waitMessage (policyName : String) (attempt : Int) : String :=
  s!"Wait before attempt {attempt + 1} of retry '{policyName}' was interrupted"

/-- Whether the message can be written. Only that of an interrupted wait contains a
number that was computed. -/
def isWritable : FailureContent → Bool
  | .interruptedWait _ attempt => (Scalar.whole (attempt + 1)).isWritable
  | _ => true

end FailureContent

/-- The arguments of an error of the operating system: its number, what it means and
the files it is about. -/
structure SystemError where
  number : Literal
  meaning : Literal
  file : Literal
  otherFile : Literal

namespace SystemError

/-- The fourth argument has a meaning on other systems only. -/
def ofArguments? : List Literal → Option SystemError
  | [number, meaning] => some ⟨number, meaning, .null, .null⟩
  | [number, meaning, file] | [number, meaning, file, _] => some ⟨number, meaning, file, .null⟩
  | [number, meaning, file, _, otherFile] => some ⟨number, meaning, file, otherFile⟩
  | _ => none

def text (error : SystemError) : Wording := do
  let problem := s!"[Errno {← error.number.plain}] {← error.meaning.plain}"
  match error.file, error.otherFile with
  | .null, _ => return problem
  | file, .null => return s!"{problem}: {← file.shown}"
  | file, otherFile => return s!"{problem}: {← file.shown} -> {← otherFile.shown}"

/-- The files are kept apart from the arguments that are printed. -/
def arguments (error : SystemError) (given : List Literal) : List Literal :=
  if error.file = .null then given else [error.number, error.meaning]

end SystemError

namespace Failure

def isA (failure : Failure) (ancestor : FailureType) : Bool :=
  ancestor.covers failure.type

def sameObject (left right : Failure) : Bool :=
  left.identity = right.identity

/-- The number and the files that an error of the operating system is about, if it
was given any. -/
def systemError? (failure : Failure) (arguments : List Literal) : Option SystemError :=
  if failure.isA .system then SystemError.ofArguments? arguments else none

/-- The bare message. A missing key is quoted, so that an empty one can be seen. -/
def text (failure : Failure) : Wording :=
  match failure.own, failure.content with
  | some own, _ => own.text
  | none, .interruptedWait policyName attempt =>
      .ok (FailureContent.waitMessage policyName attempt)
  | none, .arguments [] => .ok ""
  | none, .arguments [argument] => if failure.isA .key then argument.shown else argument.plain
  | none, .arguments arguments =>
      match failure.systemError? arguments with
      | some error => error.text
      | none => return parenthesized (← arguments.mapM Literal.shown)

/-- The type and the arguments. The message is the only argument of an interrupted
wait. -/
def shown (failure : Failure) : Wording :=
  match failure.own, failure.content with
  | some own, _ => own.shown
  | none, .interruptedWait policyName attempt =>
      .ok (failure.type.name ++ "(" ++
        quoted (FailureContent.waitMessage policyName attempt) ++ ")")
  | none, .arguments arguments => do
      let printed := ((failure.systemError? arguments).map
        fun error => error.arguments arguments).getD arguments
      return failure.type.name ++ "(" ++ ", ".intercalate (← printed.mapM Literal.shown) ++ ")"

/-- Whether everything that is printed of the failure can be written. -/
def isWorded (failure : Failure) : Bool :=
  failure.text.isOk && failure.shown.isOk

def ofMessage (identity : Identity) (type : FailureType) (message : String) : Failure :=
  { identity, type, content := .arguments [.text message] }

def interruption (identity : Identity) (policyName : String) (attempt : Int) : Failure :=
  { identity, type := .waitInterrupted, content := .interruptedWait policyName attempt }

example : (ofMessage (.given 0) .key "").text = .ok "''" := by rfl

/-- What leaves a coroutine in place of the failure, which must not look like the end of
an iteration. -/
def ofCoroutine (identity : Identity) (failure : Failure) : Failure :=
  { ofMessage identity .runtime "coroutine raised StopIteration" with cause := some failure }

theorem exists_text {failure : Failure} (worded : failure.isWorded = true) :
    ∃ text, failure.text = .ok text := by
  rw [isWorded, Bool.and_eq_true] at worded
  cases written : failure.text with
  | ok text => exact ⟨text, rfl⟩
  | error refusal => cases written ▸ worded.1

theorem exists_shown {failure : Failure} (worded : failure.isWorded = true) :
    ∃ shown, failure.shown = .ok shown := by
  rw [isWorded, Bool.and_eq_true] at worded
  cases written : failure.shown with
  | ok shown => exact ⟨shown, rfl⟩
  | error refusal => cases written ▸ worded.2

/-! ## Failures that may be missing -/

def typeName? : Option Failure → String
  | none => "NoneType"
  | some failure => failure.type.name

def text? : Option Failure → Wording
  | none => Literal.null.shown
  | some failure => failure.text

def shown? : Option Failure → Wording
  | none => Literal.null.shown
  | some failure => failure.shown

theorem exists_text? {failure? : Option Failure} (worded : failure?.all isWorded = true) :
    ∃ text, text? failure? = .ok text := by
  cases failure? with
  | none => exact ⟨_, rfl⟩
  | some failure => exact exists_text worded

theorem exists_shown? {failure? : Option Failure} (worded : failure?.all isWorded = true) :
    ∃ shown, shown? failure? = .ok shown := by
  cases failure? with
  | none => exact ⟨_, rfl⟩
  | some failure => exact exists_shown worded

/-- What is said when a missing failure is raised. -/
def missingMessage : String := "exceptions must derive from BaseException"

end Failure

namespace Refusal

def toFailure (identity : Identity) (refusal : Refusal) : Failure :=
  .ofMessage identity refusal.type refusal.message

end Refusal

/-- The causes attached to failure objects after their creation. -/
abbrev CauseLinks := OrderedMap Identity Failure

/-- The current cause of a failure: the one attached last, else the one it was
created with. -/
def CauseLinks.causeOf (links : CauseLinks) (failure : Failure) : Option Failure :=
  match links.find? failure.identity with
  | some cause => some cause
  | none => failure.cause

namespace ArithmeticFault

/-- A fault says no more than its message, except that a power out of range also
has the number of a system error. -/
def content : ArithmeticFault → FailureContent
  | .powerTooLarge => .arguments [.whole 34, .text "Numerical result out of range"]
  | fault => .arguments [.text fault.message]

def toFailure (identity : Identity) (fault : ArithmeticFault) : Failure :=
  { identity, type := fault.failureType, content := fault.content }

theorem text_toFailure (identity : Identity) (fault : ArithmeticFault) :
    (fault.toFailure identity).text = .ok fault.message := by
  cases fault with
  | powerTooLarge =>
      have number : (Scalar.whole 34).wording = .ok "34" := by
        have short := Scalar.isWritable_whole (show 2 ≤ digitLimit by decide)
          (show (34 : Int).natAbs < Nat.pow 10 2 by decide)
        rw [Scalar.wording, Scalar.written_of_isWritable short]
        rfl
      have message : parenthesized ["34", quoted "Numerical result out of range"] =
          powerTooLarge.message := by decide +kernel
      simp only [toFailure, content, Failure.text, List.mapM_cons, List.mapM_nil, Literal.shown,
        number]
      exact congrArg Except.ok message
  | _ => rfl

end ArithmeticFault

end Reattempt
