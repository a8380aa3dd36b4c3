import Reattempt.Failure.Basic
import Reattempt.Json.Basic

/-! Values that pass through the library unread: arguments and results of
operations, and what log records carry. They can be printed, judged as true or
false, and turned into JSON. -/

namespace Reattempt

/-- A value of the caller. A `trace` holds what is printed of the calls that led to a
failure. Of it and of an `object` nothing else is known but how they are worded. -/
inductive Value where
  | null
  | flag (value : Bool)
  | number (value : Scalar)
  | text (value : String)
  | list (items : List Value)
  | tuple (items : List Value)
  | mapping (entries : List (String × Value))
  | failure (raised : Failure)
  | trace (printed : String) (calls : List String)
  | object (printed : Wording) (message : Wording := printed)
  deriving Repr

namespace Value

instance : Inhabited Value := ⟨.null⟩

mutual
def shown : Value → Wording
  | .null => .ok "None"
  | .flag value => .ok (if value then "True" else "False")
  | .number value => value.wording
  | .text value => .ok (quoted value)
  | .list items => return "[" ++ ", ".intercalate (← shownItems items) ++ "]"
  | .tuple items => return parenthesized (← shownItems items)
  | .mapping entries => return "\x7b" ++ ", ".intercalate (← shownEntries entries) ++ "\x7d"
  | .failure raised => raised.shown
  | .trace printed _ => .ok printed
  | .object printed _ => printed

def shownItems : List Value → Except Refusal (List String)
  | [] => .ok []
  | item :: rest => return (← shown item) :: (← shownItems rest)

def shownEntries : List (String × Value) → Except Refusal (List String)
  | [] => .ok []
  | (key, value) :: rest => return (quoted key ++ ": " ++ (← shown value)) :: (← shownEntries rest)
end

def plain : Value → Wording
  | .text value => .ok value
  | .failure raised => raised.text
  | .object _ message => message
  | value => value.shown

/-- Zero and everything empty count as false. -/
def isTrue : Value → Bool
  | .null => false
  | .flag value => value
  | .number value => !value.same (.whole 0)
  | .text value => !value.isEmpty
  | .list items => !items.isEmpty
  | .tuple items => !items.isEmpty
  | .mapping entries => !entries.isEmpty
  | .failure _ => true
  | .trace _ _ => true
  | .object _ _ => true

mutual
/-- Tuples become arrays; what JSON has no form for becomes its printed form. -/
def encode : Value → Except Refusal Json
  | .null => .ok .null
  | .flag value => .ok (.flag value)
  | .number value =>
      if value.isWritable then .ok (.number value)
      else .error ArithmeticFault.tooManyDigits.refusal
  | .text value => .ok (.text value)
  | .list items => return .array (← encodeItems items)
  | .tuple items => return .array (← encodeItems items)
  | .mapping entries => return .object (← encodeEntries entries)
  | .failure raised => return .text (← raised.shown)
  | .trace printed _ => .ok (.text printed)
  | .object printed _ => return .text (← printed)

def encodeItems : List Value → Except Refusal (List Json)
  | [] => .ok []
  | item :: rest => return (← encode item) :: (← encodeItems rest)

def encodeEntries : List (String × Value) → Except Refusal (List (String × Json))
  | [] => .ok []
  | (key, value) :: rest => return (key, ← encode value) :: (← encodeEntries rest)
end

theorem encode_number {value : Scalar} (writable : value.isWritable = true) :
    (number value).encode = .ok (.number value) := by
  rw [encode, if_pos writable]

mutual
/-- A JSON value as a value of the caller, in which halves of characters have no
place. -/
def ofJson : Json → Value
  | .null => .null
  | .flag value => .flag value
  | .number value => .number value
  | .text value => .text value
  | .codes value => .text (String.ofList (value.map Char.ofNat))
  | .array items => .list (itemsOfJson items)
  | .object fields => .mapping (entriesOfJson fields)

def itemsOfJson : List Json → List Value
  | [] => []
  | item :: rest => ofJson item :: itemsOfJson rest

def entriesOfJson : List (String × Json) → List (String × Value)
  | [] => []
  | (key, value) :: rest => (key, ofJson value) :: entriesOfJson rest
end

def typeName : Value → String
  | .null => "NoneType"
  | .flag _ => "bool"
  | .number (.whole _) => "int"
  | .number (.real _) => "float"
  | .text _ => "str"
  | .list _ => "list"
  | .tuple _ => "tuple"
  | .mapping _ => "dict"
  | .failure raised => raised.type.name
  | .trace _ _ => "traceback"
  | .object _ _ => "Opaque"

end Value

end Reattempt
