import Reattempt.Number.Scalar
import Reattempt.Text.Quoted

/-! JSON values with their fields in order, and their text on one line of ASCII. -/

namespace Reattempt

/-- The `codes` are a text too, with halves of surrogate pairs that are no characters by
themselves. -/
inductive Json where
  | null
  | flag (value : Bool)
  | number (value : Scalar)
  | text (value : String)
  | codes (value : List Nat)
  | array (items : List Json)
  | object (fields : List (String × Json))
  deriving Repr

namespace Json

instance : Inhabited Json := ⟨.null⟩

/-! ## Texts -/

/-- The one or two 16-bit units that encode a code point. -/
def units (code : Nat) : List Nat :=
  if code < 0x10000 then [code]
  else [0xD800 + (code - 0x10000) / 0x400, 0xDC00 + (code - 0x10000) % 0x400]

def escapeUnit (unit : Nat) : List Char :=
  '\\' :: 'u' :: hexDigits 4 unit

/-- The ASCII characters from the space to the tilde stand for themselves, except
the quote and the backslash. -/
def escape (character : Char) : List Char :=
  if character = '\x22' ∨ character = '\\' then ['\\', character]
  else if character = '\n' then ['\\', 'n']
  else if character = '\r' then ['\\', 'r']
  else if character = '\t' then ['\\', 't']
  else if character = '\x08' then ['\\', 'b']
  else if character = '\x0c' then ['\\', 'f']
  else if 0x20 ≤ character.toNat ∧ character.toNat ≤ 0x7E then [character]
  else (units character.toNat).flatMap escapeUnit

def writeText (value : String) : List Char :=
  '\x22' :: value.toList.flatMap escape ++ ['\x22']

def escapeCode (code : Nat) : List Char :=
  if code.isValidChar then escape (Char.ofNat code) else escapeUnit code

def writeCodes (value : List Nat) : List Char :=
  '\x22' :: value.flatMap escapeCode ++ ['\x22']

def ofCodes (value : List Nat) : Json :=
  if value.all fun code => code.isValidChar then .text (String.ofList (value.map Char.ofNat))
  else .codes value

example : String.ofList (writeText "a\n😀") = "\"a\\n\\ud83d\\ude00\"" := by decide +kernel

/-! ## Values -/

def separated : List (List Char) → List Char
  | [] => []
  | [part] => part
  | part :: rest => part ++ ',' :: ' ' :: separated rest

mutual
def write : Json → List Char
  | .null => "null".toList
  | .flag value => (if value then "true" else "false").toList
  | .number value => (value.text .json).toList
  | .text value => writeText value
  | .codes value => writeCodes value
  | .array items => '[' :: separated (writeItems items) ++ [']']
  | .object fields => '\x7b' :: separated (writeFields fields) ++ ['\x7d']

def writeItems : List Json → List (List Char)
  | [] => []
  | item :: rest => write item :: writeItems rest

def writeFields : List (String × Json) → List (List Char)
  | [] => []
  | (key, value) :: rest => (writeText key ++ ':' :: ' ' :: write value) :: writeFields rest
end

theorem writeItems_eq_map (items : List Json) : writeItems items = items.map write := by
  induction items with
  | nil => rfl
  | cons item rest induction => rw [writeItems, induction, List.map_cons]

def writeField (field : String × Json) : List Char :=
  writeText field.1 ++ ':' :: ' ' :: write field.2

theorem writeFields_eq_map (fields : List (String × Json)) :
    writeFields fields = fields.map writeField := by
  induction fields with
  | nil => rfl
  | cons field rest induction =>
      rw [writeFields, induction, List.map_cons]
      rfl

def line (value : Json) : String :=
  String.ofList value.write

example : line (.object [("a", .array [.number (.whole 1), .null]), ("b", .flag true)]) =
    "\x7b\"a\": [1, null], \"b\": true\x7d" := by decide +kernel

/-! ## Access -/

def field? (value : Json) (key : String) : Option Json :=
  match value with
  | .object fields => (fields.find? fun entry => entry.1 == key).map Prod.snd
  | _ => none

def fields : Json → List (String × Json)
  | .object entries => entries
  | _ => []

def items : Json → List Json
  | .array entries => entries
  | _ => []

end Json

end Reattempt
