import Reattempt.Log.Directive

/-! Filling arguments into a message. A percent sign begins a directive: a key in
parentheses, flags, a width, a precision and the letter of a conversion, of which only
the letter must be given. Two percent signs stand for one. What is filled in is one
value: the items of a tuple are the arguments, any other value is the only argument. -/

namespace Reattempt

/-- The arguments that are left, and the value that keys are looked up in, if there can
be keys. -/
structure Supply where
  keyed : Option Value
  rest : List Value

namespace Supply

/-- A list has no keys either, but that is noticed only when one is looked up. -/
def ofValue : Value → Supply
  | .tuple items => { keyed := none, rest := items }
  | .list items => { keyed := some (.list items), rest := [.list items] }
  | .mapping entries => { keyed := some (.mapping entries), rest := [.mapping entries] }
  | value => { keyed := none, rest := [value] }

def next (supply : Supply) : Except TemplateError (Value × Supply) :=
  match supply.rest with
  | [] => .error .tooFewArguments
  | first :: rest => .ok (first, { supply with rest })

/-- What is found under a key is the only argument from there on. -/
def select (supply : Supply) (key : String) : Except TemplateError Supply :=
  match supply.keyed with
  | some (.mapping entries) =>
      match entries.find? fun entry => entry.1 = key with
      | some (_, value) => .ok { supply with rest := [value] }
      | none => .error (.missingKey key)
  | _ => .error .keyIntoList

/-- All arguments must be used unless they can be looked up by key. -/
def check (supply : Supply) : Except TemplateError Unit :=
  if supply.keyed.isNone && !supply.rest.isEmpty then .error .tooManyArguments else .ok ()

end Supply

namespace Template

/-- What has been read last: a plain character, a percent sign, a part of a key after so
many open parentheses, or a part of a directive. -/
inductive Stage where
  | plain
  | percent
  | key (depth : Nat) (name : List Char)
  | flags (directive : Directive)
  | width (directive : Directive)
  | givenWidth (directive : Directive)
  | point (directive : Directive)
  | precision (directive : Directive)
  | givenPrecision (directive : Directive)
  | size (directive : Directive)

structure Filling where
  supply : Supply
  index : Nat := 0
  stage : Stage := .plain
  filled : List Nat := []

namespace Filling

def write (filling : Filling) (text : List Nat) : Filling :=
  { filling with stage := .plain, filled := text.reverseAux filling.filled }

def enter (filling : Filling) (stage : Stage) : Except TemplateError Filling :=
  .ok { filling with stage }

/-! ## The parts of a directive, from its end to its beginning -/

def atConversion (filling : Filling) (directive : Directive) (character : Char) :
    Except TemplateError Filling := do
  let (value, supply) ← filling.supply.next
  return { filling with supply }.write (← directive.convert character filling.index value)

/-- A letter for the size of a number means nothing. -/
def atSize (filling : Filling) (directive : Directive) (character : Char) :
    Except TemplateError Filling :=
  if character ∈ ['h', 'l', 'L'] then filling.enter (.size directive)
  else filling.atConversion directive character

def wholeArgument (filling : Filling) : Except TemplateError (Int × Filling) := do
  let (value, supply) ← filling.supply.next
  match value with
  | .flag value => return (if value then 1 else 0, { filling with supply })
  | .number (.whole value) => return (value, { filling with supply })
  | _ => .error .sizeNotWhole

def digit? (character : Char) : Option Nat :=
  if character.isDigit then some (character.toNat - '0'.toNat) else none

def grow (bound : Nat) (fault : TemplateError) (number digit : Nat) : Except TemplateError Nat :=
  if (bound - digit) / 10 < number then .error fault else .ok (10 * number + digit)

def precisionLimit : Nat := Nat.pow 2 31 - 1

def widthLimit : Nat := Nat.pow 2 63 - 1

/-- The first character after the point. A negative argument counts as zero. -/
def atPrecision (filling : Filling) (directive : Directive) (character : Char) :
    Except TemplateError Filling := do
  if character = '*' then
    let (number, filling) ← filling.wholeArgument
    if number < -precisionLimit - 1 ∨ precisionLimit < number then throw .precisionOutOfRange
    filling.enter (.givenPrecision { directive with precision := some number.toNat })
  else
    match digit? character with
    | some digit => filling.enter (.precision { directive with precision := some digit })
    | none => filling.atSize directive character

def atPoint (filling : Filling) (directive : Directive) (character : Char) :
    Except TemplateError Filling :=
  if character = '.' then filling.enter (.point { directive with precision := some 0 })
  else filling.atSize directive character

/-- A negative width means that the text stands to the left. -/
def atWidth (filling : Filling) (directive : Directive) (character : Char) :
    Except TemplateError Filling := do
  if character = '*' then
    let (number, filling) ← filling.wholeArgument
    if number < -widthLimit - 1 ∨ widthLimit < number then throw .widthOutOfRange
    filling.enter (.givenWidth
      { directive with width := number.natAbs, toLeft := directive.toLeft || number < 0 })
  else
    match digit? character with
    | some digit => filling.enter (.width { directive with width := digit })
    | none => filling.atPoint directive character

def atFlags (filling : Filling) (directive : Directive) (character : Char) :
    Except TemplateError Filling :=
  match directive.flag? character with
  | some directive => filling.enter (.flags directive)
  | none => filling.atWidth directive character

/-- A key ends at the parenthesis that closes its first one. -/
def atKey (filling : Filling) (depth : Nat) (name : List Char) (character : Char) :
    Except TemplateError Filling := do
  if character = ')' ∧ depth = 0 then
    let supply ← filling.supply.select (String.ofList name)
    { filling with supply }.enter (.flags {})
  else
    let depth := if character = '(' then depth + 1 else if character = ')' then depth - 1 else depth
    filling.enter (.key depth (name ++ [character]))

def atPercent (filling : Filling) (character : Char) : Except TemplateError Filling :=
  if character = '%' then .ok (filling.write ['%'.toNat])
  else if character = '(' then
    if filling.supply.keyed.isNone then .error .noKeys else filling.enter (.key 0 [])
  else filling.atFlags {} character

/-! ## Whole templates -/

def read (filling : Filling) (character : Char) : Except TemplateError Filling :=
  match filling.stage with
  | .plain =>
      if character = '%' then filling.enter .percent else .ok (filling.write [character.toNat])
  | .percent => filling.atPercent character
  | .key depth name => filling.atKey depth name character
  | .flags directive => filling.atFlags directive character
  | .width directive =>
      match digit? character with
      | some digit => do
          let width ← grow widthLimit .widthTooLarge directive.width digit
          filling.enter (.width { directive with width })
      | none => filling.atPoint directive character
  | .givenWidth directive => filling.atPoint directive character
  | .point directive => filling.atPrecision directive character
  | .precision directive =>
      match digit? character with
      | some digit => do
          let precision ← grow precisionLimit .precisionTooLarge (directive.precision.getD 0) digit
          filling.enter (.precision { directive with precision := some precision })
      | none => filling.atSize directive character
  | .givenPrecision directive => filling.atSize directive character
  | .size directive => filling.atConversion directive character

def advance (filling : Filling) (character : Char) : Except TemplateError Filling := do
  let next ← filling.read character
  return { next with index := filling.index + 1 }

def finish (filling : Filling) : Except TemplateError (List Nat) :=
  match filling.stage with
  | .plain => do
      filling.supply.check
      return filling.filled.reverse
  | .key _ _ => .error .incompleteKey
  | _ => .error .incomplete

end Filling

/-- Fill a value into a template. Nothing is filled in, and the template is the
message as it stands, when the value counts as false. The message is given by its
codes, since a directive may ask for half of a surrogate pair. -/
def fill (template : String) (given : Value) : Except TemplateError (List Nat) :=
  if given.isTrue then do
    let filling ← template.toList.foldlM Filling.advance { supply := .ofValue given }
    filling.finish
  else .ok (template.toList.map Char.toNat)

example : (fill "%(a)s: %%" (.mapping [("a", .text "b")])).toOption =
    some ("b: %".toList.map Char.toNat) := by
  decide +kernel

example : (fill "%-4s|%+03d" (.tuple [.text "a", .number (.whole 5)])).toOption =
    some ("a   |+05".toList.map Char.toNat) := by
  decide +kernel

end Template

end Reattempt
