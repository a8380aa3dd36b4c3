import Reattempt.Proofs.Escapes

/-! The grammar of JSON texts, as RFC 8259 gives it, and the values that are written within it.
Blanks may surround every value and every key, a number has no leading zero, and a text holds no
control that is not escaped. Written values are texts of this grammar if they contain no double;
infinite doubles and those that are no numbers have no place in it. -/

namespace Reattempt

namespace Json.Grammar

/-! ## The grammar -/

def AreBlanks (characters : List Char) : Prop :=
  ∀ character ∈ characters, character ∈ [' ', '\t', '\n', '\r']

def AreDigits (characters : List Char) : Prop :=
  characters ≠ [] ∧ ∀ character ∈ characters, character.isDigit = true

structure IsWhole (characters : List Char) : Prop where
  areDigits : AreDigits characters
  noLeadingZero : characters = ['0'] ∨ characters.head? ≠ some '0'

inductive IsFraction : List Char → Prop
  | none : IsFraction []
  | some {digits : List Char} (areDigits : AreDigits digits) : IsFraction ('.' :: digits)

inductive IsExponent : List Char → Prop
  | none : IsExponent []
  | some {mark : Char} {sign digits : List Char} (isMark : mark ∈ ['e', 'E'])
      (isSign : sign ∈ [[], ['+'], ['-']]) (areDigits : AreDigits digits) :
      IsExponent (mark :: sign ++ digits)

inductive IsNumber : List Char → Prop
  | parts {sign whole fraction exponent : List Char} (isSign : sign ∈ [[], ['-']])
      (isWhole : IsWhole whole) (isFraction : IsFraction fraction)
      (isExponent : IsExponent exponent) : IsNumber (sign ++ whole ++ fraction ++ exponent)

def IsHexDigit (character : Char) : Prop :=
  character.isDigit = true ∨ ('a' ≤ character ∧ character ≤ 'f') ∨
    ('A' ≤ character ∧ character ≤ 'F')

/-- A part of a text that stands for a character, or for half of a surrogate pair. -/
inductive IsCharacter : List Char → Prop
  | itself {character : Char} (noControl : 0x20 ≤ character.toNat) (noQuote : character ≠ '\x22')
      (noBackslash : character ≠ '\\') : IsCharacter [character]
  | short {mark : Char} (isMark : mark ∈ ['\x22', '\\', '/', 'b', 'f', 'n', 'r', 't']) :
      IsCharacter ['\\', mark]
  | unit {first second third fourth : Char} (isFirst : IsHexDigit first)
      (isSecond : IsHexDigit second) (isThird : IsHexDigit third) (isFourth : IsHexDigit fourth) :
      IsCharacter ['\\', 'u', first, second, third, fourth]

inductive AreCharacters : List Char → Prop
  | nil : AreCharacters []
  | cons {first rest : List Char} (isCharacter : IsCharacter first)
      (areCharacters : AreCharacters rest) : AreCharacters (first ++ rest)

inductive IsText : List Char → Prop
  | quoted {characters : List Char} (areCharacters : AreCharacters characters) :
      IsText ('\x22' :: characters ++ ['\x22'])

mutual
inductive IsValue : List Char → Prop
  | null : IsValue "null".toList
  | yes : IsValue "true".toList
  | no : IsValue "false".toList
  | number {characters : List Char} (isNumber : IsNumber characters) : IsValue characters
  | text {characters : List Char} (isText : IsText characters) : IsValue characters
  | emptyArray {blanks : List Char} (areBlanks : AreBlanks blanks) :
      IsValue ('[' :: blanks ++ [']'])
  | array {items : List Char} (areItems : AreItems items) : IsValue ('[' :: items ++ [']'])
  | emptyObject {blanks : List Char} (areBlanks : AreBlanks blanks) :
      IsValue ('\x7b' :: blanks ++ ['\x7d'])
  | object {fields : List Char} (areFields : AreFields fields) :
      IsValue ('\x7b' :: fields ++ ['\x7d'])

/-- A value between blanks. A whole JSON text is nothing else. -/
inductive IsPadded : List Char → Prop
  | between {before value after : List Char} (blanksBefore : AreBlanks before)
      (isValue : IsValue value) (blanksAfter : AreBlanks after) :
      IsPadded (before ++ value ++ after)

inductive AreItems : List Char → Prop
  | last {item : List Char} (isItem : IsPadded item) : AreItems item
  | cons {item rest : List Char} (isItem : IsPadded item) (areItems : AreItems rest) :
      AreItems (item ++ ',' :: rest)

inductive IsField : List Char → Prop
  | pair {before key after value : List Char} (blanksBefore : AreBlanks before)
      (isKey : IsText key) (blanksAfter : AreBlanks after) (isValue : IsPadded value) :
      IsField (before ++ key ++ after ++ ':' :: value)

inductive AreFields : List Char → Prop
  | last {field : List Char} (isField : IsField field) : AreFields field
  | cons {field rest : List Char} (isField : IsField field) (areFields : AreFields rest) :
      AreFields (field ++ ',' :: rest)
end

private theorem areBlanks_nil : AreBlanks [] :=
  List.forall_mem_nil _

private theorem areBlanks_space : AreBlanks [' '] :=
  List.forall_mem_singleton.mpr List.mem_cons_self

theorem IsValue.padded {value : List Char} (isValue : IsValue value) : IsPadded value := by
  rw [← List.append_nil value, ← List.nil_append value]
  exact .between areBlanks_nil isValue areBlanks_nil

theorem IsValue.padded_space {value : List Char} (isValue : IsValue value) :
    IsPadded (' ' :: value) := by
  rw [← List.append_nil (' ' :: value)]
  exact .between areBlanks_space isValue areBlanks_nil

/-! ## Numbers -/

private theorem head?_toDigits (value : Nat) :
    Nat.toDigits 10 value = ['0'] ∨ (Nat.toDigits 10 value).head? ≠ some '0' := by
  induction value using Nat.strongRecOn with
  | _ value induction =>
      rw [Nat.toDigits_eq_if (by decide)]
      split
      · by_cases zero : value = 0
        · exact .inl (by rw [zero]; rfl)
        · exact .inr (by simpa using zero)
      · have positive : value / 10 ≠ 0 := by omega
        rcases induction (value / 10) (by omega) with single | other
        · have digits := congrArg (Nat.ofDigitChars 10 · 0) single
          rw [Nat.ofDigitChars_ten_toDigits] at digits
          exact absurd digits positive
        · rw [List.head?_append, Option.or_of_isSome (by simp [Nat.toDigits_ne_nil])]
          exact .inr other

theorem isWhole_toDigits (value : Nat) : IsWhole (Nat.toDigits 10 value) where
  areDigits :=
    ⟨Nat.toDigits_ne_nil, fun _ => Nat.isDigit_of_mem_toDigits (by decide) (by decide)⟩
  noLeadingZero := head?_toDigits value

theorem isNumber_signed {digits : List Char} (isWhole : IsWhole digits) (negative : Bool) :
    IsNumber (Binary64.signed negative digits) := by
  have isNumber (sign : List Char) (isSign : sign ∈ [[], ['-']]) : IsNumber (sign ++ digits) := by
    have parts := IsNumber.parts isSign isWhole .none .none
    rwa [List.append_nil, List.append_nil] at parts
  cases negative with
  | false => exact isNumber [] (by simp)
  | true => exact isNumber ['-'] (by simp)

/-! ## Texts -/

private theorem isHexDigit_digitChar {digit : Nat} (small : digit < 16) :
    IsHexDigit (Nat.digitChar digit) := by
  have all : ∀ digit < 16, IsHexDigit (Nat.digitChar digit) := by
    unfold IsHexDigit
    decide
  exact all digit small

private theorem isCharacter_escapeUnit {unit : Nat} (bound : unit < 0x10000) :
    IsCharacter (escapeUnit unit) := by
  have remainder (value : Nat) : IsHexDigit (Nat.digitChar (value % 16)) :=
    isHexDigit_digitChar (Nat.mod_lt value (by decide))
  rw [escapeUnit, hexDigits_four bound]
  exact .unit (isHexDigit_digitChar (by omega)) (remainder _) (remainder _) (remainder _)

theorem AreCharacters.append {first rest : List Char} (areFirst : AreCharacters first)
    (areRest : AreCharacters rest) : AreCharacters (first ++ rest) := by
  induction areFirst with
  | nil => exact areRest
  | cons isCharacter _ induction =>
      rw [List.append_assoc]
      exact .cons isCharacter induction

theorem IsCharacter.single {characters : List Char} (isCharacter : IsCharacter characters) :
    AreCharacters characters := by
  rw [← List.append_nil characters]
  exact .cons isCharacter .nil

private theorem areCharacters_flatMap {α : Type} {write : α → List Char} {items : List α}
    (each : ∀ item ∈ items, AreCharacters (write item)) : AreCharacters (items.flatMap write) := by
  induction items with
  | nil => exact .nil
  | cons item items induction =>
      rw [List.forall_mem_cons] at each
      exact each.1.append (induction each.2)

theorem areCharacters_escaped {character : Char} {written : List Char}
    (escaped : Escaped character written) : AreCharacters written := by
  cases escaped with
  | short mark stands => exact (IsCharacter.short (shortEscape?_eq_some stands).1).single
  | plain printed noQuote noBackslash =>
      exact (IsCharacter.itself printed.1 noQuote noBackslash).single
  | inUnits =>
      exact areCharacters_flatMap fun _ member =>
        (isCharacter_escapeUnit (units_bound member)).single

theorem isText_writeText (content : String) : IsText (writeText content) :=
  .quoted (areCharacters_flatMap fun character _ =>
    areCharacters_escaped (escaped_escape character))

end Json.Grammar

/-! ## Values without doubles -/

inductive Json.Integral : Json → Prop
  | null : Integral .null
  | flag (value : Bool) : Integral (.flag value)
  | number (value : Int) : Integral (.number (.whole value))
  | text (content : String) : Integral (.text content)
  | array {items : List Json} (each : ∀ item ∈ items, Integral item) : Integral (.array items)
  | object {fields : List (String × Json)} (each : ∀ field ∈ fields, Integral field.2) :
      Integral (.object fields)

namespace Json.Grammar

private theorem separated_of_each {IsPart AreParts : List Char → Prop}
    (last : ∀ part, IsPart part → AreParts part)
    (cons : ∀ part rest, IsPart part → AreParts rest → AreParts (part ++ ',' :: rest))
    {part : List Char} {parts : List (List Char)}
    (each : ∀ one ∈ part :: parts, IsPart one ∧ IsPart (' ' :: one)) :
    AreParts (separated (part :: parts)) ∧ AreParts (' ' :: separated (part :: parts)) := by
  induction parts generalizing part with
  | nil =>
      have isPart := each part List.mem_cons_self
      exact ⟨last _ isPart.1, last _ isPart.2⟩
  | cons next parts induction =>
      rw [List.forall_mem_cons] at each
      have rest := (induction each.2).2
      exact ⟨cons _ _ each.1.1 rest, cons _ _ each.1.2 rest⟩

private theorem isField_writeField {field : String × Json} (isValue : IsValue field.2.write) :
    IsField (writeField field) ∧ IsField (' ' :: writeField field) := by
  have isField (before : List Char) (blanksBefore : AreBlanks before) :
      IsField (before ++ writeField field) := by
    have pair := IsField.pair blanksBefore (isText_writeText field.1) areBlanks_nil
      isValue.padded_space
    rwa [List.append_nil, List.append_assoc] at pair
  exact ⟨isField [] areBlanks_nil, isField [' '] areBlanks_space⟩

theorem isValue_write {value : Json} (integral : value.Integral) : IsValue value.write := by
  induction integral with
  | null => exact .null
  | flag value =>
      cases value
      · exact .no
      · exact .yes
  | number value =>
      rw [write, Scalar.toList_text_whole]
      exact .number (isNumber_signed (isWhole_toDigits _) _)
  | text content => exact .text (isText_writeText content)
  | @array items each induction =>
      rw [write, writeItems_eq_map]
      cases items with
      | nil => exact .emptyArray areBlanks_nil
      | cons item items =>
          refine .array (separated_of_each (fun _ => .last) (fun _ _ => .cons) ?_).1
          intro part member
          rw [← List.map_cons] at member
          rcases List.mem_map.mp member with ⟨item, listed, rfl⟩
          exact ⟨(induction item listed).padded, (induction item listed).padded_space⟩
  | @object fields each induction =>
      rw [write, writeFields_eq_map]
      cases fields with
      | nil => exact .emptyObject areBlanks_nil
      | cons field fields =>
          refine .object (separated_of_each (fun _ => .last) (fun _ _ => .cons) ?_).1
          intro part member
          rw [← List.map_cons] at member
          rcases List.mem_map.mp member with ⟨field, listed, rfl⟩
          exact isField_writeField (induction field listed)

end Json.Grammar

end Reattempt
