import Reattempt.Log.Record
import Reattempt.Proofs.Escapes

/-! A record is one line. Whatever it says, only the characters from the space to the tilde are
written, between two braces. None of them ends a line, so nothing that is logged can begin
another record. -/

namespace Reattempt

def IsPrinted (character : Char) : Prop :=
  0x20 ≤ character.toNat ∧ character.toNat ≤ 0x7E

instance : DecidablePred IsPrinted :=
  fun character => inferInstanceAs (Decidable (0x20 ≤ character.toNat ∧ character.toNat ≤ 0x7E))

def Printed (characters : List Char) : Prop :=
  ∀ character ∈ characters, IsPrinted character

instance (characters : List Char) : Decidable (Printed characters) :=
  List.decidableBAll IsPrinted characters

namespace Printed

theorem nil : Printed [] :=
  List.forall_mem_nil _

theorem cons {first : Char} {rest : List Char} (isPrinted : IsPrinted first)
    (printed : Printed rest) : Printed (first :: rest) :=
  List.forall_mem_cons.mpr ⟨isPrinted, printed⟩

theorem append {left right : List Char} (printedLeft : Printed left)
    (printedRight : Printed right) : Printed (left ++ right) :=
  List.forall_mem_append.mpr ⟨printedLeft, printedRight⟩

theorem flatMap {α : Type} {write : α → List Char} {items : List α}
    (each : ∀ item ∈ items, Printed (write item)) : Printed (items.flatMap write) :=
  List.forall_mem_flatMap.mpr each

theorem take {characters : List Char} (printed : Printed characters) (count : Nat) :
    Printed (characters.take count) :=
  fun _ member => printed _ (List.mem_of_mem_take member)

theorem drop {characters : List Char} (printed : Printed characters) (count : Nat) :
    Printed (characters.drop count) :=
  fun _ member => printed _ (List.mem_of_mem_drop member)

end Printed

/-! ## Numbers -/

private theorem isPrinted_of_isDigit {character : Char} (isDigit : character.isDigit = true) :
    IsPrinted character := by
  have digit : 48 ≤ character.toNat ∧ character.toNat ≤ 57 := Char.isDigit_iff_toNat.mp isDigit
  unfold IsPrinted
  omega

theorem printed_toDigits (value : Nat) : Printed (Nat.toDigits 10 value) :=
  fun _ member => isPrinted_of_isDigit (Nat.isDigit_of_mem_toDigits (by decide) (by decide) member)

private theorem printed_zeros (count : Nat) : Printed (zeros count) := by
  intro character member
  rw [List.eq_of_mem_replicate member]
  decide

theorem printed_paddedDigits (width value : Nat) : Printed (paddedDigits width value) :=
  (printed_zeros _).append (printed_toDigits value)

namespace Decimal

private theorem printed_positionalText {digits : List Char} (printed : Printed digits)
    (leading : Int) : Printed (positionalText digits leading) := by
  unfold positionalText
  split
  · exact .cons (by decide) (.cons (by decide) ((printed_zeros _).append printed))
  · refine ((printed.take _).append (printed_zeros _)).append (.cons (by decide) ?_)
    split
    · exact .cons (by decide) .nil
    · exact printed.drop _

private theorem printed_exponentialText (width : Nat) {digits : List Char}
    (printed : Printed digits) (leading : Int) : Printed (exponentialText width digits leading) := by
  unfold exponentialText
  refine ((printed.take 1).append ?_).append (.cons (by decide) (.cons ?_ ?_))
  · split
    · exact .nil
    · exact .cons (by decide) (printed.drop 1)
  · split <;> decide
  · exact printed_paddedDigits width _

theorem printed_text (style : DecimalStyle) (decimal : Decimal) : Printed (decimal.text style) := by
  have printed := printed_toDigits decimal.digits
  unfold text
  dsimp only
  split
  · exact printed_positionalText printed _
  · exact printed_exponentialText _ printed _

end Decimal

theorem printed_signed (negative : Bool) {magnitude : List Char} (printed : Printed magnitude) :
    Printed (Binary64.signed negative magnitude) := by
  cases negative with
  | false => exact printed
  | true => exact .cons (by decide) printed

theorem printed_text_real (value : Binary64) : Printed (value.text .json).toList := by
  cases value with
  | nan => decide
  | infinite negative =>
      rw [Binary64.text, String.toList_ofList]
      exact printed_signed negative (by decide)
  | finite negative significand exponent =>
      rw [Binary64.text, String.toList_ofList]
      exact printed_signed negative (Decimal.printed_text _ _)

theorem printed_text (value : Scalar) : Printed (value.text .json).toList := by
  cases value with
  | whole value =>
      rw [Scalar.toList_text_whole]
      exact printed_signed _ (printed_toDigits _)
  | real value => exact printed_text_real _

namespace Json

/-! ## Texts and values -/

private theorem isPrinted_digitChar (digit : Nat) : IsPrinted (Nat.digitChar digit) := by
  by_cases small : digit < 16
  · have all : ∀ digit < 16, IsPrinted (Nat.digitChar digit) := by decide
    exact all digit small
  · rw [Nat.digitChar_eq_star.mpr (Nat.le_of_not_lt small)]
    decide

private theorem printed_hexDigits (width value : Nat) : Printed (hexDigits width value) := by
  refine .append (printed_zeros _) ?_
  induction value using Nat.strongRecOn with
  | _ value induction =>
      rw [Nat.toDigits_eq_if (by decide)]
      split
      · exact .cons (isPrinted_digitChar value) .nil
      · exact (induction (value / 16) (by omega)).append (.cons (isPrinted_digitChar _) .nil)

private theorem printed_escapeUnit (unit : Nat) : Printed (escapeUnit unit) :=
  .cons (by decide) (.cons (by decide) (printed_hexDigits 4 unit))

theorem printed_escaped {character : Char} {written : List Char}
    (escaped : Escaped character written) : Printed written := by
  cases escaped with
  | short mark stands =>
      have marks : Printed ['\x22', '\\', '/', 'b', 'f', 'n', 'r', 't'] := by decide
      exact .cons (by decide) (.cons (marks mark (shortEscape?_eq_some stands).1) .nil)
  | plain printed => exact .cons printed .nil
  | inUnits => exact .flatMap fun unit _ => printed_escapeUnit unit

theorem printed_writeText (content : String) : Printed (writeText content) :=
  .append (.cons (by decide) (.flatMap fun character _ =>
    printed_escaped (escaped_escape character))) (by decide)

theorem printed_writeCodes (codes : List Nat) : Printed (writeCodes codes) := by
  refine .append (.cons (by decide) (.flatMap fun code _ => ?_)) (by decide)
  unfold escapeCode
  split
  · exact printed_escaped (escaped_escape _)
  · exact printed_escapeUnit code

private theorem printed_separated {parts : List (List Char)} (each : ∀ part ∈ parts, Printed part) :
    Printed (separated parts) := by
  induction parts with
  | nil => exact .nil
  | cons part parts induction =>
      rw [List.forall_mem_cons] at each
      cases parts with
      | nil => exact each.1
      | cons next parts =>
          exact each.1.append (.cons (by decide) (.cons (by decide) (induction each.2)))

mutual
theorem printed_write : (value : Json) → Printed value.write
  | .null => by decide
  | .flag value => by cases value <;> decide
  | .number value => printed_text value
  | .text content => printed_writeText content
  | .codes value => printed_writeCodes value
  | .array items =>
      .append (.cons (by decide) (printed_separated (printed_writeItems items))) (by decide)
  | .object fields =>
      .append (.cons (by decide) (printed_separated (printed_writeFields fields))) (by decide)

theorem printed_writeItems : (items : List Json) → ∀ part ∈ writeItems items, Printed part
  | [] => List.forall_mem_nil _
  | item :: rest => List.forall_mem_cons.mpr ⟨printed_write item, printed_writeItems rest⟩

theorem printed_writeFields :
    (fields : List (String × Json)) → ∀ part ∈ writeFields fields, Printed part
  | [] => List.forall_mem_nil _
  | (key, value) :: rest =>
      have printed : Printed (writeText key ++ ':' :: ' ' :: write value) :=
        (printed_writeText key).append (.cons (by decide) (.cons (by decide) (printed_write value)))
      List.forall_mem_cons.mpr ⟨printed, printed_writeFields rest⟩
end

end Json

/-! ## Lines -/

namespace LogRecord

/-- A line that stands for itself among the lines of a log. -/
structure OneLine (line : String) : Prop where
  printed : ∀ character ∈ line.toList, 0x20 ≤ character.toNat ∧ character.toNat ≤ 0x7E
  braced : ∃ inner, line.toList = '\x7b' :: inner ++ ['\x7d']
  /-- Whatever ends a line, as long as no printed character does: the lines of a log are those
  before this one, this one, and those after it. -/
  alone (ends : Char → Bool) (newline : ends '\n' = true)
      (unprinted : ∀ character, IsPrinted character → ends character = false)
      (before after : List Char) :
    (before ++ '\n' :: (line.toList ++ '\n' :: after)).splitOnP ends =
      before.splitOnP ends ++ line.toList :: after.splitOnP ends

theorem oneLine_object (fields : List (String × Json)) : OneLine (Json.object fields).line := by
  have printed : Printed (Json.object fields).line.toList := by
    rw [Json.line, String.toList_ofList]
    exact Json.printed_write _
  refine ⟨printed, ?_, ?_⟩
  · rw [Json.line, String.toList_ofList, Json.write]
    exact ⟨_, rfl⟩
  · intro ends newline unprinted before after
    have unbroken : ∀ character ∈ (Json.object fields).line.toList, ends character = false :=
      fun character member => unprinted character (printed character member)
    rw [List.splitOnP_append_cons _ _ newline,
      List.splitOnP_append_cons_of_forall_mem unbroken _ newline]

theorem line?_oneLine (record : LogRecord) (correlation : Option String) (line : String)
    (written : record.line? correlation = .ok line) : OneLine line := by
  unfold line? at written
  generalize record.fields correlation = composed at written
  rcases composed with _ | fields
  · cases written
  · rw [← Except.ok.inj written]
    exact oneLine_object fields.entries

/-! ## A message that looks like another record -/

namespace Forged

def message : String := "done\n\x7b\"level\": \"ERROR\"\x7d\u2028😀"

def trace : Value :=
  .trace "<traceback>" ["  File \"orders.py\", line 7, in close\n    send(order)\n"]

def record : LogRecord where
  logger := .text "shop"
  levelName := .text "INFO"
  template := .text "order %5d: %-9s"
  given := .tuple [.number (.whole 7), .text message]
  created := .number (.whole 0)
  milliseconds := .number (.whole 0)
  module := .text "orders"
  function := .text "close"
  line := .number (.whole 7)
  thread := .text "worker\r\n1"
  handled := .tuple [.null, .failure (.ofMessage (.given 0) .value message), trace]
  extra := ⟨[("note\n", .list [.object (.ok "<\x1b[31m>") (.ok message), .text message])]⟩

end Forged

theorem line?_oneLine_forged :
    ∃ line, Forged.record.line? none = .ok line ∧
      ('\n' :: (line.toList ++ ['\n'])).splitOnP (· == '\n') = [[], line.toList, []] := by
  have composed : (Forged.record.line? none).isOk = true := by decide +kernel
  rcases written : Forged.record.line? none with error | line
  · rw [written] at composed
    cases composed
  · have unprinted (character : Char) (isPrinted : IsPrinted character) :
        (character == '\n') = false := by
      refine beq_eq_false_iff_ne.mpr ?_
      rintro rfl
      exact absurd isPrinted (by decide)
    exact ⟨line, rfl, (line?_oneLine _ _ _ written).alone _ rfl unprinted [] []⟩

end LogRecord

end Reattempt
