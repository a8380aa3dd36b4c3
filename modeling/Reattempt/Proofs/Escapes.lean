import Reattempt.Json.Reader

/-! Texts are read as they were written. Every character is escaped into the 16-bit units that
encode it, or stands for itself; the reader finds the same units and joins them. -/

namespace Reattempt

/-! ## Hexadecimal digits -/

private theorem hexDigits_succ {width : Nat} (positive : 0 < width) (value : Nat) :
    hexDigits (width + 1) value = hexDigits width (value / 16) ++ [Nat.digitChar (value % 16)] := by
  by_cases single : value < 16
  · have quotient : value / 16 = 0 := by omega
    have remainder : value % 16 = value := Nat.mod_eq_of_lt single
    rw [quotient, remainder, hexDigits, hexDigits, Nat.toDigits_of_lt_base single,
      Nat.toDigits_zero]
    rcases width with _ | width
    · cases positive
    · simp [List.replicate_succ']
  · have digits := Nat.toDigits_of_base_le (b := 16) (by decide) (Nat.le_of_not_lt single)
    simp [hexDigits, digits]

theorem hexDigits_four {value : Nat} (small : value < 0x10000) :
    hexDigits 4 value =
      [Nat.digitChar (value / 0x1000), Nat.digitChar (value / 0x100 % 16),
        Nat.digitChar (value / 0x10 % 16), Nat.digitChar (value % 16)] := by
  have first : value / 0x1000 < 16 := by omega
  have single : hexDigits 1 (value / 0x1000) = [Nat.digitChar (value / 0x1000)] := by
    simp [hexDigits, Nat.toDigits_of_lt_base first]
  rw [hexDigits_succ (by decide), hexDigits_succ (by decide), hexDigits_succ (by decide)]
  simp only [Nat.div_div_eq_div_mul, Nat.reduceMul, single, List.cons_append, List.nil_append]

namespace Json

private theorem hexValue?_digitChar {digit : Nat} (small : digit < 16) :
    hexValue? (Nat.digitChar digit) = some digit := by
  have all : ∀ digit < 16, hexValue? (Nat.digitChar digit) = some digit := by decide
  exact all digit small

/-! ## Units -/

private theorem readUnits_escapeUnit {unit : Nat} (small : unit < 0x10000) (rest : List Char) :
    readUnits (escapeUnit unit ++ rest) = (readUnits rest).map (Prod.map ([unit] ++ ·) id) := by
  have value : unit? (Nat.digitChar (unit / 0x1000)) (Nat.digitChar (unit / 0x100 % 16))
      (Nat.digitChar (unit / 0x10 % 16)) (Nat.digitChar (unit % 16)) = some unit := by
    have first : unit / 0x1000 < 16 := by omega
    simp only [unit?, hexValue?_digitChar first, hexValue?_digitChar (Nat.mod_lt _ (by decide)),
      Option.bind_eq_bind, Option.bind_some, Option.pure_def, Option.some.injEq]
    omega
  rw [escapeUnit, hexDigits_four small]
  simp only [List.cons_append, List.nil_append, readUnits, value]
  cases readUnits rest <;> rfl

private theorem readUnits_shortEscape {mark : Char} {unit : Nat}
    (short : shortEscape? mark = some unit) (rest : List Char) :
    readUnits ('\\' :: mark :: rest) = (readUnits rest).map (Prod.map ([unit] ++ ·) id) := by
  rw [readUnits.eq_4]
  · rw [short]
    cases readUnits rest <;> rfl
  · rintro - - - - - rfl -
    cases short

private theorem readUnits_plain {character : Char} (printed : 0x20 ≤ character.toNat)
    (noQuote : character ≠ '\x22') (noBackslash : character ≠ '\\') (rest : List Char) :
    readUnits (character :: rest) =
      (readUnits rest).map (Prod.map ([character.toNat] ++ ·) id) := by
  rw [readUnits.eq_5 _ _ noQuote]
  · rw [if_neg (Nat.not_lt.mpr printed)]
    cases readUnits rest <;> rfl
  · rintro - - - - - backslash -
    exact noBackslash backslash
  · rintro - - backslash -
    exact noBackslash backslash

private theorem units_of_small {code : Nat} (small : code < 0x10000) : units code = [code] :=
  if_pos small

private theorem toNat_bound (character : Char) : character.toNat < 0x110000 := by
  have valid : character.toNat.isValidChar := character.valid
  unfold Nat.isValidChar at valid
  omega

theorem units_bound {character : Char} {unit : Nat} (member : unit ∈ units character.toNat) :
    unit < 0x10000 := by
  have bound := toNat_bound character
  unfold units at member
  split at member
  · next small =>
      rw [List.mem_singleton.mp member]
      exact small
  · simp only [List.mem_cons, List.not_mem_nil, or_false] at member
    omega

/-! ## Escapes -/

theorem shortEscape?_eq_some {mark : Char} {unit : Nat} (stands : shortEscape? mark = some unit) :
    mark ∈ ['\x22', '\\', '/', 'b', 'f', 'n', 'r', 't'] ∧ unit < 0x80 := by
  unfold shortEscape? at stands
  split at stands <;> simp_all <;> omega

inductive Escaped (character : Char) : List Char → Prop
  | short (mark : Char) (stands : shortEscape? mark = some character.toNat) :
      Escaped character ['\\', mark]
  | plain (printed : 0x20 ≤ character.toNat ∧ character.toNat ≤ 0x7E)
      (noQuote : character ≠ '\x22') (noBackslash : character ≠ '\\') :
      Escaped character [character]
  | inUnits : Escaped character ((units character.toNat).flatMap escapeUnit)

theorem escaped_escape (character : Char) : Escaped character (escape character) := by
  unfold escape
  split
  · next marked =>
      rcases marked with rfl | rfl
      · exact .short '\x22' rfl
      · exact .short '\\' rfl
  · next unmarked =>
      split
      · next newline => exact newline ▸ .short 'n' rfl
      split
      · next carriage => exact carriage ▸ .short 'r' rfl
      split
      · next tab => exact tab ▸ .short 't' rfl
      split
      · next backspace => exact backspace ▸ .short 'b' rfl
      split
      · next feed => exact feed ▸ .short 'f' rfl
      split
      · next printed =>
          exact .plain printed (fun quote => unmarked (.inl quote))
            (fun backslash => unmarked (.inr backslash))
      · exact .inUnits

private theorem readUnits_escapeUnits {codes : List Nat} (bound : ∀ unit ∈ codes, unit < 0x10000)
    (rest : List Char) :
    readUnits (codes.flatMap escapeUnit ++ rest) =
      (readUnits rest).map (Prod.map (codes ++ ·) id) := by
  induction codes with
  | nil =>
      rw [List.flatMap_nil, List.nil_append]
      cases readUnits rest <;> rfl
  | cons unit codes induction =>
      rw [List.forall_mem_cons] at bound
      rw [List.flatMap_cons, List.append_assoc, readUnits_escapeUnit bound.1, induction bound.2]
      cases readUnits rest <;> rfl

private theorem readUnits_escaped {character : Char} {written : List Char}
    (escaped : Escaped character written) (rest : List Char) :
    readUnits (written ++ rest) =
      (readUnits rest).map (Prod.map (units character.toNat ++ ·) id) := by
  cases escaped with
  | short mark stands =>
      have small := (shortEscape?_eq_some stands).2
      rw [units_of_small (by omega)]
      exact readUnits_shortEscape stands rest
  | plain printed noQuote noBackslash =>
      rw [units_of_small (by omega)]
      exact readUnits_plain printed.1 noQuote noBackslash rest
  | inUnits => exact readUnits_escapeUnits (fun _ => units_bound) rest

private theorem joinUnits_units (character : Char) (codes : List Nat) :
    joinUnits (units character.toNat ++ codes) = (joinUnits codes).map (character :: ·) := by
  have bound := toNat_bound character
  have itself : Char.ofNat character.toNat = character := Char.ofNat_toNat character
  by_cases small : character.toNat < 0x10000
  · have valid : character.toNat.isValidChar := character.valid
    rw [units_of_small small]
    cases codes with
    | nil => simp [joinUnits, valid, itself]
    | cons low rest =>
        simp only [List.cons_append, List.nil_append, joinUnits.eq_3, if_pos valid, itself]
        cases joinUnits (low :: rest) <;> rfl
  · have invalid : ¬ (0xD800 + (character.toNat - 0x10000) / 0x400).isValidChar := by
      unfold Nat.isValidChar
      omega
    have pair : 0x10000 + (0xD800 + (character.toNat - 0x10000) / 0x400 - 0xD800) * 0x400 +
        (0xDC00 + (character.toNat - 0x10000) % 0x400 - 0xDC00) = character.toNat := by
      omega
    rw [units, if_neg small, List.cons_append, List.cons_append, List.nil_append, joinUnits.eq_3,
      if_neg invalid, if_pos (by omega), pair, itself]
    cases joinUnits codes <;> rfl

/-! ## Texts -/

theorem readUnits_text (characters rest : List Char) :
    readUnits (characters.flatMap escape ++ '\x22' :: rest) =
      some (characters.flatMap (units ∘ Char.toNat), rest) := by
  induction characters with
  | nil => rfl
  | cons character characters induction =>
      rw [List.flatMap_cons, List.append_assoc, readUnits_escaped (escaped_escape character),
        induction]
      rfl

theorem joinUnits_text (characters : List Char) :
    joinUnits (characters.flatMap (units ∘ Char.toNat)) = some characters := by
  induction characters with
  | nil => rfl
  | cons character characters induction =>
      rw [List.flatMap_cons, Function.comp_apply, joinUnits_units, induction]
      rfl

/-- After its opening quote, a written text is read back, and nothing after its closing quote is
touched. -/
theorem readText_writeText (content : String) (rest : List Char) :
    readText (content.toList.flatMap escape ++ '\x22' :: rest) = some (content, rest) := by
  rw [readText, readUnits_text]
  simp [joinUnits_text]

end Json

end Reattempt
