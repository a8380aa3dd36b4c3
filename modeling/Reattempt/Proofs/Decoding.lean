import Reattempt.Proofs.Grammar

/-! Values without doubles are read as they were written. What is read of a value ends where its
text ends, whatever follows, unless a number runs on; and the fuel of the reader suffices as long
as it covers each character twice, since every value and every list of members that is entered
has a character of its own. -/

namespace Reattempt

namespace Json

open Grammar

/-! ## Whole numbers -/

/-- A digit is none of the characters that open something else. -/
theorem ne_of_isDigit {digit other : Char} (isDigit : digit.isDigit = true)
    (noDigit : other.isDigit = false) : digit ≠ other := by
  rintro rfl
  rw [isDigit] at noDigit
  cases noDigit

namespace Grammar.IsWhole

variable {digits : List Char}

private theorem exists_cons (isWhole : IsWhole digits) :
    ∃ first rest, digits = first :: rest ∧ first.isDigit = true := by
  cases digits with
  | nil => exact absurd rfl isWhole.areDigits.1
  | cons first rest => exact ⟨first, rest, rfl, isWhole.areDigits.2 first List.mem_cons_self⟩

private theorem ne_cons (isWhole : IsWhole digits) {sign : Char} (noDigit : sign.isDigit = false)
    (others : List Char) : digits ≠ sign :: others := by
  rcases isWhole.exists_cons with ⟨first, rest, rfl, isDigit⟩
  intro equal
  exact ne_of_isDigit isDigit noDigit (List.cons_eq_cons.mp equal).1

theorem all (isWhole : IsWhole digits) : digits.all Char.isDigit = true :=
  List.all_eq_true.mpr isWhole.areDigits.2

theorem takeWhile (isWhole : IsWhole digits) : digits.takeWhile Char.isDigit = digits := by
  have run : (digits ++ []).takeWhile Char.isDigit = digits ++ [].takeWhile Char.isDigit :=
    List.takeWhile_append_of_pos isWhole.areDigits.2
  rwa [List.append_nil, List.takeWhile_nil, List.append_nil] at run

theorem dropWhile (isWhole : IsWhole digits) : digits.dropWhile Char.isDigit = [] := by
  have run : (digits ++ []).dropWhile Char.isDigit = [].dropWhile Char.isDigit :=
    List.dropWhile_append_of_pos isWhole.areDigits.2
  rwa [List.append_nil, List.dropWhile_nil] at run

theorem isWholePart (isWhole : IsWhole digits) : isWholePart digits = true := by
  rcases isWhole.exists_cons with ⟨first, rest, rfl, -⟩
  rcases isWhole.noLeadingZero with single | other
  · rw [single]
    rfl
  · rw [Json.isWholePart, Bool.and_eq_true, Bool.or_eq_true]
    exact ⟨rfl, .inr (bne_iff_ne.mpr other)⟩

theorem isNumber (isWhole : IsWhole digits) (negative : Bool) :
    isNumber (Binary64.signed negative digits) = true := by
  unfold Json.isNumber Binary64.signed
  cases negative with
  | false =>
      dsimp only
      split
      · next equal => exact absurd equal (isWhole.ne_cons rfl _)
      · simp only [Bool.false_eq_true, if_false, isWhole.takeWhile, isWhole.dropWhile,
          isWhole.isWholePart, isExponent, Bool.and_self]
  | true =>
      simp only [if_true, isWhole.takeWhile, isWhole.dropWhile, isWhole.isWholePart, isExponent,
        Bool.and_self]

theorem isPlainWhole (isWhole : IsWhole digits) (negative : Bool) :
    Scalar.isPlainWhole (String.ofList (Binary64.signed negative digits)) = true := by
  have some : digits.isEmpty = false := by
    rcases isWhole.exists_cons with ⟨first, rest, rfl, -⟩
    rfl
  unfold Scalar.isPlainWhole Binary64.signed
  rw [String.toList_ofList]
  cases negative with
  | false =>
      dsimp only
      split
      · next equal => exact absurd equal (isWhole.ne_cons rfl _)
      · simp only [Bool.false_eq_true, if_false, some, isWhole.all, Bool.not_false, Bool.and_self]
  | true => simp only [if_true, some, isWhole.all, Bool.not_false, Bool.and_self]

theorem splitSign (isWhole : IsWhole digits) (negative : Bool) :
    Scalar.splitSign (Binary64.signed negative digits) = (negative, digits) := by
  cases negative with
  | false =>
      exact Scalar.splitSign.eq_3 digits (isWhole.ne_cons rfl) (isWhole.ne_cons rfl)
  | true => rfl

end Grammar.IsWhole

private theorem signedValue_toDigits (value : Int) :
    Scalar.signedValue (decide (value < 0)) (Nat.toDigits 10 value.natAbs) = value := by
  have magnitude : digitsValue (Nat.toDigits 10 value.natAbs) = value.natAbs :=
    Nat.ofDigitChars_ten_toDigits
  rw [Scalar.signedValue, magnitude]
  by_cases negative : value < 0
  · rw [decide_eq_true negative, if_pos rfl]
    omega
  · rw [decide_eq_false negative, if_neg Bool.false_ne_true]
    omega

private theorem read?_signed_toDigits (value : Int) :
    Scalar.read? (String.ofList
      (Binary64.signed (decide (value < 0)) (Nat.toDigits 10 value.natAbs))) =
        some (.whole value) := by
  have isWhole := isWhole_toDigits value.natAbs
  have back := signedValue_toDigits value
  rw [Scalar.read?, if_pos (isWhole.isPlainWhole _), String.toList_ofList, isWhole.splitSign]
  exact congrArg (some ∘ Scalar.whole) back

def Stops (rest : List Char) : Prop :=
  ∀ character ∈ rest.head?, inNumber character = false

private theorem stops_cons {first : Char} (outside : inNumber first = false) (rest : List Char) :
    Stops (first :: rest) := by
  intro character member
  rwa [← Option.some.inj member]

private theorem takeWhile_dropWhile_inNumber {inside rest : List Char}
    (each : ∀ character ∈ inside, inNumber character = true) (stops : Stops rest) :
    (inside ++ rest).takeWhile inNumber = inside ∧ (inside ++ rest).dropWhile inNumber = rest := by
  rw [List.takeWhile_append_of_pos each, List.dropWhile_append_of_pos each]
  cases rest with
  | nil => exact ⟨List.append_nil inside, rfl⟩
  | cons first rest =>
      have outside : inNumber first = false := stops first rfl
      rw [List.takeWhile_cons_of_neg (Bool.eq_false_iff.mp outside),
        List.dropWhile_cons_of_neg (Bool.eq_false_iff.mp outside)]
      exact ⟨List.append_nil inside, rfl⟩

private theorem inNumber_signed {digits : List Char} (isWhole : IsWhole digits) (negative : Bool) :
    ∀ character ∈ Binary64.signed negative digits, inNumber character = true := by
  have inside : ∀ character ∈ digits, inNumber character = true := by
    intro character member
    rw [inNumber, isWhole.areDigits.2 character member]
    rfl
  cases negative with
  | false => exact inside
  | true => exact List.forall_mem_cons.mpr ⟨rfl, inside⟩

theorem readNumber_whole (value : Int) {rest : List Char} (stops : Stops rest) :
    readNumber (write (.number (.whole value)) ++ rest) =
      some (.number (.whole value), rest) := by
  have isWhole := isWhole_toDigits value.natAbs
  rcases takeWhile_dropWhile_inNumber (inNumber_signed isWhole (decide (value < 0))) stops with
    ⟨taken, dropped⟩
  rw [write, Scalar.toList_text_whole, readNumber, taken, dropped, if_pos (isWhole.isNumber _),
    read?_signed_toDigits]
  rfl

/-! ## Values -/

private theorem skipBlanks_cons {first : Char} (noBlank : isBlank first = false)
    (rest : List Char) : skipBlanks (first :: rest) = first :: rest := by
  rw [skipBlanks, List.dropWhile_cons_of_neg (Bool.eq_false_iff.mp noBlank)]

private theorem skipBlanks_space (rest : List Char) : skipBlanks (' ' :: rest) = skipBlanks rest :=
  rfl

private theorem readValue_space (fuel : Nat) (rest : List Char) :
    readValue fuel (' ' :: rest) = readValue fuel rest := by
  cases fuel with
  | zero => rfl
  | succ fuel => rw [readValue, readValue, skipBlanks_space]

private theorem isBlank_of_isDigit {digit : Char} (isDigit : digit.isDigit = true) :
    isBlank digit = false := by
  have other (blank : Char) (noDigit : blank.isDigit = false) : decide (digit = blank) = false :=
    decide_eq_false (ne_of_isDigit isDigit noDigit)
  rw [isBlank, other _ rfl, other _ rfl, other _ rfl, other _ rfl]
  rfl

theorem readValue_signed {digits : List Char} (isWhole : IsWhole digits) (negative : Bool)
    (fuel : Nat) (rest : List Char) :
    readValue (fuel + 1) (Binary64.signed negative digits ++ rest) =
      readNumber (Binary64.signed negative digits ++ rest) := by
  rcases isWhole.exists_cons with ⟨first, others, rfl, isDigit⟩
  have opens {mark : Char} (noDigit : mark.isDigit = false) {left right : List Char} :
      first :: left ≠ mark :: right :=
    fun equal => ne_of_isDigit isDigit noDigit (List.cons_eq_cons.mp equal).1
  cases negative with
  | false =>
      have skipped : skipBlanks (first :: (others ++ rest)) = first :: (others ++ rest) :=
        skipBlanks_cons (isBlank_of_isDigit isDigit) _
      rw [Binary64.signed, if_neg Bool.false_ne_true, List.cons_append, readValue, skipped]
      split
      case h_10 => rfl
      -- In all other cases the first character is no digit.
      all_goals (next equal => exact absurd equal (opens rfl))
  | true =>
      have skipped : skipBlanks ('-' :: (first :: others ++ rest)) =
          '-' :: (first :: others ++ rest) :=
        skipBlanks_cons rfl _
      rw [Binary64.signed, if_pos rfl, List.cons_append, readValue, skipped]
      split
      case h_10 => rfl
      -- The minus could belong to an infinity.
      case h_6 equal => exact absurd (List.cons_eq_cons.mp equal).2 (opens rfl)
      all_goals (next equal => cases (List.cons_eq_cons.mp equal).1)

/-- Whatever follows, unless it runs on as a number, the value is read and nothing else. -/
def ReadsBack (value : Json) : Prop :=
  ∀ (fuel : Nat) (rest : List Char), Stops rest → 2 * value.write.length ≤ fuel →
    readValue fuel (value.write ++ rest) = some (value, rest)

/-- The first character of a value tells it from the end of an array. -/
def Opens (characters : List Char) : Prop :=
  ∃ first rest, characters = first :: rest ∧ isBlank first = false ∧ first ≠ ']'

theorem Opens.append {characters : List Char} (opens : Opens characters) (others : List Char) :
    Opens (characters ++ others) := by
  rcases opens with ⟨first, rest, rfl, noBlank, noEnd⟩
  exact ⟨first, rest ++ others, rfl, noBlank, noEnd⟩

theorem opens_write {value : Json} (integral : value.Integral) : Opens value.write := by
  cases integral with
  | null => exact ⟨'n', _, rfl, rfl, by decide⟩
  | flag value =>
      cases value
      · exact ⟨'f', _, rfl, rfl, by decide⟩
      · exact ⟨'t', _, rfl, rfl, by decide⟩
  | number value =>
      rcases (isWhole_toDigits value.natAbs).exists_cons with ⟨first, rest, digits, isDigit⟩
      rw [write, Scalar.toList_text_whole, digits]
      cases decide (value < 0) with
      | false =>
          exact ⟨first, rest, rfl, isBlank_of_isDigit isDigit, ne_of_isDigit isDigit rfl⟩
      | true => exact ⟨'-', first :: rest, rfl, rfl, by decide⟩
  | text content => exact ⟨'\x22', _, rfl, rfl, by decide⟩
  | array => exact ⟨'[', _, rfl, rfl, by decide⟩
  | object => exact ⟨'\x7b', _, rfl, rfl, by decide⟩

private theorem separated_cons (part : List Char) (parts : List (List Char)) :
    ∃ others, separated (part :: parts) = part ++ others := by
  cases parts with
  | nil => exact ⟨[], (List.append_nil part).symm⟩
  | cons next parts => exact ⟨_, rfl⟩

private theorem separated_cons_cons (part next : List Char) (parts : List (List Char)) :
    separated (part :: next :: parts) = part ++ ',' :: ' ' :: separated (next :: parts) :=
  rfl

section Items

variable {fuel : Nat} {characters others rest : List Char} {item : Json} {items : List Json}

private theorem readItems_space : readItems fuel (' ' :: rest) = readItems fuel rest := by
  cases fuel with
  | zero => rfl
  | succ fuel => rw [readItems, readItems, readValue_space]

private theorem readItems_last (read : readValue fuel characters = some (item, ']' :: rest)) :
    readItems (fuel + 1) characters = some ([item], rest) := by
  rw [readItems, read]
  rfl

private theorem readItems_more (read : readValue fuel characters = some (item, ',' :: others))
    (more : readItems fuel others = some (items, rest)) :
    readItems (fuel + 1) characters = some (item :: items, rest) := by
  rw [readItems, read]
  change (readItems fuel others).map _ = _
  rw [more]
  rfl

theorem readItems_separated (each : ∀ one ∈ item :: items, ReadsBack one)
    (enough : 2 * (separated ((item :: items).map write)).length < fuel) :
    readItems fuel (separated ((item :: items).map write) ++ ']' :: rest) =
      some (item :: items, rest) := by
  -- Each item takes one unit of fuel from the others, and its text is longer than that.
  induction items generalizing item fuel with
  | nil =>
      rcases fuel with _ | fuel
      · cases enough
      exact readItems_last
        (each item List.mem_cons_self fuel _ (stops_cons rfl _) (Nat.le_of_lt_succ enough))
  | cons next items induction =>
      rcases fuel with _ | fuel
      · cases enough
      rw [List.forall_mem_cons] at each
      rw [List.map_cons, List.map_cons, separated_cons_cons] at enough ⊢
      rw [List.length_append, List.length_cons, List.length_cons, ← List.map_cons] at enough
      rw [List.append_assoc, ← List.map_cons]
      refine readItems_more (each.1 fuel _ (stops_cons rfl _) (by omega)) ?_
      exact readItems_space.trans (induction each.2 (by omega))

end Items

section Fields

variable {fuel : Nat} {others rest : List Char} {key : String} {value : Json}
  {field : String × Json} {fields : List (String × Json)}

private theorem readFields_space : readFields fuel (' ' :: rest) = readFields fuel rest := by
  cases fuel with
  | zero => rfl
  | succ fuel => rw [readFields, readFields, skipBlanks_space]

private theorem readFields_last (read : readValue fuel others = some (value, '\x7d' :: rest)) :
    readFields (fuel + 1) (writeText key ++ ':' :: others) = some ([(key, value)], rest) := by
  rw [readFields, writeText]
  simp [skipBlanks_cons, expect?, readText_writeText, read, isBlank]

private theorem readFields_more {next : List Char}
    (read : readValue fuel others = some (value, ',' :: next))
    (more : readFields fuel next = some (fields, rest)) :
    readFields (fuel + 1) (writeText key ++ ':' :: others) =
      some ((key, value) :: fields, rest) := by
  rw [readFields, writeText]
  simp [skipBlanks_cons, expect?, readText_writeText, read, more, isBlank]

private theorem writeField_append (field : String × Json) (others : List Char) :
    writeField field ++ others = writeText field.1 ++ ':' :: ' ' :: (field.2.write ++ others) := by
  rw [writeField, List.append_assoc, List.cons_append, List.cons_append]

private theorem length_write_lt (field : String × Json) :
    field.2.write.length < (writeField field).length := by
  rw [writeField, List.length_append, List.length_cons, List.length_cons]
  omega

theorem readFields_separated (each : ∀ one ∈ field :: fields, ReadsBack one.2)
    (enough : 2 * (separated ((field :: fields).map writeField)).length < fuel) :
    readFields fuel (separated ((field :: fields).map writeField) ++ '\x7d' :: rest) =
      some (field :: fields, rest) := by
  have shorter := length_write_lt field
  induction fields generalizing field fuel with
  | nil =>
      rcases fuel with _ | fuel
      · cases enough
      rw [List.map_cons, List.map_nil, separated] at enough ⊢
      rw [writeField_append]
      refine readFields_last ((readValue_space fuel _).trans ?_)
      exact each field List.mem_cons_self fuel _ (stops_cons rfl _) (by omega)
  | cons next fields induction =>
      rcases fuel with _ | fuel
      · cases enough
      rw [List.forall_mem_cons] at each
      rw [List.map_cons, List.map_cons, separated_cons_cons] at enough ⊢
      rw [List.length_append, List.length_cons, List.length_cons, ← List.map_cons] at enough
      rw [List.append_assoc, ← List.map_cons, writeField_append]
      refine readFields_more ((readValue_space fuel _).trans
        (each.1 fuel _ (stops_cons rfl _) (by omega))) ?_
      exact readFields_space.trans (induction each.2 (by omega) (length_write_lt next))

end Fields

/-- The fuel is never used up at the first character of a value. -/
theorem readsBack_of_succ {value : Json} (opens : Opens value.write)
    (reads : ∀ (fuel : Nat) (rest : List Char), Stops rest → 2 * value.write.length ≤ fuel + 1 →
      readValue (fuel + 1) (value.write ++ rest) = some (value, rest)) : ReadsBack value := by
  intro fuel rest stops enough
  rcases fuel with _ | fuel
  · rcases opens with ⟨first, others, written, -⟩
    rw [written] at enough
    cases enough
  · exact reads fuel rest stops enough

theorem Opens.skipBlanks {characters : List Char} (opens : Opens characters) :
    skipBlanks characters = characters := by
  rcases opens with ⟨first, rest, rfl, noBlank, -⟩
  exact skipBlanks_cons noBlank rest

theorem readValue_array {fuel : Nat} {characters rest : List Char} {items : List Json}
    (opens : Opens characters) (read : readItems fuel characters = some (items, rest)) :
    readValue (fuel + 1) ('[' :: characters) = some (.array items, rest) := by
  have skipped := opens.skipBlanks
  rcases opens with ⟨first, others, rfl, -, noEnd⟩
  rw [readValue, skipBlanks_cons rfl]
  simp only [skipped]
  split
  · next equal => exact absurd (List.cons_eq_cons.mp equal).1 noEnd
  · rw [read]
    rfl

theorem readValue_object {fuel : Nat} {characters rest : List Char}
    {fields : List (String × Json)} (quote : characters.head? = some '\x22')
    (read : readFields fuel characters = some (fields, rest)) :
    readValue (fuel + 1) ('\x7b' :: characters) = some (.object fields, rest) := by
  rcases List.head?_eq_some_iff.mp quote with ⟨others, rfl⟩
  have skipped : skipBlanks ('\x22' :: others) = '\x22' :: others := skipBlanks_cons rfl others
  rw [readValue, skipBlanks_cons rfl]
  simp only [skipped]
  split
  · next equal => cases (List.cons_eq_cons.mp equal).1
  · rw [read]
    rfl

theorem readsBack_array {items : List Json} (opens : ∀ item ∈ items, Opens item.write)
    (reads : ∀ item ∈ items, ReadsBack item) : ReadsBack (.array items) := by
  apply readsBack_of_succ ⟨'[', _, rfl, rfl, by decide⟩
  intro fuel rest _ enough
  rw [write, writeItems_eq_map] at enough ⊢
  cases items with
  | nil => rfl
  | cons item items =>
      have opensItems : Opens (separated ((item :: items).map write) ++ ']' :: rest) := by
        rcases separated_cons item.write (items.map write) with ⟨others, parts⟩
        rw [List.map_cons, parts]
        exact ((opens item List.mem_cons_self).append _).append _
      rw [List.length_append, List.length_cons, List.length_singleton] at enough
      rw [List.cons_append, List.cons_append, List.append_assoc]
      exact readValue_array opensItems (readItems_separated reads (by omega))

theorem readsBack_object {fields : List (String × Json)}
    (reads : ∀ field ∈ fields, ReadsBack field.2) : ReadsBack (.object fields) := by
  apply readsBack_of_succ ⟨'\x7b', _, rfl, rfl, by decide⟩
  intro fuel rest _ enough
  rw [write, writeFields_eq_map] at enough ⊢
  cases fields with
  | nil => rfl
  | cons field fields =>
      have quote : (separated ((field :: fields).map writeField) ++ '\x7d' :: rest).head? =
          some '\x22' := by
        rcases separated_cons (writeField field) (fields.map writeField) with ⟨others, parts⟩
        rw [List.map_cons, parts]
        rfl
      rw [List.length_append, List.length_cons, List.length_singleton] at enough
      rw [List.cons_append, List.cons_append, List.append_assoc]
      exact readValue_object quote (readFields_separated reads (by omega))

theorem readsBack {value : Json} (integral : value.Integral) : ReadsBack value := by
  induction integral with
  | null =>
      apply readsBack_of_succ (opens_write .null)
      intro fuel rest _ _
      simp [write, readValue, skipBlanks_cons, isBlank, expect?]
  | flag value =>
      apply readsBack_of_succ (opens_write (.flag value))
      intro fuel rest _ _
      cases value <;> simp [write, readValue, skipBlanks_cons, isBlank, expect?]
  | number value =>
      apply readsBack_of_succ (opens_write (.number value))
      intro fuel rest stops _
      rw [← readNumber_whole value stops, write, Scalar.toList_text_whole]
      exact readValue_signed (isWhole_toDigits value.natAbs) _ fuel rest
  | text content =>
      apply readsBack_of_succ (opens_write (.text content))
      intro fuel rest _ _
      simp [write, writeText, readValue, skipBlanks_cons, isBlank, readText_writeText]
  | array each induction =>
      exact readsBack_array (fun item member => opens_write (each item member)) induction
  | object _ induction => exact readsBack_object induction

theorem read?_line {value : Json} (integral : value.Integral) : read? value.line = some value := by
  have nothing : Stops [] := by
    intro character member
    cases member
  have read := readsBack integral (2 * value.write.length + 2) [] nothing (by omega)
  rw [List.append_nil] at read
  rw [read?, line, String.toList_ofList, read]
  rfl

end Json

end Reattempt
