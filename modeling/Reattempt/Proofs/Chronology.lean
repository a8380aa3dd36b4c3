import Mathlib.Data.Prod.Lex
import Reattempt.Proofs.Arrangement
import Reattempt.Proofs.Dates

/-! Timestamps in the order of time. Every part of a timestamp is filled up to a fixed width, and
the larger parts stand first, so timestamps of the years from 1970 to 9999 are ordered as texts
in the way in which their moments are. -/

namespace Reattempt

/-! ## Writing in order -/

private theorem append_lt_append_iff {α : Type} [LT α] {left right leftRest rightRest : List α}
    (sameLength : left.length = right.length) :
    left ++ leftRest < right ++ rightRest ↔
      left < right ∨ left = right ∧ leftRest < rightRest := by
  induction left generalizing right with
  | nil =>
      rw [List.eq_nil_of_length_eq_zero sameLength.symm]
      simp
  | cons first left induction =>
      cases right with
      | nil => cases sameLength
      | cons second right =>
          have shorter : left.length = right.length := Nat.succ.inj sameLength
          rw [List.cons_append, List.cons_append, List.cons_lt_cons_iff, List.cons_lt_cons_iff,
            induction shorter, List.cons.injEq]
          grind

/-- What is written has the given width, and its order is that of the values. -/
structure Sorts {α : Type} [LinearOrder α] (width : Nat) (allowed : α → Prop)
    (write : α → List Char) : Prop where
  length : ∀ {value}, allowed value → (write value).length = width
  lt_iff : ∀ {left right}, allowed left → allowed right →
    (write left < write right ↔ left < right)

namespace Sorts

variable {α β : Type} [LinearOrder α] [LinearOrder β] {width otherWidth : Nat}
  {allowed : α → Prop} {otherAllowed : β → Prop} {write : α → List Char}
  {writeOther : β → List Char}

theorem eq_iff (sorts : Sorts width allowed write) {left right : α} (leftAllowed : allowed left)
    (rightAllowed : allowed right) : write left = write right ↔ left = right := by
  refine ⟨fun same => ?_, fun same => same ▸ rfl⟩
  apply le_antisymm
  · rw [← not_lt, ← sorts.lt_iff rightAllowed leftAllowed, same]
    exact List.lt_irrefl _
  · rw [← not_lt, ← sorts.lt_iff leftAllowed rightAllowed, same]
    exact List.lt_irrefl _

theorem append (first : Sorts width allowed write)
    (second : Sorts otherWidth otherAllowed writeOther) :
    Sorts (width + otherWidth)
      (fun pair : α ×ₗ β => allowed (ofLex pair).1 ∧ otherAllowed (ofLex pair).2)
      (fun pair => write (ofLex pair).1 ++ writeOther (ofLex pair).2) where
  length pairAllowed := by
    rw [List.length_append, first.length pairAllowed.1, second.length pairAllowed.2]
  lt_iff {left right} leftAllowed rightAllowed := by
    have sameLength := (first.length leftAllowed.1).trans (first.length rightAllowed.1).symm
    rw [append_lt_append_iff sameLength, first.lt_iff leftAllowed.1 rightAllowed.1,
      first.eq_iff leftAllowed.1 rightAllowed.1, second.lt_iff leftAllowed.2 rightAllowed.2,
      Prod.Lex.lt_iff]

theorem behind (mark : Char) (sorts : Sorts width allowed write) :
    Sorts (width + 1) allowed (fun value => mark :: write value) where
  length valueAllowed := congrArg Nat.succ (sorts.length valueAllowed)
  lt_iff leftAllowed rightAllowed := by
    rw [List.cons_lt_cons_self, sorts.lt_iff leftAllowed rightAllowed]

theorem before (mark : Char) (sorts : Sorts width allowed write) :
    Sorts (width + 1) allowed (fun value => write value ++ [mark]) where
  length valueAllowed := by
    rw [List.length_append, sorts.length valueAllowed, List.length_singleton]
  lt_iff leftAllowed rightAllowed := by
    have sameLength := (sorts.length leftAllowed).trans (sorts.length rightAllowed).symm
    rw [append_lt_append_iff sameLength, sorts.lt_iff leftAllowed rightAllowed]
    simp

theorem through (sorts : Sorts width allowed write) (measure : β → α)
    (measured : ∀ {value}, otherAllowed value → allowed (measure value))
    (ordered : ∀ {left right}, otherAllowed left → otherAllowed right →
      (measure left < measure right ↔ left < right))
    (written : ∀ {value}, otherAllowed value → writeOther value = write (measure value)) :
    Sorts width otherAllowed writeOther where
  length valueAllowed := by
    rw [written valueAllowed, sorts.length (measured valueAllowed)]
  lt_iff leftAllowed rightAllowed := by
    rw [written leftAllowed, written rightAllowed,
      sorts.lt_iff (measured leftAllowed) (measured rightAllowed), ordered leftAllowed rightAllowed]

end Sorts

/-! ## Digits -/

private theorem zeros_succ (count : Nat) : zeros (count + 1) = zeros count ++ ['0'] :=
  List.replicate_succ'

private theorem paddedDigits_succ (width value : Nat) :
    paddedDigits (width + 2) value =
      paddedDigits (width + 1) (value / 10) ++ [Nat.digitChar (value % 10)] := by
  by_cases small : value < 10
  · rw [Nat.div_eq_of_lt small, Nat.mod_eq_of_lt small, paddedDigits, paddedDigits,
      Nat.toDigits_of_lt_base small, Nat.toDigits_zero]
    exact congrArg (· ++ _) (zeros_succ width)
  · have digits := Nat.toDigits_of_base_le (show 1 < 10 by decide) (Nat.le_of_not_lt small)
    have filled : width + 2 - ((Nat.toDigits 10 (value / 10)).length + 1) =
        width + 1 - (Nat.toDigits 10 (value / 10)).length := by
      omega
    rw [paddedDigits, paddedDigits, digits, List.length_append, List.length_singleton, filled,
      List.append_assoc]

private theorem digitChar_lt_iff {left right : Nat} (leftSmall : left < 10)
    (rightSmall : right < 10) : Nat.digitChar left < Nat.digitChar right ↔ left < right := by
  have all : ∀ left < 10, ∀ right < 10,
      Nat.digitChar left < Nat.digitChar right ↔ left < right := by
    decide
  exact all left leftSmall right rightSmall

theorem sorts_digit :
    Sorts 1 (fun value : Nat => value < 10) (fun value => [Nat.digitChar value]) where
  length _ := rfl
  lt_iff leftSmall rightSmall := by
    rw [List.cons_lt_cons_iff, digitChar_lt_iff leftSmall rightSmall]
    simp

theorem sorts_paddedDigits (width : Nat) :
    Sorts (width + 1) (fun value => value < 10 ^ (width + 1)) (paddedDigits (width + 1)) := by
  induction width with
  | zero =>
      refine sorts_digit.through id id (fun _ _ => Iff.rfl) ?_
      intro value small
      have digit : value < 10 := small
      rw [paddedDigits, Nat.toDigits_of_lt_base digit]
      rfl
  | succ width induction =>
      refine (induction.append sorts_digit).through
        (fun value => toLex (value / 10, value % 10)) ?_ ?_ ?_
      · intro value small
        rw [Nat.pow_succ] at small
        exact ⟨Nat.div_lt_of_lt_mul (by omega), Nat.mod_lt _ (by decide)⟩
      · intro left right _ _
        rw [Prod.Lex.toLex_lt_toLex]
        omega
      · intro value _
        exact paddedDigits_succ width value

private theorem lt_length_toDigits {width value : Nat} (large : 10 ^ width ≤ value) :
    width < (Nat.toDigits 10 value).length := by
  induction width generalizing value with
  | zero =>
      have some := Nat.length_toDigits_pos (b := 10) (n := value)
      exact some
  | succ width induction =>
      rw [Nat.pow_succ] at large
      have first : 10 ^ width ≤ value / 10 := (Nat.le_div_iff_mul_le (by decide)).mpr large
      have shorter := induction first
      have base : 10 ≤ value := by
        have positive : 0 < 10 ^ width := Nat.pow_pos (by decide)
        omega
      rw [Nat.toDigits_of_base_le (by decide) base, List.length_append, List.length_singleton]
      exact Nat.succ_lt_succ shorter

private theorem paddedDigits_of_le {width value : Nat} (large : 10 ^ width ≤ value) :
    paddedDigits (width + 1) value = (toString (value : Int)).toList := by
  have full : width + 1 - (Nat.toDigits 10 value).length = 0 := by
    have longer := lt_length_toDigits large
    omega
  rw [paddedDigits, full, Int.toString_eq_repr, Int.repr_eq_if, if_pos (Int.natCast_nonneg value)]
  simp [zeros]

namespace Timestamp

/-! ## Dates and times -/

def dayLimit : Int := 2932897

private theorem year_window {number : Int} (nonneg : 0 ≤ number) (within : number < dayLimit) :
    1970 ≤ (Date.ofDayNumber number).year ∧ (Date.ofDayNumber number).year < 10000 := by
  have first : Calendar.daysBeforeYear 1970 - Calendar.epoch = 0 := by decide
  have last : Calendar.daysBeforeYear 10000 - Calendar.epoch = dayLimit := by decide
  rw [Date.year_ofDayNumber_lt_iff, last, ← Int.not_lt, Date.year_ofDayNumber_lt_iff, first]
  exact ⟨Int.not_lt.mpr nonneg, within⟩

theorem sorts_dateText :
    Sorts 10 (fun number => 0 ≤ number ∧ number < dayLimit)
      (fun number => dateText (Date.ofDayNumber number)) := by
  have parts := ((sorts_paddedDigits 3).append ((sorts_paddedDigits 1).behind '-')).append
    ((sorts_paddedDigits 1).behind '-')
  refine parts.through (fun number =>
    let date := Date.ofDayNumber number
    toLex (toLex (date.year.toNat, date.month), date.day)) ?_ ?_ ?_
  · rintro number ⟨nonneg, within⟩
    have years := year_window nonneg within
    have valid := Date.isValid_ofDayNumber number
    have days := Date.day_le valid
    have months := valid.2.1
    dsimp only [ofLex_toLex]
    refine ⟨⟨?_, ?_⟩, ?_⟩ <;> omega
  · rintro left right ⟨leftNonneg, leftWithin⟩ ⟨rightNonneg, rightWithin⟩
    have leftYears := year_window leftNonneg leftWithin
    have rightYears := year_window rightNonneg rightWithin
    rw [← Date.key_ofDayNumber_lt_iff, Date.key_lt_iff]
    simp only [Prod.Lex.toLex_lt_toLex, toLex_inj, Prod.mk.injEq]
    omega
  · rintro number ⟨nonneg, within⟩
    have years := year_window nonneg within
    have large : 10 ^ 3 ≤ (Date.ofDayNumber number).year.toNat := by omega
    have year := paddedDigits_of_le large
    rw [Int.toNat_of_nonneg (by omega)] at year
    rw [dateText, ← year]
    rfl

theorem sorts_timeText : Sorts 8 (fun second => second < 86400) timeText := by
  have parts := ((sorts_paddedDigits 1).append ((sorts_paddedDigits 1).behind ':')).append
    ((sorts_paddedDigits 1).behind ':')
  refine parts.through (fun second =>
    toLex (toLex (second / 3600, second / 60 % 60), second % 60)) ?_ ?_ ?_
  · intro second within
    dsimp only [ofLex_toLex]
    refine ⟨⟨?_, ?_⟩, ?_⟩ <;> omega
  · intro left right _ _
    simp only [Prod.Lex.toLex_lt_toLex, toLex_inj, Prod.mk.injEq]
    omega
  · intro second _
    rfl

/-! ## Timestamps -/

def secondLimit : Int := 253402300800

def momentText (seconds : Int) : List Char :=
  dateText (Date.ofDayNumber (seconds / 86400)) ++ 'T' :: timeText (seconds % 86400).toNat

theorem sorts_momentText :
    Sorts 19 (fun seconds => 0 ≤ seconds ∧ seconds < secondLimit) momentText := by
  have limit : secondLimit = dayLimit * 86400 := by decide
  refine (sorts_dateText.append (sorts_timeText.behind 'T')).through (fun seconds =>
    toLex (seconds / 86400, (seconds % 86400).toNat)) ?_ ?_ ?_
  · rintro seconds ⟨nonneg, within⟩
    dsimp only [ofLex_toLex]
    refine ⟨⟨?_, ?_⟩, ?_⟩ <;> omega
  · intro left right _ _
    rw [Prod.Lex.toLex_lt_toLex]
    dsimp only
    omega
  · intro seconds _
    rfl

theorem sorts_signedDigits :
    Sorts 3 (fun milliseconds => 0 ≤ milliseconds ∧ milliseconds < 1000) (signedDigits 3) := by
  refine (sorts_paddedDigits 2).through Int.natAbs ?_ ?_ ?_
  · rintro milliseconds ⟨nonneg, within⟩
    omega
  · rintro left right ⟨leftNonneg, -⟩ ⟨rightNonneg, -⟩
    omega
  · rintro milliseconds ⟨nonneg, -⟩
    rw [signedDigits, if_neg (Int.not_lt.mpr nonneg)]

def Fits (moment : Int ×ₗ Int) : Prop :=
  (0 ≤ (ofLex moment).1 ∧ (ofLex moment).1 < secondLimit) ∧
    0 ≤ (ofLex moment).2 ∧ (ofLex moment).2 < 1000

theorem sorts_characters :
    Sorts 24 Fits (fun moment => characters (ofLex moment).1 (ofLex moment).2) :=
  (sorts_momentText.append (sorts_signedDigits.behind '.')).before 'Z'

/-! ## Numbers -/

private theorem floor?_of_same {created : Scalar} {seconds : Int}
    (same : created.same (.whole seconds) = true) : floor? created = .ok seconds := by
  cases created with
  | whole value =>
      rw [Scalar.same_whole, decide_eq_true_eq] at same
      rw [floor?, same]
  | real value =>
      have equal : Binary64.compareInt seconds (Binary64.ofFloat value) = some .eq := by
        rw [Scalar.same, Scalar.order, beq_iff_eq, Option.map_eq_some_iff] at same
        rcases same with ⟨comparison, compares, swapped⟩
        rwa [Ordering.swap_eq_eq.mp swapped] at compares
      rw [floor?]
      generalize Binary64.ofFloat value = exact at equal ⊢
      cases exact with
      | nan => cases equal
      | infinite negative => cases negative <;> cases equal
      | finite negative significand exponent =>
          have product := Int.compare_eq_eq.mp (Option.some.inj equal)
          have positive : (0 : Int) < Nat.pow 2 (-exponent).toNat := by
            exact_mod_cast Nat.two_pow_pos _
          have rounded := Int.mul_ediv_cancel seconds positive.ne'
          rw [product] at rounded
          exact congrArg Except.ok rounded

private theorem truncate_of_range {fraction : Scalar}
    (nonneg : (Scalar.whole 0).atMost fraction = true)
    (within : fraction.below (.whole 1000) = true) :
    ∃ milliseconds, fraction.truncate = .ok milliseconds ∧ 0 ≤ milliseconds ∧
      milliseconds < 1000 := by
  cases fraction with
  | whole value =>
      rw [Scalar.atMost_whole, decide_eq_true_eq] at nonneg
      rw [Scalar.below_whole, decide_eq_true_eq] at within
      exact ⟨value, rfl, nonneg, within⟩
  | real value =>
      have above : Binary64.compareInt 1000 (Binary64.ofFloat value) = some .gt := by
        rw [Scalar.below, Scalar.order, beq_iff_eq, Option.map_eq_some_iff] at within
        rcases within with ⟨comparison, compares, swapped⟩
        rwa [Ordering.swap_eq_lt.mp swapped] at compares
      rw [Scalar.atMost, Scalar.order] at nonneg
      rw [Scalar.truncate]
      generalize Binary64.ofFloat value = exact at nonneg above ⊢
      cases exact with
      | nan => cases above
      | infinite negative => cases negative <;> [cases above; cases nonneg]
      | finite negative significand exponent =>
          have positive : (0 : Int) < Nat.pow 2 (-exponent).toNat := by
            exact_mod_cast Nat.two_pow_pos _
          have product : (0 : Int) ≤ significand * Nat.pow 2 exponent.toNat := by
            exact_mod_cast Nat.zero_le _
          have upper := Int.compare_eq_gt.mp (Option.some.inj above)
          simp only [Binary64.compareInt, Int.zero_mul, bne_iff_ne, ne_eq, Int.compare_eq_gt,
            Int.not_lt] at nonneg
          dsimp only
          generalize (significand : Int) * Nat.pow 2 exponent.toNat = scaled at *
          cases negative with
          | false =>
              exact ⟨_, rfl, Int.ediv_nonneg product positive.le,
                Int.ediv_lt_of_lt_mul positive upper⟩
          | true =>
              have nothing : scaled = 0 := by
                rw [if_pos rfl] at nonneg
                omega
              rw [nothing, Int.zero_ediv]
              exact ⟨0, rfl, le_refl 0, by decide⟩

private theorem checkRange_of_window {seconds : Int} (nonneg : 0 ≤ seconds)
    (within : seconds < secondLimit) : checkRange seconds = .ok () := by
  have limit : secondLimit = 253402300800 := rfl
  have days : 0 ≤ seconds / 86400 ∧ seconds / 86400 < dayLimit := by
    unfold dayLimit
    omega
  have years := year_window days.1 days.2
  have word : Int.pow 2 31 = 2147483648 := rfl
  have longWord : Int.pow 2 63 = 9223372036854775808 := rfl
  unfold checkRange
  rw [word, longWord, if_neg (by omega), if_neg (by omega), if_neg (by omega)]

end Timestamp

namespace LogRecord

/-- The record is made at a whole number of seconds in the years from 1970 to 9999. Its
milliseconds fill less than a second and need not be whole. -/
structure IsMadeAt (record : LogRecord) (seconds : Int) (fraction : Scalar) : Prop where
  created : ∃ created, record.created = .number created ∧ created.same (.whole seconds) = true
  milliseconds : record.milliseconds = .number fraction
  nonneg : 0 ≤ seconds
  within : seconds < 253402300800
  fractionNonneg : (Scalar.whole 0).atMost fraction = true
  fractionWithin : fraction.below (.whole 1000) = true

structure Names (timestamp : String) (date : Date) (hour minute second milliseconds : Nat) :
    Prop where
  form : timestamp.toList =
    paddedDigits 4 date.year.toNat ++ '-' :: paddedDigits 2 date.month ++
      '-' :: paddedDigits 2 date.day ++ 'T' :: paddedDigits 2 hour ++
      ':' :: paddedDigits 2 minute ++ ':' :: paddedDigits 2 second ++
      '.' :: paddedDigits 3 milliseconds ++ ['Z']
  length : timestamp.length = 24
  valid : date.IsValid
  inYears : 1970 ≤ date.year ∧ date.year ≤ 9999
  inDay : hour < 24 ∧ minute < 60 ∧ second < 60 ∧ milliseconds < 1000

/-- The timestamp of a record names the moment at which it is made. -/
structure IsStamped (record : LogRecord) (seconds milliseconds : Int) (timestamp : String) :
    Prop where
  written : Timestamp.text record.created record.milliseconds = .ok timestamp
  names : ∃ date hour minute second, Names timestamp date hour minute second milliseconds.toNat ∧
    ((date.dayNumber * 24 + hour) * 60 + minute) * 60 + second = seconds
  /-- It is written into the line, unless a field is added under its key. -/
  emitted : record.extra.find? "timestamp" = none → ∀ correlation object,
    record.fields correlation = .ok object → object.find? "timestamp" = some (.text timestamp)

variable {record : LogRecord} {seconds : Int} {fraction : Scalar}

theorem text_of_isMadeAt (made : record.IsMadeAt seconds fraction) {milliseconds : Int}
    (truncated : fraction.truncate = .ok milliseconds) :
    Timestamp.text record.created record.milliseconds =
      .ok (String.ofList (Timestamp.characters seconds milliseconds)) := by
  rcases made.created with ⟨created, isCreated, same⟩
  rw [isCreated, made.milliseconds, Timestamp.text, Timestamp.seconds?,
    Timestamp.floor?_of_same same, Timestamp.milliseconds?, truncated]
  change (Timestamp.checkRange seconds >>= _) = _
  rw [Timestamp.checkRange_of_window made.nonneg made.within]
  rfl

theorem names_characters {milliseconds : Int} (nonneg : 0 ≤ seconds)
    (within : seconds < Timestamp.secondLimit) (msNonneg : 0 ≤ milliseconds)
    (msWithin : milliseconds < 1000) :
    ∃ date hour minute second,
      Names (String.ofList (Timestamp.characters seconds milliseconds)) date hour minute second
        milliseconds.toNat ∧
      ((date.dayNumber * 24 + hour) * 60 + minute) * 60 + second = seconds := by
  have limit : Timestamp.secondLimit = Timestamp.dayLimit * 86400 := by decide
  have days : 0 ≤ seconds / 86400 ∧ seconds / 86400 < Timestamp.dayLimit := by omega
  have years := Timestamp.year_window days.1 days.2
  refine ⟨Date.ofDayNumber (seconds / 86400), (seconds % 86400).toNat / 3600,
    (seconds % 86400).toNat / 60 % 60, (seconds % 86400).toNat % 60, ⟨?_, ?_, ?_, ?_, ?_⟩, ?_⟩
  · have large : 10 ^ 3 ≤ (Date.ofDayNumber (seconds / 86400)).year.toNat := by omega
    have year := paddedDigits_of_le large
    rw [Int.toNat_of_nonneg (by omega)] at year
    have magnitude : milliseconds.natAbs = milliseconds.toNat := by omega
    rw [String.toList_ofList, Timestamp.characters, Timestamp.dateText, Timestamp.timeText,
      Timestamp.signedDigits, if_neg (Int.not_lt.mpr msNonneg), magnitude, year]
    simp only [Timestamp.twoDigits, List.append_assoc, List.cons_append]
  · rw [String.length_ofList]
    have fits : Timestamp.Fits (toLex (seconds, milliseconds)) :=
      ⟨⟨nonneg, within⟩, msNonneg, msWithin⟩
    have written := Timestamp.sorts_characters.length fits
    exact written
  · exact Date.isValid_ofDayNumber _
  · omega
  · omega
  · rw [Date.dayNumber_ofDayNumber]
    omega

theorem isStamped_of_isMadeAt (made : record.IsMadeAt seconds fraction) {milliseconds : Int}
    (truncated : fraction.truncate = .ok milliseconds) (msNonneg : 0 ≤ milliseconds)
    (msWithin : milliseconds < 1000) :
    record.IsStamped seconds milliseconds
      (String.ofList (Timestamp.characters seconds milliseconds)) where
  written := text_of_isMadeAt made truncated
  names := names_characters made.nonneg made.within msNonneg msWithin
  emitted unnamed correlation object written := by
    rcases find?_timestamp_of_fields unnamed written with ⟨timestamp, timed, found⟩
    rw [text_of_isMadeAt made truncated] at timed
    rw [found, Except.ok.inj timed]

/-- The timestamps of two records are ordered as texts in the way in which the records are ordered
by their seconds and then by their whole milliseconds. -/
theorem timestamps_chronological {first second : LogRecord} {firstSeconds secondSeconds : Int}
    {firstFraction secondFraction : Scalar} (firstMade : first.IsMadeAt firstSeconds firstFraction)
    (secondMade : second.IsMadeAt secondSeconds secondFraction) :
    ∃ firstMilliseconds secondMilliseconds firstTimestamp secondTimestamp,
      firstFraction.truncate = .ok firstMilliseconds ∧
      secondFraction.truncate = .ok secondMilliseconds ∧
      first.IsStamped firstSeconds firstMilliseconds firstTimestamp ∧
      second.IsStamped secondSeconds secondMilliseconds secondTimestamp ∧
      (firstTimestamp < secondTimestamp ↔
        toLex (firstSeconds, firstMilliseconds) < toLex (secondSeconds, secondMilliseconds)) ∧
      (firstTimestamp = secondTimestamp ↔
        firstSeconds = secondSeconds ∧ firstMilliseconds = secondMilliseconds) := by
  rcases Timestamp.truncate_of_range firstMade.fractionNonneg firstMade.fractionWithin with
    ⟨firstMilliseconds, firstTruncated, firstNonneg, firstWithin⟩
  rcases Timestamp.truncate_of_range secondMade.fractionNonneg secondMade.fractionWithin with
    ⟨secondMilliseconds, secondTruncated, secondNonneg, secondWithin⟩
  have firstFits : Timestamp.Fits (toLex (firstSeconds, firstMilliseconds)) :=
    ⟨⟨firstMade.nonneg, firstMade.within⟩, firstNonneg, firstWithin⟩
  have secondFits : Timestamp.Fits (toLex (secondSeconds, secondMilliseconds)) :=
    ⟨⟨secondMade.nonneg, secondMade.within⟩, secondNonneg, secondWithin⟩
  refine ⟨firstMilliseconds, secondMilliseconds, _, _, firstTruncated, secondTruncated,
    isStamped_of_isMadeAt firstMade firstTruncated firstNonneg firstWithin,
    isStamped_of_isMadeAt secondMade secondTruncated secondNonneg secondWithin, ?_, ?_⟩
  · rw [String.lt_iff, String.toList_ofList, String.toList_ofList]
    have ordered := Timestamp.sorts_characters.lt_iff firstFits secondFits
    exact ordered
  · rw [String.ofList_inj]
    have same := Timestamp.sorts_characters.eq_iff firstFits secondFits
    rw [toLex_inj, Prod.mk.injEq] at same
    exact same

end LogRecord

/-! ## Around the start of a leap day -/

namespace LogRecord.LeapDay

def recordAt (created milliseconds : Scalar) : LogRecord where
  logger := .text "shop"
  levelName := .text "INFO"
  template := .text "closed"
  given := .tuple []
  created := .number created
  milliseconds := .number milliseconds
  module := .text "orders"
  function := .text "close"
  line := .number (.whole 7)
  thread := .text "worker"
  handled := .null
  extra := .empty

def eve : LogRecord :=
  recordAt (.whole 951782399) (.real 999.9)

def start : LogRecord :=
  recordAt (.real 951782400.0) (.whole 0)

theorem eve_isMadeAt : eve.IsMadeAt 951782399 (.real 999.9) where
  created := ⟨.whole 951782399, rfl, by decide⟩
  milliseconds := rfl
  nonneg := by decide
  within := by decide
  fractionNonneg := by decide +kernel
  fractionWithin := by decide +kernel

theorem start_isMadeAt : start.IsMadeAt 951782400 (.whole 0) where
  created := ⟨.real 951782400.0, rfl, by decide +kernel⟩
  milliseconds := rfl
  nonneg := by decide
  within := by decide
  fractionNonneg := by decide
  fractionWithin := by decide

end LogRecord.LeapDay

namespace LogRecord

/-- Cut off and not rounded, the last millisecond still belongs to the day before. -/
theorem timestamps_chronological_leapDay :
    LeapDay.eve.IsMadeAt 951782399 (.real 999.9) ∧
    LeapDay.start.IsMadeAt 951782400 (.whole 0) ∧
    ∃ first second, LeapDay.eve.IsStamped 951782399 999 first ∧
      LeapDay.start.IsStamped 951782400 0 second ∧ first < second ∧ first ≠ second := by
  refine ⟨LeapDay.eve_isMadeAt, LeapDay.start_isMadeAt, ?_⟩
  rcases timestamps_chronological LeapDay.eve_isMadeAt LeapDay.start_isMadeAt with
    ⟨firstMilliseconds, secondMilliseconds, first, second, cut, kept, firstStamped, secondStamped,
      ordered, equal⟩
  have last : (Scalar.real 999.9).truncate = .ok 999 := by decide +kernel
  rw [last] at cut
  cases cut
  cases kept
  refine ⟨first, second, firstStamped, secondStamped, ordered.mpr (by decide), ?_⟩
  rw [ne_eq, equal]
  decide

end LogRecord

end Reattempt
