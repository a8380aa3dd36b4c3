import Mathlib
import Reattempt.Proofs.Magnitude

/-! Doubles as signs, significands and exponents. The words of doubles have the exact
values that their parts say, and quotients of doubles above zero are above zero: rounding
takes nothing to zero that is not far below the smallest double. -/

namespace Reattempt

namespace Binary64

open Float.Model Float.Model.UnpackedFloat

/-! ## The parts of a double -/

section parts

variable (word : BitVec Format.binary64.numBits)

private theorem toNat_unpackMantissa : (unpackMantissa word).toNat = word.toNat % hiddenBit := by
  simp only [unpackMantissa, BitVec.toNat_cast, BitVec.extractLsb_toNat, Nat.shiftRight_zero]
  rfl

private theorem toNat_unpackExponent :
    (unpackExponent word).toNat = word.toNat / hiddenBit % 2048 := by
  simp only [unpackExponent, BitVec.toNat_cast, BitVec.extractLsb_toNat, Nat.shiftRight_eq_div_pow]
  rfl

private theorem toNat_unpackSign : (unpackSign word).toNat = word.toNat / Nat.pow 2 63 % 2 := by
  simp only [unpackSign, BitVec.toNat_cast, BitVec.extractLsb_toNat, Nat.shiftRight_eq_div_pow]

private theorem toNat_one_append {width : Nat} (low : BitVec width) :
    (1#1 ++ low).toNat = 2 ^ width + low.toNat := by
  rw [BitVec.toNat_append, ← Nat.shiftLeft_add_eq_or_of_lt low.isLt]
  simp [Nat.shiftLeft_eq]

end parts

/-! ## Exact values -/

def isNegative : Sign → Bool
  | .negative => true
  | .positive => false

private theorem isNegative_ofBitVec (bit : BitVec 1) :
    isNegative (Sign.ofBitVec bit) = decide (bit.toNat = 1) := by
  revert bit
  decide

def ofUnpacked : UnpackedFloat → Binary64
  | .notANumber => .nan
  | .infinity sign => .infinite (isNegative sign)
  | .zero sign => .finite (isNegative sign) 0 leastExponent
  | .finite sign significand exponent _ => .finite (isNegative sign) significand exponent

theorem ofUnpacked_unpack (word : BitVec Format.binary64.numBits) :
    ofUnpacked (UnpackedFloat.unpack .binary64 word) = ofBits word.toNat := by
  have bias : (Format.binary64.exponentBias : Int) = 1023 := rfl
  have mantissa := toNat_unpackMantissa word
  have exponent := toNat_unpackExponent word
  have sign := isNegative_ofBitVec (unpackSign word)
  rw [toNat_unpackSign word] at sign
  have ones : unpackExponent word = -1#11 ↔ word.toNat / hiddenBit % 2048 = 2047 := by
    rw [← exponent, BitVec.toNat_eq]
    rfl
  have none : unpackExponent word = 0#11 ↔ word.toNat / hiddenBit % 2048 = 0 := by
    rw [← exponent, BitVec.toNat_eq]
    rfl
  have empty : unpackMantissa word = 0#52 ↔ word.toNat % hiddenBit = 0 := by
    rw [← mantissa, BitVec.toNat_eq]
    rfl
  unfold ofBits UnpackedFloat.unpack
  simp only [ones, none, empty, bias]
  split
  · split
    · simp only [ofUnpacked, sign]
    · rfl
  · split
    · next zero =>
      split
      · next nothing => simp only [ofUnpacked, sign, nothing]
      · simp only [ofUnpacked, sign, mantissa, exponent, zero]
        rfl
    · simp only [ofUnpacked, sign, toNat_one_append, mantissa, exponent]
      have shifted : ((word.toNat / hiddenBit % 2048 : Nat) : Int) - (1023 + (52 : Nat)) =
          (word.toNat / hiddenBit % 2048 : Nat) + leastExponent - 1 := by
        rw [leastExponent]
        omega
      rw [shifted]
      rfl

theorem ofFloat_eq (value : Float) : ofFloat value = ofUnpacked value.toModel.unpack :=
  (ofUnpacked_unpack _).symm

structure IsCanonical (significand : Nat) (exponent : Int) : Prop where
  narrow : significand < 2 * hiddenBit
  least : leastExponent ≤ exponent
  greatest : exponent ≤ 971
  full : leastExponent < exponent → hiddenBit ≤ significand

theorem isCanonical_of_ofBits {bits significand : Nat} {negative : Bool} {exponent : Int}
    (value : ofBits bits = .finite negative significand exponent) :
    IsCanonical significand exponent := by
  have hidden : hiddenBit = 2 ^ 52 := rfl
  have least : leastExponent = -1074 := rfl
  have fraction : bits % hiddenBit < hiddenBit := Nat.mod_lt _ (Nat.two_pow_pos 52)
  unfold ofBits at value
  dsimp only at value
  split at value
  · split at value <;> cases value
  · split at value <;> cases value <;> constructor <;> omega

/-! ## Rounding -/

private theorem targetExponent_eq (total : Int) :
    Format.binary64.targetExponent total = max (total - 53) leastExponent :=
  rfl

private theorem mantissa_shiftRight (extended : ExtendedMantissa) (shift : Nat) :
    (extended >>> shift).mantissa = extended.mantissa / 2 ^ shift := by
  induction shift with
  | zero => simp [HShiftRight.hShiftRight, Nat.repeat]
  | succ shift induction =>
      have step : extended >>> (shift + 1) = (extended >>> shift).shiftRightOne := rfl
      rw [step, ExtendedMantissa.shiftRightOne, induction, Nat.div_div_eq_div_mul, Nat.pow_succ]

private theorem mantissa_ofMantissaAndAccuracy (significand : Nat) (accuracy : Accuracy) :
    (ExtendedMantissa.ofMantissaAndAccuracy significand accuracy).mantissa = significand := by
  cases accuracy with
  | exact => rfl
  | inexact side => cases side <;> rfl

private theorem le_roundedMantissa (extended : ExtendedMantissa) :
    extended.mantissa ≤ extended.roundedMantissa := by
  unfold ExtendedMantissa.roundedMantissa
  generalize extended.accuracy = accuracy
  cases accuracy with
  | exact => exact Nat.le_refl _
  | inexact side => cases side <;> simp [Accuracy.roundToNearestEven]

def roundingShift (significand : Nat) (exponent : Int) : Nat :=
  (Format.binary64.targetExponent (totalExponent significand exponent) - exponent).toNat

private theorem mantissa_shiftToTargetExponent (significand : Nat) (exponent : Int)
    (accuracy : Accuracy) :
    (shiftToTargetExponent .binary64 significand exponent accuracy).1.mantissa =
      significand / 2 ^ roundingShift significand exponent := by
  simp only [shiftToTargetExponent, shiftToExponent, mantissa_shiftRight,
    mantissa_ofMantissaAndAccuracy, roundingShift]

private theorem exponent_shiftToTargetExponent (significand : Nat) (exponent : Int)
    (accuracy : Accuracy) :
    (shiftToTargetExponent .binary64 significand exponent accuracy).2 =
      exponent + roundingShift significand exponent :=
  rfl

/-- From the least exponent on a shift leaves between one bit and 53. -/
theorem shifted_window {significand : Nat} {exponent : Int} (something : significand ≠ 0)
    (least : leastExponent ≤ exponent) :
    0 < significand / 2 ^ roundingShift significand exponent ∧
      significand / 2 ^ roundingShift significand exponent < 2 ^ 53 := by
  have lower := Nat.log2_self_le something
  have upper := significand.lt_log2_self
  have total : totalExponent significand exponent = significand.log2 + 1 + exponent := rfl
  have shift : roundingShift significand exponent = significand.log2 - 52 := by
    rw [roundingShift, targetExponent_eq, total]
    omega
  rw [shift, Nat.div_lt_iff_lt_mul (Nat.two_pow_pos _), ← Nat.pow_add]
  constructor
  · apply Nat.div_pos _ (Nat.two_pow_pos _)
    exact le_trans (Nat.pow_le_pow_right (by decide) (by omega)) lower
  · exact lt_of_lt_of_le upper (Nat.pow_le_pow_right (by decide) (by omega))

private theorem roundWithAccuracy_finite (sign : Sign) {significand : Nat} {exponent : Int}
    (accuracy : Accuracy) (something : significand ≠ 0) (least : leastExponent ≤ exponent) :
    ∃ rounded raised positive,
      roundWithAccuracy .binary64 sign significand exponent accuracy =
        .finite sign rounded raised positive ∧
      rounded < 2 ^ 53 ∧ leastExponent ≤ raised := by
  have first := mantissa_shiftToTargetExponent significand exponent accuracy
  have raised := exponent_shiftToTargetExponent significand exponent accuracy
  unfold roundWithAccuracy
  generalize shiftToTargetExponent .binary64 significand exponent accuracy = shifted at *
  obtain ⟨extended, higher⟩ := shifted
  dsimp only at first raised ⊢
  have kept : extended.roundedMantissa ≠ 0 := by
    have positive := (shifted_window something least).1
    have up := le_roundedMantissa extended
    omega
  have second := mantissa_shiftToTargetExponent extended.roundedMantissa higher .exact
  have window := shifted_window kept (show leastExponent ≤ higher by omega)
  rw [← second] at window
  rw [dif_neg (Nat.pos_iff_ne_zero.mp window.1)]
  refine ⟨_, _, _, rfl, window.2, ?_⟩
  rw [exponent_shiftToTargetExponent]
  omega

/-! ## Doubles above zero -/

inductive IsPositive : UnpackedFloat → Prop
  | infinity : IsPositive (.infinity .positive)
  | finite (significand : Nat) (exponent : Int) (positive : 0 < significand) :
      IsPositive (.finite .positive significand exponent positive)

private theorem isPositive_packComponents {exponent : BitVec 11} {mantissa : BitVec 52}
    (something : exponent ≠ 0#11 ∨ mantissa ≠ 0#52) (number : exponent = -1#11 → mantissa = 0#52) :
    IsPositive
      (UnpackedFloat.unpack .binary64 (packComponents .binary64 .positive exponent mantissa)) := by
  unfold UnpackedFloat.unpack
  simp only [unpackExponent_packComponents, unpackMantissa_packComponents,
    unpackSign_packComponents, Sign.ofBitVec_toBitVec]
  split
  · next ones =>
    rw [if_pos (number ones)]
    exact .infinity
  · split
    · next none =>
      rw [dif_neg (something.resolve_left (fun differs => differs none))]
      exact .finite _ _ _
    · exact .finite _ _ _

private theorem isPositive_pack {significand : Nat} {exponent : Int} (positive : 0 < significand)
    (narrow : significand < 2 ^ 53) (least : leastExponent ≤ exponent) :
    IsPositive (Float.Model.pack (.finite .positive significand exponent positive)).unpack := by
  have bias : (Format.binary64.exponentBias : Int) = 1023 := rfl
  have width : Format.binary64.mantissaBits = 53 := rfl
  have smallest : leastExponent = -1074 := rfl
  show IsPositive (UnpackedFloat.unpack .binary64 (UnpackedFloat.pack .binary64 _))
  unfold UnpackedFloat.pack
  simp only [bias, width]
  split
  · exact isPositive_packComponents (.inl (by decide)) fun _ => rfl
  · next within =>
    have biased : (exponent + 1023 + (52 : Nat)).toNat < 2047 := by omega
    split
    · apply isPositive_packComponents
      · left
        rw [ne_eq, BitVec.toNat_eq, BitVec.toNat_ofNat, Nat.mod_eq_of_lt (by omega)]
        simp
        omega
      · intro ones
        have value := congrArg BitVec.toNat ones
        rw [BitVec.toNat_ofNat, Nat.mod_eq_of_lt (by omega)] at value
        simp at value
        omega
    · next wide =>
      have bits := (Nat.log2_lt positive.ne').mpr narrow
      have short : significand < 2 ^ 52 := (Nat.log2_lt positive.ne').mp (by omega)
      apply isPositive_packComponents
      · right
        rw [ne_eq, BitVec.toNat_eq, BitVec.toNat_ofNat, Nat.mod_eq_of_lt (by omega)]
        simp
        omega
      · intro ones
        exact absurd ones (by decide)

/-! ## Division -/

/-- A quotient of doubles above zero is not rounded to zero if the dividend has a
significand as long as the divisor's and an exponent that is not much lower. -/
theorem isPositive_div {dividend divisor : Nat} {high low : Int} (above : 0 < dividend)
    (below : 0 < divisor) (long : divisor.log2 ≤ dividend.log2) (near : -1023 ≤ high - low) :
    IsPositive (Float.Model.pack (UnpackedFloat.div .binary64
      (.finite .positive dividend high above) (.finite .positive divisor low below))).unpack := by
  have smallest : leastExponent = -1074 := rfl
  have totals : totalExponent dividend high - totalExponent divisor low =
      dividend.log2 - divisor.log2 + (high - low) := by
    simp only [totalExponent]
    omega
  simp only [UnpackedFloat.div, divCore, totals, targetExponent_eq]
  generalize exponents : min (high - low)
    (max ((dividend.log2 : Int) - divisor.log2 + (high - low) - 53) leastExponent) = exponent
  generalize shifts : (high - low - exponent).toNat = shift
  have longer : divisor.log2 + 1 ≤ dividend.log2 + shift := by omega
  have reached : divisor ≤ dividend <<< shift := by
    rw [Nat.shiftLeft_eq]
    calc
      divisor ≤ 2 ^ (divisor.log2 + 1) := divisor.lt_log2_self.le
      _ ≤ 2 ^ (dividend.log2 + shift) := Nat.pow_le_pow_right (by decide) longer
      _ = 2 ^ dividend.log2 * 2 ^ shift := Nat.pow_add 2 _ _
      _ ≤ dividend * 2 ^ shift := Nat.mul_le_mul_right _ (Nat.log2_self_le above.ne')
  have something : dividend <<< shift / divisor ≠ 0 := (Nat.div_pos reached below).ne'
  obtain ⟨rounded, raised, positive, rounds, narrow, least⟩ :=
    roundWithAccuracy_finite .positive (accuracyOfFraction (dividend <<< shift % divisor) divisor)
      something (show leastExponent ≤ exponent by omega)
  have sign : (Sign.positive / Sign.positive) = Sign.positive := rfl
  rw [sign, rounds]
  exact isPositive_pack positive narrow least

/-! ## Comparisons -/

theorem unpack_zero : (0.0 : Float).toModel.unpack = .zero .positive :=
  rfl

theorem le_iff (left right : Float) :
    left ≤ right ↔ left.toModel.unpack.le right.toModel.unpack = true := by
  show decide _ = true ↔ _
  exact decide_eq_true_iff

theorem lt_iff (left right : Float) :
    left < right ↔ left.toModel.unpack.lt right.toModel.unpack = true := by
  show decide _ = true ↔ _
  exact decide_eq_true_iff

theorem beq_eq (left right : Float) :
    (left == right) = left.toModel.unpack.beq right.toModel.unpack :=
  rfl

theorem not_le_zero {value : Float} (positive : IsPositive value.toModel.unpack) :
    ¬ value ≤ 0.0 := by
  rw [le_iff, unpack_zero]
  generalize value.toModel.unpack = unpacked at positive
  cases positive <;> exact Bool.false_ne_true

theorem beq_zero {value : Float} (positive : IsPositive value.toModel.unpack) :
    (value == 0.0) = false := by
  rw [beq_eq, unpack_zero]
  generalize value.toModel.unpack = unpacked at positive
  cases positive <;> rfl

/-! ## Words -/

theorem unpack_of_ofUnpacked {unpacked : UnpackedFloat} {significand : Nat} {exponent : Int}
    (exact : ofUnpacked unpacked = .finite false significand exponent)
    (something : significand ≠ 0) :
    unpacked = .finite .positive significand exponent (Nat.pos_of_ne_zero something) := by
  cases unpacked with
  | notANumber => cases exact
  | infinity sign => cases exact
  | zero sign =>
      cases sign <;> cases exact
      exact absurd rfl something
  | finite sign significand exponent positive =>
      cases sign <;> cases exact
      rfl

theorem ofFloat_ofBits {word : UInt64} (number : @isNaNBits .binary64 word.toBitVec = false) :
    ofFloat (Float.ofBits word) = ofBits word.toNat := by
  have kept : (Float.ofBits word).toBits.toBitVec = word.toBitVec := by
    show UnpackedFloat.pack .binary64 (UnpackedFloat.unpack .binary64 word.toBitVec) = _
    rw [pack_unpack, number]
    rfl
  rw [ofFloat]
  show ofBits (Float.ofBits word).toBits.toBitVec.toNat = _
  rw [kept]
  rfl

/-- The double of a normal word above zero. -/
theorem ofFloat_ofBits_normal {bits : Nat} (normal : hiddenBit ≤ bits)
    (finite : bits < 2047 * hiddenBit) :
    ofFloat (Float.ofBits (UInt64.ofNat bits)) =
      .finite false (hiddenBit + bits % hiddenBit) (bits / hiddenBit + leastExponent - 1) := by
  have hidden : hiddenBit = 2 ^ 52 := rfl
  have word : (UInt64.ofNat bits).toNat = bits := Nat.mod_eq_of_lt (by omega)
  have sign : bits / Nat.pow 2 63 = 0 := Nat.div_eq_of_lt (by
    show bits < 2 ^ 63
    omega)
  have biased : 1 ≤ bits / hiddenBit ∧ bits / hiddenBit < 2047 := by
    rw [hidden]
    omega
  have number : @isNaNBits .binary64 (UInt64.ofNat bits).toBitVec = false := by
    apply decide_eq_false
    rintro ⟨ones, -⟩
    have exponent : (UInt64.ofNat bits).toNat / hiddenBit % 2048 = 2047 :=
      (toNat_unpackExponent _).symm.trans (congrArg BitVec.toNat ones)
    rw [word] at exponent
    omega
  rw [ofFloat_ofBits number, word, ofBits, sign,
    Nat.mod_eq_of_lt (by omega : bits / hiddenBit < 2048), if_neg (by omega), if_neg (by omega)]
  rfl

/-! ## Measures -/

theorem ofFloat_of_isFinite {value : Float} (finite : value.isFinite = true) :
    ∃ negative significand exponent, ofFloat value = .finite negative significand exponent := by
  have unpacked : value.toModel.unpack.isFinite = true := finite
  rw [ofFloat_eq]
  generalize value.toModel.unpack = parts at unpacked
  cases parts with
  | notANumber => cases unpacked
  | infinity sign => cases unpacked
  | zero sign => exact ⟨_, _, _, rfl⟩
  | finite sign significand exponent positive => exact ⟨_, _, _, rfl⟩

/-- The exact value of a double above zero. -/
structure Measures (value : Float) (significand : Nat) (exponent : Int) : Prop where
  exact : ofFloat value = .finite false significand exponent
  something : significand ≠ 0

namespace Measures

variable {value : Float} {significand : Nat} {exponent : Int}
  (measured : Measures value significand exponent)

include measured

theorem canonical : IsCanonical significand exponent :=
  isCanonical_of_ofBits measured.exact

theorem unpack : value.toModel.unpack =
    .finite .positive significand exponent (Nat.pos_of_ne_zero measured.something) :=
  unpack_of_ofUnpacked ((ofFloat_eq value).symm.trans measured.exact) measured.something

theorem isPositive : IsPositive value.toModel.unpack := by
  rw [measured.unpack]
  exact .finite _ _ _

theorem log2_le : significand.log2 ≤ 52 := by
  have narrow : significand < 2 ^ 53 := measured.canonical.narrow
  have bits := (Nat.log2_lt measured.something).mpr narrow
  omega

theorem log2_eq (normal : leastExponent < exponent) : significand.log2 = 52 := by
  have full : 2 ^ 52 ≤ significand := measured.canonical.full normal
  have bits := (Nat.le_log2 measured.something).mpr full
  have bound := measured.log2_le
  omega

/-- No double is as large as what rounds beyond all of them. -/
theorem lt_overflowBound : significand * Nat.pow 2 exponent.toNat < overflowBound := by
  have hidden : hiddenBit = 2 ^ 52 := rfl
  have narrow := measured.canonical.narrow
  have greatest := measured.canonical.greatest
  rw [overflowBound]
  obtain ⟨power, top⟩ : ∃ power, power = 970 := ⟨_, rfl⟩
  rw [← top]
  calc
    significand * Nat.pow 2 exponent.toNat ≤ (2 ^ 53 - 1) * Nat.pow 2 (power + 1) :=
      Nat.mul_le_mul (by omega) (Nat.pow_le_pow_right (by decide) (by omega))
    _ = (2 ^ 54 - 2) * Nat.pow 2 power := by
      rw [two_pow_succ]
      omega
    _ < middleBelow power := Nat.mul_lt_mul_of_pos_right (by decide) (two_pow_pos power)

end Measures

/-- A quotient of doubles above zero is above zero, unless the divisor is much larger. -/
theorem Measures.not_div_le_zero {dividend divisor : Float} {first second : Nat} {high low : Int}
    (above : Measures dividend first high) (below : Measures divisor second low)
    (long : second.log2 ≤ first.log2) (near : -1023 ≤ high - low) :
    ¬ dividend / divisor ≤ 0.0 := by
  apply not_le_zero
  show IsPositive (Float.Model.pack
    (UnpackedFloat.div .binary64 dividend.toModel.unpack divisor.toModel.unpack)).unpack
  rw [above.unpack, below.unpack]
  exact isPositive_div _ _ long near

/-! ## Doubles of at least one -/

private theorem nearestBits?_window {numerator denominator bits : Nat} (positive : denominator ≠ 0)
    (unit : denominator ≤ numerator) (near : nearestBits? numerator denominator = some bits) :
    1023 * hiddenBit ≤ bits ∧ bits < 2047 * hiddenBit := by
  have something : numerator ≠ 0 := by omega
  have hidden : hiddenBit = 2 ^ 52 := rfl
  have smallest : leastExponent = -1074 := rfl
  have order : 0 ≤ order numerator denominator := by
    by_contra low
    have below := lt_of_order_lt something positive 0 0 (by omega)
    simp at below
    omega
  have exponent : -52 ≤ roundingExponent numerator denominator :=
    le_max_of_le_left (by omega)
  have full := hiddenBit_le_significandAt something positive (by omega)
  rw [nearestBits?_of_ne_zero something, toBits?] at near
  rw [if_neg (Nat.not_lt.mpr full)] at near
  split at near
  · next finite =>
      have equal := Option.some.inj near
      rw [hidden] at finite equal ⊢
      omega
  · cases near

theorem measures_of_nearest? {numerator denominator : Nat} {value : Float}
    (positive : denominator ≠ 0) (unit : denominator ≤ numerator)
    (near : nearest? numerator denominator = some value) :
    ∃ significand exponent, Measures value significand exponent ∧ -52 ≤ exponent := by
  obtain ⟨bits, found, rfl⟩ := Option.map_eq_some_iff.mp near
  have window := nearestBits?_window positive unit found
  have hidden : hiddenBit = 2 ^ 52 := rfl
  refine ⟨_, _, ⟨ofFloat_ofBits_normal (by omega) window.2, by omega⟩, ?_⟩
  rw [leastExponent]
  have quotient : 1023 ≤ bits / hiddenBit := by
    rw [hidden] at window ⊢
    omega
  omega

theorem nearest?_eq_none_iff (numerator : Nat) {denominator : Nat} (positive : denominator ≠ 0) :
    nearest? numerator denominator = none ↔ overflowBound * denominator ≤ numerator := by
  rw [nearest?, Option.map_eq_none_iff, nearestBits?_eq_none_iff positive]

theorem ofInt?_eq_none_iff (value : Int) :
    ofInt? value = none ↔ overflowBound ≤ value.natAbs := by
  rw [ofInt?, Option.map_eq_none_iff, nearest?_eq_none_iff _ one_ne_zero, Nat.mul_one]

theorem measures_of_ofInt? {whole : Int} {value : Float} (positive : 0 < whole)
    (converts : ofInt? whole = some value) :
    ∃ significand exponent, Measures value significand exponent ∧ -52 ≤ exponent := by
  obtain ⟨magnitude, near, signed⟩ := Option.map_eq_some_iff.mp converts
  rw [if_neg (by omega)] at signed
  subst signed
  exact measures_of_nearest? one_ne_zero (by omega) near

end Binary64

end Reattempt
