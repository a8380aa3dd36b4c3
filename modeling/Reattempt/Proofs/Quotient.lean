import Mathlib.Algebra.Order.Ring.Int
import Reattempt.Number.Scalar
import Reattempt.Proofs.Double

/-! Finite numbers above zero, and their quotients. The quotient of a number and a smaller
one fails only by being too large. Its logarithm exists: it is never rounded to zero. -/

namespace Reattempt

namespace Scalar

/-! ## Finite numbers -/

def IsFinite : Scalar → Prop
  | .whole _ => True
  | .real value => value.isFinite = true

inductive IsAbove : Scalar → Prop
  | whole {value : Int} (positive : 0 < value) : IsAbove (.whole value)
  | real {value : Float} {significand : Nat} {exponent : Int}
      (measured : Binary64.Measures value significand exponent) : IsAbove (.real value)

theorem measures_of_compareInt {whole : Int} {value : Float} (finite : value.isFinite = true)
    (nonnegative : 0 ≤ whole)
    (below : Binary64.compareInt whole (Binary64.ofFloat value) = some .lt) :
    ∃ significand exponent, Binary64.Measures value significand exponent ∧
      whole * Nat.pow 2 (-exponent).toNat < significand * Nat.pow 2 exponent.toNat := by
  obtain ⟨negative, significand, exponent, exact⟩ := Binary64.ofFloat_of_isFinite finite
  rw [exact] at below
  simp only [Binary64.compareInt, Option.some.injEq, Int.compare_eq_lt] at below
  have scaled : 0 ≤ whole * Nat.pow 2 (-exponent).toNat :=
    Int.mul_nonneg nonnegative (Int.natCast_nonneg _)
  have magnitude : (0 : Int) ≤ significand * Nat.pow 2 exponent.toNat :=
    Int.mul_nonneg (Int.natCast_nonneg _) (Int.natCast_nonneg _)
  cases negative with
  | true =>
      rw [if_pos rfl] at below
      omega
  | false =>
      rw [if_neg Bool.false_ne_true] at below
      refine ⟨significand, exponent, ⟨exact, ?_⟩, below⟩
      rintro rfl
      rw [Nat.cast_zero, Int.zero_mul] at below
      omega

private theorem order_real_whole {value : Float} {whole : Int} :
    order (.real value) (.whole whole) = some .gt ↔
      Binary64.compareInt whole (Binary64.ofFloat value) = some .lt := by
  rw [order, Option.map_eq_some_iff]
  constructor
  · rintro ⟨comparison, compares, swapped⟩
    cases comparison with
    | lt => exact compares
    | eq => cases swapped
    | gt => cases swapped
  · intro compares
    exact ⟨_, compares, rfl⟩

theorem isAbove_of_order {value : Scalar} (finite : value.IsFinite)
    (above : value.order (.whole 0) = some .gt) : value.IsAbove := by
  cases value with
  | whole value => exact .whole (Int.compare_eq_gt.mp (Option.some.inj above))
  | real value =>
      rw [order_real_whole] at above
      obtain ⟨significand, exponent, measured, -⟩ :=
        measures_of_compareInt finite (Int.le_refl 0) above
      exact .real measured

private theorem exists_order {value : Scalar} (finite : value.IsFinite) (whole : Int) :
    ∃ comparison, value.order (.whole whole) = some comparison := by
  cases value with
  | whole value => exact ⟨_, rfl⟩
  | real value =>
      obtain ⟨negative, significand, exponent, exact⟩ := Binary64.ofFloat_of_isFinite finite
      rw [order, exact]
      exact ⟨_, rfl⟩

theorem order_of_not_atMost {value : Scalar} (finite : value.IsFinite) {whole : Int}
    (high : value.atMost (.whole whole) = false) : value.order (.whole whole) = some .gt := by
  obtain ⟨comparison, ordered⟩ := exists_order finite whole
  rw [atMost, ordered] at high
  rw [ordered]
  cases comparison with
  | gt => rfl
  | lt => cases high
  | eq => cases high

theorem order_of_not_below {value : Scalar} (finite : value.IsFinite) {whole : Int}
    (high : value.below (.whole whole) = false) (differs : value.same (.whole whole) = false) :
    value.order (.whole whole) = some .gt := by
  obtain ⟨comparison, ordered⟩ := exists_order finite whole
  rw [below, ordered] at high
  rw [same, ordered] at differs
  rw [ordered]
  cases comparison with
  | gt => rfl
  | lt => cases high
  | eq => cases differs

/-! ## Conversions -/

theorem toReal_whole_eq_error_iff {value : Int} {fault : ArithmeticFault} :
    (Scalar.whole value).toReal = .error fault ↔
      fault = .wholeTooLarge ∧ Binary64.overflowBound ≤ value.natAbs := by
  rw [← Binary64.ofInt?_eq_none_iff, toReal]
  split
  · next converts => simp [converts]
  · next overflows => simp [overflows, eq_comm]

theorem toReal_above_eq_error_iff {value : Int} (positive : 0 < value)
    {fault : ArithmeticFault} :
    (Scalar.whole value).toReal = .error fault ↔
      fault = .wholeTooLarge ∧ (Binary64.overflowBound : Int) ≤ value := by
  rw [toReal_whole_eq_error_iff, ← Nat.cast_le (α := Int), Int.natAbs_of_nonneg positive.le]

/-- What is converted is followed by what converts as well. -/
theorem toReal_pred {value : Int} (positive : 0 < value) {converted : Float}
    (converts : (Scalar.whole value).toReal = .ok converted) :
    ∃ smaller, (Scalar.whole (value - 1)).toReal = .ok smaller := by
  cases pred : (Scalar.whole (value - 1)).toReal with
  | ok smaller => exact ⟨smaller, rfl⟩
  | error fault =>
      have large := (toReal_whole_eq_error_iff.mp pred).2
      have larger : (Scalar.whole value).toReal = .error .wholeTooLarge :=
        toReal_whole_eq_error_iff.mpr ⟨rfl, large.trans (by omega)⟩
      rw [larger] at converts
      cases converts

theorem times_whole_real_eq_error_iff {value : Int} (positive : 0 < value) (factor : Float)
    {fault : ArithmeticFault} :
    (Scalar.whole value).times (.real factor) = .error fault ↔
      fault = .wholeTooLarge ∧ (Binary64.overflowBound : Int) ≤ value := by
  rw [← toReal_above_eq_error_iff positive]
  simp only [times, combine, bind, Except.bind]
  cases (Scalar.whole value).toReal <;> simp [toReal, pure, Except.pure]

theorem times_real_whole_eq_error_iff {value : Int} (positive : 0 < value) (factor : Float)
    {fault : ArithmeticFault} :
    (Scalar.real factor).times (.whole value) = .error fault ↔
      fault = .wholeTooLarge ∧ (Binary64.overflowBound : Int) ≤ value := by
  rw [← toReal_above_eq_error_iff positive]
  simp only [times, combine, bind, Except.bind, toReal.eq_2]
  cases (Scalar.whole value).toReal <;> simp [pure, Except.pure]

/-! ## Quotients -/

inductive QuotientFault : (dividend divisor : Scalar) → ArithmeticFault → Prop
  | quotient {dividend divisor : Int}
      (large : Binary64.overflowBound * divisor ≤ dividend) :
      QuotientFault (.whole dividend) (.whole divisor) .quotientTooLarge
  | dividend {dividend : Int} {divisor : Float} (large : Binary64.overflowBound ≤ dividend) :
      QuotientFault (.whole dividend) (.real divisor) .wholeTooLarge

/-- What a quotient of a number and a smaller one above zero comes to. -/
structure QuotientContract (dividend divisor : Scalar) : Prop where
  fault : ∀ fault, dividend.quotient divisor = .error fault ↔ QuotientFault dividend divisor fault
  above : ∀ {value}, dividend.quotient divisor = .ok value → ¬ value ≤ 0.0

namespace QuotientContract

variable {dividend divisor : Scalar} {value : Float} {fault : ArithmeticFault}

theorem of_ok (divides : dividend.quotient divisor = .ok value) (above : ¬ value ≤ 0.0)
    (faultless : ∀ fault, ¬ QuotientFault dividend divisor fault) :
    QuotientContract dividend divisor := by
  constructor
  · intro fault
    rw [divides]
    constructor
    · intro impossible
      cases impossible
    · exact fun explained => absurd explained (faultless fault)
  · intro other computes
    rw [divides] at computes
    cases computes
    exact above

theorem of_error (fails : dividend.quotient divisor = .error fault)
    (explained : QuotientFault dividend divisor fault) : QuotientContract dividend divisor := by
  constructor
  · intro other
    rw [fails]
    constructor
    · intro same
      cases same
      exact explained
    · intro otherwise
      cases explained <;> cases otherwise <;> rfl
  · intro value computes
    rw [fails] at computes
    cases computes

end QuotientContract

private theorem compare_of_measures {left right : Float} {first second : Nat} {high low : Int}
    (leftMeasured : Binary64.Measures left first high)
    (rightMeasured : Binary64.Measures right second low) :
    left.toModel.unpack.compare right.toModel.unpack =
      some ((compare high low).then (compare first second)) := by
  rw [leftMeasured.unpack, rightMeasured.unpack]
  rfl

/-- The larger of two doubles has the longer significand and the higher exponent, or both
are as long and as high. -/
theorem measures_ordered {left right : Float} {first second : Nat} {high low : Int}
    (leftMeasured : Binary64.Measures left first high)
    (rightMeasured : Binary64.Measures right second low)
    (exceeds : (Scalar.real left).atMost (.real right) = false) :
    second.log2 ≤ first.log2 ∧ low ≤ high := by
  have compares := compare_of_measures leftMeasured rightMeasured
  have notBelow : ¬ left < right := by
    intro below
    rw [atMost, order, realOrder, if_pos below] at exceeds
    cases exceeds
  have notEqual : (left == right) = false := by
    by_contra equal
    rw [Bool.not_eq_false] at equal
    rw [atMost, order, realOrder, if_neg notBelow, if_pos equal] at exceeds
    cases exceeds
  rw [Binary64.lt_iff, Float.Model.UnpackedFloat.lt, compares] at notBelow
  rw [Binary64.beq_eq, Float.Model.UnpackedFloat.beq, compares] at notEqual
  cases exponents : compare high low with
  | lt => simp [exponents] at notBelow
  | eq =>
      have level := Int.compare_eq_eq.mp exponents
      have larger : second ≤ first := by
        by_contra smaller
        have less : compare first second = .lt := Nat.compare_eq_lt.mpr (Nat.lt_of_not_le smaller)
        simp [exponents, less] at notBelow
      refine ⟨?_, level.ge⟩
      exact (Nat.le_log2 leftMeasured.something).mpr
        ((Nat.log2_self_le rightMeasured.something).trans larger)
  | gt =>
      have higher := Int.compare_eq_gt.mp exponents
      have least := rightMeasured.canonical.least
      refine ⟨?_, higher.le⟩
      rw [leftMeasured.log2_eq (by omega)]
      exact rightMeasured.log2_le

private theorem QuotientContract.of_reals {dividend divisor : Float} {first second : Nat}
    {high low : Int} (above : Binary64.Measures dividend first high)
    (below : Binary64.Measures divisor second low)
    (exceeds : (Scalar.real dividend).atMost (.real divisor) = false) :
    QuotientContract (.real dividend) (.real divisor) := by
  have ordered := measures_ordered above below exceeds
  have divides : (Scalar.real dividend).quotient (.real divisor) = .ok (dividend / divisor) := by
    simp only [quotient, toReal, bind, Except.bind, Binary64.beq_zero below.isPositive]
    rfl
  refine .of_ok divides (above.not_div_le_zero below ordered.1 (by omega)) ?_
  intro fault explained
  cases explained

theorem QuotientContract.of_wholes {dividend divisor : Int} (positive : 0 < divisor)
    (exceeds : (Scalar.whole dividend).atMost (.whole divisor) = false) :
    QuotientContract (.whole dividend) (.whole divisor) := by
  rw [atMost_whole, decide_eq_false_iff_not, Int.not_le] at exceeds
  have divisorMagnitude : (divisor.natAbs : Int) = divisor := by omega
  have dividendMagnitude : (dividend.natAbs : Int) = dividend := by omega
  have large : Binary64.overflowBound * divisor.natAbs ≤ dividend.natAbs ↔
      (Binary64.overflowBound * divisor : Int) ≤ dividend := by
    rw [← Nat.cast_le (α := Int), Nat.cast_mul, divisorMagnitude, dividendMagnitude]
  have near := Binary64.nearest?_eq_none_iff dividend.natAbs (show divisor.natAbs ≠ 0 by omega)
  rw [large] at near
  cases found : Binary64.nearest? dividend.natAbs divisor.natAbs with
  | none =>
      have overflows := near.mp found
      refine .of_error ?_ (.quotient overflows)
      rw [quotient, if_neg (by omega), found]
  | some value =>
      obtain ⟨significand, exponent, measured, -⟩ :=
        Binary64.measures_of_nearest? (by omega) (by omega) found
      have divides : (Scalar.whole dividend).quotient (.whole divisor) = .ok value := by
        rw [quotient, if_neg (by omega), found]
        simp only
        rw [if_pos (by simp; omega)]
      refine .of_ok divides (Binary64.not_le_zero measured.isPositive) ?_
      intro fault explained
      cases explained with
      | quotient large =>
          rw [near.mpr large] at found
          cases found

private theorem QuotientContract.of_whole_real {dividend : Int} {divisor : Float}
    {significand : Nat} {exponent : Int} (positive : 0 < dividend)
    (below : Binary64.Measures divisor significand exponent) :
    QuotientContract (.whole dividend) (.real divisor) := by
  have magnitude : (dividend.natAbs : Int) = dividend := by omega
  have large : Binary64.overflowBound ≤ dividend.natAbs ↔
      (Binary64.overflowBound : Int) ≤ dividend := by
    rw [← Nat.cast_le (α := Int), magnitude]
  cases converts : Binary64.ofInt? dividend with
  | none =>
      have overflows := (Binary64.ofInt?_eq_none_iff dividend).mp converts
      refine .of_error ?_ (.dividend (large.mp overflows))
      simp only [quotient, toReal, converts]
      rfl
  | some converted =>
      obtain ⟨first, high, above, unit⟩ := Binary64.measures_of_ofInt? positive converts
      have divides : (Scalar.whole dividend).quotient (.real divisor) =
          .ok (converted / divisor) := by
        simp only [quotient, toReal, converts, bind, Except.bind,
          Binary64.beq_zero below.isPositive]
        rfl
      have least : Binary64.leastExponent = -1074 := rfl
      have greatest := below.canonical.greatest
      have long := below.log2_le.trans_eq (above.log2_eq (by omega)).symm
      refine .of_ok divides (above.not_div_le_zero below long (by omega)) ?_
      intro fault explained
      cases explained with
      | dividend overflows =>
          rw [(Binary64.ofInt?_eq_none_iff dividend).mpr (large.mpr overflows)] at converts
          cases converts

private theorem QuotientContract.of_real_whole {dividend : Float} {divisor : Int}
    (finite : dividend.isFinite = true) (positive : 0 < divisor)
    (exceeds : (Scalar.real dividend).order (.whole divisor) = some .gt) :
    QuotientContract (.real dividend) (.whole divisor) := by
  rw [order_real_whole] at exceeds
  obtain ⟨first, high, above, larger⟩ := measures_of_compareInt finite positive.le exceeds
  have magnitude : (divisor.natAbs : Int) = divisor := by omega
  have scale : (0 : Int) < Nat.pow 2 (-high).toNat := by exact_mod_cast Nat.two_pow_pos _
  have unit : -52 ≤ high := by
    by_contra tiny
    have narrow : first < 2 ^ 53 := above.canonical.narrow
    have wide : 2 ^ 53 ≤ Nat.pow 2 (-high).toNat :=
      Nat.pow_le_pow_right (by decide) (by omega)
    have scaled : (Nat.pow 2 (-high).toNat : Int) ≤ divisor * Nat.pow 2 (-high).toNat :=
      le_mul_of_one_le_left scale.le positive
    have flat : Nat.pow 2 high.toNat = 1 := by
      rw [show high.toNat = 0 by omega]
    rw [flat, Nat.cast_one, Int.mul_one] at larger
    omega
  have converts : Binary64.ofInt? divisor ≠ none := by
    rw [ne_eq, Binary64.ofInt?_eq_none_iff]
    have bound : ((first * Nat.pow 2 high.toNat : Nat) : Int) < Binary64.overflowBound :=
      Nat.cast_lt.mpr above.lt_overflowBound
    have widened : divisor ≤ divisor * Nat.pow 2 (-high).toNat :=
      le_mul_of_one_le_right positive.le scale
    rw [Nat.cast_mul] at bound
    omega
  obtain ⟨converted, converts⟩ := Option.ne_none_iff_exists'.mp converts
  obtain ⟨second, low, below, -⟩ := Binary64.measures_of_ofInt? positive converts
  have divides : (Scalar.real dividend).quotient (.whole divisor) =
      .ok (dividend / converted) := by
    simp only [quotient, toReal, converts, bind, Except.bind, Binary64.beq_zero below.isPositive]
    rfl
  have least : Binary64.leastExponent = -1074 := rfl
  have greatest := below.canonical.greatest
  have long := below.log2_le.trans_eq (above.log2_eq (by omega)).symm
  refine .of_ok divides (above.not_div_le_zero below long (by omega)) ?_
  intro fault explained
  cases explained

theorem quotientContract {dividend divisor : Scalar} (finite : dividend.IsFinite)
    (above : dividend.IsAbove) (below : divisor.IsAbove)
    (exceeds : dividend.atMost divisor = false) : QuotientContract dividend divisor := by
  cases above with
  | whole positive =>
      cases below with
      | whole least => exact .of_wholes least exceeds
      | real measured => exact .of_whole_real positive measured
  | real measured =>
      cases below with
      | whole least => exact .of_real_whole finite least (order_of_not_atMost finite exceeds)
      | real other => exact .of_reals measured other exceeds

end Scalar

end Reattempt
