import Reattempt.Number.DecimalText

/-! Numbers of seconds and factors: whole numbers of any size and doubles.
Arithmetic on whole numbers stays exact; as soon as a double takes part the whole
number is first rounded to a double, which fails for one beyond the largest double.
Comparisons are exact in every case. -/

namespace Reattempt

/-- The most decimal digits that a whole number is written or read with. Longer ones
are refused, since the work grows with the square of their length. -/
def digitLimit : Nat := 4300

inductive ArithmeticFault where
  | wholeTooLarge
  | quotientTooLarge
  | powerTooLarge
  | logarithmDomain
  | divisionByZero
  | nanToWhole
  | infinityToWhole
  | tooManyDigits
  deriving DecidableEq, Repr

namespace ArithmeticFault

def message : ArithmeticFault → String
  | .wholeTooLarge => "int too large to convert to float"
  | .quotientTooLarge => "integer division result too large for a float"
  | .powerTooLarge => "(34, 'Numerical result out of range')"
  | .logarithmDomain => "math domain error"
  | .divisionByZero => "division by zero"
  | .nanToWhole => "cannot convert float NaN to integer"
  | .infinityToWhole => "cannot convert float infinity to integer"
  | .tooManyDigits =>
      s!"Exceeds the limit ({digitLimit} digits) for integer string conversion; " ++
        "use sys.set_int_max_str_digits() to increase the limit"

end ArithmeticFault

inductive Scalar where
  | whole (value : Int)
  | real (value : Float)
  deriving Repr

instance : Inhabited Scalar := ⟨.whole 0⟩

namespace Scalar

def toReal : Scalar → Except ArithmeticFault Float
  | .whole value =>
      match Binary64.ofInt? value with
      | some converted => .ok converted
      | none => .error .wholeTooLarge
  | .real value => .ok value

/-! ## Order -/

def realOrder (left right : Float) : Option Ordering :=
  if left < right then some .lt
  else if left == right then some .eq
  else if right < left then some .gt
  else none

/-- How two numbers compare; a NaN compares with nothing. -/
def order : Scalar → Scalar → Option Ordering
  | .whole left, .whole right => some (compare left right)
  | .real left, .real right => realOrder left right
  | .whole left, .real right => Binary64.compareInt left (Binary64.ofFloat right)
  | .real left, .whole right =>
      (Binary64.compareInt right (Binary64.ofFloat left)).map Ordering.swap

def below (left right : Scalar) : Bool :=
  order left right == some .lt

def atMost (left right : Scalar) : Bool :=
  match order left right with
  | some comparison => comparison != .gt
  | none => false

def same (left right : Scalar) : Bool :=
  order left right == some .eq

def least (left right : Scalar) : Scalar :=
  if right.below left then right else left

def greatest (left right : Scalar) : Scalar :=
  if left.below right then right else left

@[simp] theorem below_whole (left right : Int) :
    (Scalar.whole left).below (.whole right) = decide (left < right) := by
  simp only [below, order, compare, compareOfLessAndEq]
  grind

@[simp] theorem atMost_whole (left right : Int) :
    (Scalar.whole left).atMost (.whole right) = decide (left ≤ right) := by
  simp only [atMost, order, compare, compareOfLessAndEq]
  grind

@[simp] theorem same_whole (left right : Int) :
    (Scalar.whole left).same (.whole right) = decide (left = right) := by
  simp only [same, order, compare, compareOfLessAndEq]
  grind

theorem least_whole (left right : Int) :
    least (.whole left) (.whole right) = .whole (min left right) := by
  simp only [least, below_whole, decide_eq_true_eq]
  split <;> congr 1 <;> omega

/-! ## Arithmetic -/

def combine (onWholes : Int → Int → Int) (onReals : Float → Float → Float) :
    Scalar → Scalar → Except ArithmeticFault Scalar
  | .whole left, .whole right => .ok (.whole (onWholes left right))
  | left, right => do
      let left ← left.toReal
      let right ← right.toReal
      return .real (onReals left right)

def plus : Scalar → Scalar → Except ArithmeticFault Scalar :=
  combine (· + ·) (· + ·)

def minus : Scalar → Scalar → Except ArithmeticFault Scalar :=
  combine (· - ·) (· - ·)

def times : Scalar → Scalar → Except ArithmeticFault Scalar :=
  combine (· * ·) (· * ·)

@[simp] theorem times_whole (left right : Int) :
    (Scalar.whole left).times (.whole right) = .ok (.whole (left * right)) :=
  rfl

/-- The quotient as a double. The quotient of whole numbers is rounded once, from
its exact value. -/
def quotient : Scalar → Scalar → Except ArithmeticFault Float
  | .whole left, .whole right =>
      if right = 0 then .error .divisionByZero
      else
        match Binary64.nearest? left.natAbs right.natAbs with
        | some magnitude => .ok (if (left < 0) = (right < 0) then magnitude else -magnitude)
        | none => .error .quotientTooLarge
  | left, right => do
      let left ← left.toReal
      let right ← right.toReal
      if right == 0.0 then .error .divisionByZero
      else return left / right

def realPower (base exponent : Float) : Except ArithmeticFault Scalar :=
  let power := Float.pow base exponent
  if base.isFinite && power.isInf then .error .powerTooLarge
  else .ok (.real power)

/-- A power of a whole number. One is kept apart because it stays one for exponents
far beyond what could be computed for any other base. -/
def wholePower (base : Int) (exponent : Nat) : Int :=
  match base with
  | .ofNat 1 => 1
  | .ofNat magnitude => Nat.pow magnitude exponent
  | .negSucc _ => Int.pow base exponent

private theorem wholePower_eq (base : Int) (exponent : Nat) :
    wholePower base exponent = Int.pow base exponent := by
  unfold wholePower
  split
  · exact (Int.one_pow).symm
  · exact Int.natCast_pow _ _
  · rfl

/-- A power with a whole exponent. It is whole for a whole base, unless the exponent
is negative. -/
def power : Scalar → Int → Except ArithmeticFault Scalar
  | .whole base, .ofNat exponent => .ok (.whole (wholePower base exponent))
  | base, exponent => do
      let base ← base.toReal
      let exponent ← (Scalar.whole exponent).toReal
      realPower base exponent

@[simp] theorem power_whole (base : Int) (exponent : Nat) :
    (Scalar.whole base).power exponent = .ok (.whole (Int.pow base exponent)) := by
  rw [← wholePower_eq]
  rfl

/-- The logarithm of a whole number beyond the largest double: the number is split
into a fraction from a half up to one and a power of two. -/
def largeLogarithm (value : Nat) : Float :=
  let bits := value.log2 + 1
  let fraction := (Binary64.nearest? value (Nat.pow 2 bits)).getD 1.0
  let (fraction, bits) := if fraction == 1.0 then (0.5, bits + 1) else (fraction, bits)
  Float.log fraction + Float.log 2.0 * ((Binary64.nearest? bits 1).getD 0.0)

/-- The natural logarithm as a double, for numbers of any size. -/
def logarithm : Scalar → Except ArithmeticFault Float
  | .whole value =>
      if value ≤ 0 then .error .logarithmDomain
      else
        match Binary64.ofInt? value with
        | some converted => .ok (Float.log converted)
        | none => .ok (largeLogarithm value.natAbs)
  | .real value =>
      if value ≤ 0.0 then .error .logarithmDomain else .ok (Float.log value)

def truncate : Scalar → Except ArithmeticFault Int
  | .whole value => .ok value
  | .real value =>
      match Binary64.ofFloat value with
      | .nan => .error .nanToWhole
      | .infinite _ => .error .infinityToWhole
      | .finite negative significand exponent =>
          let magnitude : Int :=
            significand * Nat.pow 2 exponent.toNat / Nat.pow 2 (-exponent).toNat
          .ok (if negative then -magnitude else magnitude)

/-! ## Text -/

def text (style : DecimalStyle) : Scalar → String
  | .whole value => toString value
  | .real value => (Binary64.ofFloat value).text style

theorem toList_text_whole (style : DecimalStyle) (value : Int) :
    ((Scalar.whole value).text style).toList =
      Binary64.signed (decide (value < 0)) (Nat.toDigits 10 value.natAbs) := by
  rw [text, Int.toString_eq_repr, Int.repr_eq_if]
  by_cases negative : value < 0
  · have magnitude : (-value).toNat = value.natAbs := by omega
    rw [if_neg (by omega), decide_eq_true negative, magnitude]
    simp [Binary64.signed]
  · have magnitude : value.toNat = value.natAbs := by omega
    rw [if_pos (by omega), decide_eq_false negative, magnitude]
    simp [Binary64.signed]

def shown (value : Scalar) : String :=
  value.text .plain

def writableBound : Nat := Nat.pow 10 digitLimit

def isWritable : Scalar → Bool
  | .whole value => value.natAbs < writableBound
  | .real _ => true

def written (value : Scalar) : Except ArithmeticFault String :=
  if value.isWritable then .ok value.shown else .error .tooManyDigits

theorem writableBound_pos : 0 < writableBound := by
  delta writableBound
  generalize digitLimit = limit
  exact Nat.pow_pos (by decide)

theorem not_isWritable_writableBound : (whole writableBound).isWritable = false := by
  rewrite [isWritable, decide_eq_false_iff_not, Int.natAbs_natCast]
  exact Nat.lt_irrefl _

private theorem pow_le_writableBound {digits : Nat} (within : digits ≤ digitLimit) :
    Nat.pow 10 digits ≤ writableBound := by
  delta writableBound
  generalize digitLimit = limit at within ⊢
  exact Nat.pow_le_pow_right (by decide) within

theorem isWritable_whole {value : Int} {digits : Nat} (within : digits ≤ digitLimit)
    (short : value.natAbs < Nat.pow 10 digits) : (whole value).isWritable = true := by
  rewrite [isWritable, decide_eq_true_eq]
  exact Nat.lt_of_lt_of_le short (pow_le_writableBound within)

theorem written_of_isWritable {value : Scalar} (writable : value.isWritable = true) :
    value.written = .ok value.shown := by
  rw [written, if_pos writable]

theorem written_of_unwritable {value : Scalar} (unwritable : value.isWritable = false) :
    value.written = .error .tooManyDigits := by
  rw [written, unwritable, if_neg Bool.false_ne_true]

/-- Two places after the point, rounded from the double the number is or converts
to. -/
def fixedText (value : Scalar) : Except ArithmeticFault String := do
  return (Binary64.ofFloat (← value.toReal)).fixedText

end Scalar

end Reattempt
