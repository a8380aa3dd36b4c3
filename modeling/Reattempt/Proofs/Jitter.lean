import Reattempt.Proofs.Double
import Reattempt.Proofs.Exponential
import Reattempt.Proofs.Outside

/-! Jitter in layers. A randomized interval function may wrap another randomized one, and so on
down to a function that draws no numbers. However many layers there are, the innermost function
is asked once, then each layer draws one number around what the layer below it answers, and no
layer answers with less than zero or with a NaN. -/

namespace Reattempt

variable {σ α β : Type}

/-! ## Not below zero -/

namespace Binary64

private theorem isPositive_of_zero_lt {value : Float} (above : 0.0 < value) :
    IsPositive value.toModel.unpack := by
  rw [lt_iff, unpack_zero] at above
  generalize value.toModel.unpack = unpacked at above ⊢
  cases unpacked with
  | notANumber => cases above
  | zero sign => cases above
  | infinity sign =>
      cases sign with
      | positive => exact .infinity
      | negative => cases above
  | finite sign significand exponent something =>
      cases sign with
      | positive => exact .finite significand exponent something
      | negative => cases above

/-- What is above zero as a double is above zero by its exact value. -/
theorem compareInt_zero_of_lt {value : Float} (above : 0.0 < value) :
    compareInt 0 (ofFloat value) = some .lt := by
  have positive := isPositive_of_zero_lt above
  rw [ofFloat_eq]
  generalize value.toModel.unpack = unpacked at positive
  cases positive with
  | infinity => rfl
  | finite significand exponent something =>
      have scaled : (0 : Int) < significand * Nat.pow 2 exponent.toNat := by
        exact_mod_cast Nat.mul_pos something (Nat.two_pow_pos _)
      rw [ofUnpacked, isNegative, compareInt, Int.zero_mul, if_neg Bool.false_ne_true,
        Int.compare_eq_lt.mpr scaled]

end Binary64

namespace Scalar

def IsNumber : Scalar → Prop
  | .whole _ => True
  | .real value => Binary64.ofFloat value ≠ .nan

/-- The number is zero, as a double, or above zero, and it is no NaN. -/
structure IsNonnegative (result : Scalar) : Prop where
  zeroOrAbove : result = .real 0.0 ∨ (Scalar.whole 0).below result = true
  notBelow : result.below (.whole 0) = false
  isNumber : result.IsNumber

theorem isNonnegative_zero : IsNonnegative (.real 0.0) where
  zeroOrAbove := .inl rfl
  notBelow := by
    rw [below, order_zero_whole]
    rfl
  isNumber := by
    rw [IsNumber, Binary64.ofFloat_zero]
    exact Binary64.noConfusion

private theorem zero_lt_of_realOrder {value : Float} (order : realOrder 0.0 value = some .lt) :
    0.0 < value := by
  by_contra below
  rw [realOrder, if_neg below] at order
  split at order
  · cases order
  · split at order <;> cases order

private theorem isNonnegative_of_above {value : Scalar}
    (above : (Scalar.real 0.0).below value = true) : value.IsNonnegative := by
  cases value with
  | whole value =>
      rw [below, order_zero_whole] at above
      have positive := of_decide_eq_true ((below_whole 0 value).symm.trans above)
      refine ⟨.inr above, ?_, trivial⟩
      rw [below_whole]
      exact decide_eq_false positive.le.not_gt
  | real value =>
      rw [below, beq_iff_eq] at above
      have compares := Binary64.compareInt_zero_of_lt (zero_lt_of_realOrder above)
      refine ⟨.inr ?_, ?_, ?_⟩
      · rw [below, order, compares]
        rfl
      · rw [below, order, compares]
        rfl
      · intro nan
        rw [nan] at compares
        cases compares

/-- Whatever the number is, a NaN or an infinity included. -/
theorem isNonnegative_greatest (value : Scalar) :
    ((Scalar.real 0.0).greatest value).IsNonnegative := by
  unfold greatest
  split
  · next above => exact isNonnegative_of_above above
  · exact isNonnegative_zero

def between (low high : Scalar) (draw : Float) : Except ArithmeticFault Scalar := do
  let width ← high.minus low
  let shift ← width.times (.real draw)
  low.plus shift

end Scalar

/-! ## What is drawn -/

def Observation.bounds? : Observation → Option (Scalar × Scalar)
  | .drawn low high => some (low, high)
  | _ => none

namespace World

def draws (world : World σ) : List (Scalar × Scalar) :=
  world.trace.filterMap Observation.bounds?

theorem draws_observe (world : World σ) (observation : Observation) :
    (world.observe observation).draws = world.draws ++ observation.bounds?.toList := by
  rw [draws, trace_observe, List.filterMap_append, ← draws]
  cases drawn : observation.bounds? <;> simp [drawn]

def SameDraws (before after : World σ) : Prop :=
  after.draws = before.draws

instance : IsPreorder (World σ) SameDraws where
  refl _ := rfl
  trans _ _ _ begun ended := ended.trans begun

theorem toleratesCode_sameDraws : ToleratesCode (σ := σ) SameDraws where
  observe world observation fromCode := by
    have nothing : observation.bounds? = none := by
      cases observation with
      | drawn low high => exact fromCode.elim
      | _ => rfl
    rw [SameDraws, draws_observe, nothing]
    exact List.append_nil _
  cancel _ _ := rfl
  register _ _ _ _ := rfl
  remember _ _ := rfl
  newIdentity _ := rfl

end World

open World

namespace Action

/-! ## Results of actions -/

private theorem bind_eq_ok_iff {action : Action σ α} {next : α → Action σ β} {world after : World σ}
    {result : β} :
    (action >>= next) world = .ok result after ↔
      ∃ value middle, action world = .ok value middle ∧ next value middle = .ok result after := by
  rw [bind_apply]
  cases ends : action world with
  | ok value middle => simp
  | error failure middle => simp

private theorem calculate_eq_ok_iff {calculation : Except ArithmeticFault α} {world after : World σ}
    {result : α} :
    calculate calculation world = .ok result after ↔ calculation = .ok result ∧ after = world := by
  cases calculation with
  | ok value => simp [eq_comm]
  | error fault => simp

private theorem calculate_bind (first : Except ArithmeticFault α)
    (next : α → Except ArithmeticFault β) :
    (calculate (first >>= next) : Action σ β) =
      calculate first >>= fun value => calculate (next value) := by
  cases first with
  | ok value => rfl
  | error fault => rfl

end Action

/-! ## Layers -/

namespace Backoff

def IsInnermost : Backoff → Prop
  | .randomized _ _ => False
  | _ => True

theorem randomized?_eq_ok_iff {inner tower : Backoff} {factor : Scalar} :
    randomized? inner factor = .ok tower ↔
      ((Scalar.whole 0).atMost factor = true ∧ factor.atMost (.whole 1) = true) ∧
        tower = .randomized inner factor := by
  unfold randomized?
  split
  · next accepted =>
      rw [Bool.and_eq_true] at accepted
      simp [accepted, eq_comm]
  · next refused =>
      rw [Bool.and_eq_true] at refused
      simp [refused]

/-- Layers around an interval function, the first factor belonging to the innermost one. -/
def layered? (inner : Backoff) (factors : List Scalar) : Except BackoffError Backoff :=
  factors.foldlM randomized? inner

theorem layered?_cons {inner tower : Backoff} {factor : Scalar} {factors : List Scalar}
    (built : inner.layered? (factor :: factors) = .ok tower) :
    (Backoff.randomized inner factor).layered? factors = .ok tower := by
  rw [layered?, List.foldlM_cons] at built
  cases first : randomized? inner factor with
  | error refused =>
      rw [first] at built
      cases built
  | ok next =>
      rw [first] at built
      rw [← (randomized?_eq_ok_iff.mp first).2]
      exact built

end Backoff

namespace Environment

variable (environment : Environment σ)

theorem keeps_draws_of_innermost {inner : Backoff} (innermost : inner.IsInnermost) (attempt : Int) :
    (environment.delay inner attempt).Keeps SameDraws := by
  have calculates (result : Except ArithmeticFault Scalar) :
      (Action.calculate result : Action σ Scalar).Keeps SameDraws :=
    Action.keeps_calculate toleratesCode_sameDraws.newIdentity result
  cases inner with
  | constant delay => exact Action.keeps_pure delay
  | linear base cap => exact calculates _
  | exponential base multiplier cap => exact calculates _
  | fibonacci base cap => exact calculates _
  | randomized inner factor => exact innermost.elim
  | custom function => exact toleratesCode_sameDraws.keeps_run environment _

/-- One layer: the bounds lie to both sides of the delay of the layer below, one number is drawn
between them, and zero is put in place of whatever is not above zero. -/
structure Spreads (factor delay : Scalar) (world : World σ) (bounds : Scalar × Scalar)
    (result : Scalar) (after : World σ) : Prop where
  around : ∃ spread, factor.times delay = .ok spread ∧ delay.minus spread = .ok bounds.1 ∧
    delay.plus spread = .ok bounds.2
  drawn : ∃ draw middle value,
    environment.run (environment.draw bounds.1 bounds.2) world = .ok draw middle ∧
    after = middle.observe (.drawn bounds.1 bounds.2) ∧
    Scalar.between bounds.1 bounds.2 draw = .ok value ∧
    result = (Scalar.real 0.0).greatest value

/-- Layers on top of one another: each one starts with the delay and in the world with which the
layer below it ended. -/
inductive Layers : List Scalar → Scalar → World σ → List (Scalar × Scalar) → Scalar → World σ →
    Prop
  | none (delay : Scalar) (world : World σ) : Layers [] delay world [] delay world
  | layer {factor delay next result : Scalar} {factors : List Scalar} {world middle after : World σ}
      {bounds : Scalar × Scalar} {above : List (Scalar × Scalar)}
      (spreads : environment.Spreads factor delay world bounds next middle)
      (rest : Layers factors next middle above result after) :
      Layers (factor :: factors) delay world (bounds :: above) result after

def jitterAll (factors : List Scalar) (delay : Scalar) : Action σ Scalar :=
  factors.foldlM (fun delay factor => environment.jitter factor delay) delay

variable {environment}

private theorem uniform_eq (low high : Scalar) :
    environment.uniform low high =
      environment.run (environment.draw low high) >>= fun draw =>
        Action.observe (.drawn low high) >>= fun _ =>
          Action.calculate (Scalar.between low high draw) := by
  simp only [uniform, Scalar.between, Action.calculate_bind]

private theorem uniform_eq_ok_iff {low high result : Scalar} {world after : World σ} :
    environment.uniform low high world = .ok result after ↔
      ∃ draw middle, environment.run (environment.draw low high) world = .ok draw middle ∧
        after = middle.observe (.drawn low high) ∧ Scalar.between low high draw = .ok result := by
  rw [uniform_eq, Action.bind_eq_ok_iff]
  refine exists_congr fun draw => exists_congr fun middle => and_congr_right fun _ => ?_
  rw [Action.bind_apply, Action.observe_apply]
  exact Action.calculate_eq_ok_iff.trans and_comm

theorem jitter_eq_ok_iff {factor delay result : Scalar} {world after : World σ} :
    environment.jitter factor delay world = .ok result after ↔
      ∃ bounds, environment.Spreads factor delay world bounds result after := by
  simp only [jitter, Action.bind_eq_ok_iff, Action.calculate_eq_ok_iff, uniform_eq_ok_iff,
    Action.pure_apply]
  constructor
  · rintro ⟨spread, _, ⟨spreads, rfl⟩, low, _, ⟨lower, rfl⟩, high, _, ⟨higher, rfl⟩, value, _,
      ⟨draw, middle, drawn, rfl, between⟩, ends⟩
    cases ends
    exact ⟨(low, high), ⟨spread, spreads, lower, higher⟩, draw, middle, value, drawn, rfl, between,
      rfl⟩
  · rintro ⟨⟨low, high⟩, ⟨spread, spreads, lower, higher⟩, draw, middle, value, drawn, rfl, between,
      rfl⟩
    exact ⟨spread, _, ⟨spreads, rfl⟩, low, _, ⟨lower, rfl⟩, high, _, ⟨higher, rfl⟩, value, _,
      ⟨draw, middle, drawn, rfl, between⟩, rfl⟩

theorem jitterAll_cons (factor : Scalar) (factors : List Scalar) (delay : Scalar) :
    environment.jitterAll (factor :: factors) delay =
      environment.jitter factor delay >>= environment.jitterAll factors :=
  List.foldlM_cons

theorem jitterAll_eq_ok_iff {factors : List Scalar} {delay result : Scalar}
    {world after : World σ} :
    environment.jitterAll factors delay world = .ok result after ↔
      ∃ bounds, environment.Layers factors delay world bounds result after := by
  induction factors generalizing delay world with
  | nil =>
      constructor
      · rintro ⟨⟩
        exact ⟨[], .none _ _⟩
      · rintro ⟨bounds, ⟨⟩⟩
        rfl
  | cons factor factors induction =>
      simp only [jitterAll_cons, Action.bind_eq_ok_iff, jitter_eq_ok_iff, induction]
      constructor
      · rintro ⟨next, middle, ⟨bounds, spreads⟩, above, rest⟩
        exact ⟨bounds :: above, .layer spreads rest⟩
      · rintro ⟨_, _ | ⟨spreads, rest⟩⟩
        exact ⟨_, _, ⟨_, spreads⟩, _, rest⟩

namespace Spreads

variable {factor delay result : Scalar} {bounds : Scalar × Scalar} {world after : World σ}
  (spreads : environment.Spreads factor delay world bounds result after)

include spreads

theorem draws : after.draws = world.draws ++ [bounds] := by
  rcases spreads.drawn with ⟨draw, middle, value, drawn, rfl, -, -⟩
  have same : middle.draws = world.draws :=
    (toleratesCode_sameDraws.keeps_run environment _).of_ok drawn
  rw [draws_observe, same]
  rfl

theorem isNonnegative : result.IsNonnegative := by
  rcases spreads.drawn with ⟨draw, middle, value, -, -, -, rfl⟩
  exact Scalar.isNonnegative_greatest value

end Spreads

namespace Layers

variable {factors : List Scalar} {delay result : Scalar} {bounds : List (Scalar × Scalar)}
  {world after : World σ} (layers : environment.Layers factors delay world bounds result after)

include layers

theorem length : bounds.length = factors.length := by
  induction layers with
  | none => rfl
  | layer spreads rest induction => exact congrArg Nat.succ induction

theorem draws : after.draws = world.draws ++ bounds := by
  induction layers with
  | none => exact (List.append_nil _).symm
  | layer spreads rest induction =>
      rw [induction, spreads.draws, List.append_assoc]
      rfl

theorem isNonnegative (layered : factors ≠ []) : result.IsNonnegative := by
  induction layers with
  | none => exact absurd rfl layered
  | layer spreads rest induction =>
      cases rest with
      | none => exact spreads.isNonnegative
      | layer => exact induction (List.cons_ne_nil _ _)

end Layers

/-! ## Towers -/

theorem delay_layered {inner tower : Backoff} {factors : List Scalar}
    (built : inner.layered? factors = .ok tower) (attempt : Int) :
    environment.delay tower attempt =
      environment.delay inner attempt >>= environment.jitterAll factors := by
  induction factors generalizing inner with
  | nil =>
      cases built
      exact (bind_pure _).symm
  | cons factor factors induction =>
      rw [induction (Backoff.layered?_cons built), delay, bind_assoc]
      exact congrArg _ (funext fun delay => (jitterAll_cons factor factors delay).symm)

/-- The same code, but every call of an interval function leaves a remark about itself before
the answer. -/
def marking (environment : Environment σ) (mark : Callable → Int → Remark) : Environment σ :=
  { environment with
    interval := fun function attempt =>
      .note (mark function attempt) (environment.interval function attempt) }

theorem run_marking (mark : Callable → Int → Remark) (code : Behaviour σ α) :
    (environment.marking mark).run code = environment.run code := by
  apply run_congr <;> rfl

theorem jitterAll_marking (mark : Callable → Int → Remark) (factors : List Scalar) :
    (environment.marking mark).jitterAll factors = environment.jitterAll factors := by
  have same : (environment.marking mark).jitter = environment.jitter := by
    funext factor delay
    simp only [jitter, uniform, run_marking]
    rfl
  funext delay
  rw [jitterAll, same, jitterAll]

theorem delay_marking (mark : Callable → Int → Remark) (function : Callable) (attempt : Int)
    (world : World σ) :
    (environment.marking mark).delay (.custom function) attempt world =
      environment.delay (.custom function) attempt
        (world.observe (.remarked (mark function attempt))) := by
  rw [delay, run_marking]
  rfl

structure Jitters (environment : Environment σ) (inner tower : Backoff) (factors : List Scalar)
    (attempt : Int) (world : World σ) : Prop where
  /-- Of a function that leaves a remark whenever it is called, one remark is found, about the
  attempt that the tower is asked about. -/
  called (function : Callable) (custom : inner = .custom function)
      (mark : Callable → Int → Remark) :
    (environment.marking mark).delay tower attempt world =
      environment.delay tower attempt (world.observe (.remarked (mark function attempt)))
  raises (failure : Failure) (after : World σ)
      (raised : environment.delay inner attempt world = .error failure after) :
    environment.delay tower attempt world = .error failure after ∧ after.draws = world.draws
  /-- The layers take over where the innermost function ends, and each of them draws once. -/
  returns (result : Scalar) (after : World σ) :
    environment.delay tower attempt world = .ok result after ↔
      ∃ delay middle bounds, environment.delay inner attempt world = .ok delay middle ∧
        middle.draws = world.draws ∧
        environment.Layers factors delay middle bounds result after ∧
        bounds.length = factors.length ∧ after.draws = world.draws ++ bounds
  nonnegative (result : Scalar) (after : World σ)
      (returned : environment.delay tower attempt world = .ok result after) :
    result.IsNonnegative

/-- Every tower of one layer or more answers in this way, whatever its innermost function is and
whatever is drawn. -/
theorem layered_jitters {inner tower : Backoff} {factors : List Scalar}
    (innermost : inner.IsInnermost) (layered : factors ≠ [])
    (built : inner.layered? factors = .ok tower) (environment : Environment σ) (attempt : Int)
    (world : World σ) : environment.Jitters inner tower factors attempt world := by
  have quiet := environment.keeps_draws_of_innermost innermost attempt
  constructor
  case called =>
    rintro function rfl mark
    rw [delay_layered built, delay_layered built, Action.bind_apply, Action.bind_apply,
      delay_marking, jitterAll_marking]
  case raises =>
    intro failure after raised
    refine ⟨?_, quiet.of_error raised⟩
    rw [delay_layered built, Action.bind_apply, raised]
  case returns =>
    intro result after
    rw [delay_layered built]
    simp only [Action.bind_eq_ok_iff, jitterAll_eq_ok_iff]
    constructor
    · rintro ⟨delay, middle, asked, bounds, layers⟩
      have same : middle.draws = world.draws := quiet.of_ok asked
      exact ⟨delay, middle, bounds, asked, same, layers, layers.length, same ▸ layers.draws⟩
    · rintro ⟨delay, middle, bounds, asked, -, layers, -, -⟩
      exact ⟨delay, middle, asked, bounds, layers⟩
  case nonnegative =>
    intro result after returned
    rw [delay_layered built] at returned
    rcases Action.bind_eq_ok_iff.mp returned with ⟨delay, middle, -, answered⟩
    rcases jitterAll_eq_ok_iff.mp answered with ⟨bounds, layers⟩
    exact layers.isNonnegative layered

end Environment

/-! ## Two layers -/

namespace Environment.Taped

/-- What the code remembers: the attempts that the interval function was called with, and the
numbers that are still to be drawn. -/
structure Tape where
  called : List Int
  left : List Float

def failure : Failure :=
  .ofMessage (.given 0) .connection "unreachable"

def negative : Callable where
  number := 0
  shown := "negative"

def raising : Callable where
  number := 1
  shown := "raising"

def environment : Environment Tape where
  interval function attempt :=
    .look fun _ tape => .remember { tape with called := tape.called ++ [attempt] }
      (if function = negative then .answer (.whole (-4)) else .raise failure)
  predicate _ _ := .answer true
  listener _ _ _ := .answer ()
  wait _ _ := .answer ()
  draw _ _ := .look fun _ tape =>
    match tape.left with
    | [] => .raise failure
    | draw :: left => .remember { tape with left } (.answer draw)
  depth := 0

def world : World Tape where
  memory := { called := [], left := [0.25, 0.75, 0.5] }

def factors : List Scalar :=
  [.whole 1, .real 0.5]

def tower (function : Callable) : Backoff :=
  .randomized (.randomized (.custom function) (.whole 1)) (.real 0.5)

theorem built (function : Callable) :
    (Backoff.custom function).layered? factors = .ok (tower function) := by
  have first : Backoff.randomized? (.custom function) (.whole 1) =
      .ok (.randomized (.custom function) (.whole 1)) :=
    Backoff.randomized?_eq_ok_iff.mpr ⟨by decide, rfl⟩
  have second : Backoff.randomized? (.randomized (.custom function) (.whole 1)) (.real 0.5) =
      .ok (tower function) :=
    Backoff.randomized?_eq_ok_iff.mpr ⟨by decide +kernel, rfl⟩
  rw [Backoff.layered?, factors, List.foldlM_cons, first]
  exact second

def leaves (called : List Int) (left : Nat) : EStateM.Result Failure (World Tape) Scalar → Bool
  | .ok _ after => after.memory.called == called && after.memory.left.length == left
  | .error _ _ => false

end Environment.Taped

namespace Environment

/-- The innermost function answers with less than nothing, or it raises a failure. -/
theorem layered_jitters_taped :
    (Backoff.custom Taped.negative).IsInnermost ∧ Taped.factors ≠ [] ∧
    (Backoff.custom Taped.negative).layered? Taped.factors = .ok (Taped.tower Taped.negative) ∧
    (∃ result after,
      Taped.environment.delay (Taped.tower Taped.negative) 3 Taped.world = .ok result after ∧
      after.memory.called = [3] ∧ after.memory.left.length = 1 ∧ after.draws.length = 2 ∧
      result.IsNonnegative) ∧
    ∃ after,
      Taped.environment.delay (Taped.tower Taped.raising) 3 Taped.world =
        .error Taped.failure after ∧
      after.memory.called = [3] ∧ after.memory.left.length = 3 ∧ after.draws = [] := by
  have layered : Taped.factors ≠ [] := List.cons_ne_nil _ _
  have innermost (function : Callable) : (Backoff.custom function).IsInnermost := trivial
  have negatives := layered_jitters (innermost Taped.negative) layered
    (Taped.built Taped.negative) Taped.environment 3 Taped.world
  have raisings := layered_jitters (innermost Taped.raising) layered
    (Taped.built Taped.raising) Taped.environment 3 Taped.world
  have ran : Taped.leaves [3] 1
      (Taped.environment.delay (Taped.tower Taped.negative) 3 Taped.world) = true := by
    decide +kernel
  refine ⟨innermost _, layered, Taped.built Taped.negative, ?_, ?_⟩
  · cases ends : Taped.environment.delay (Taped.tower Taped.negative) 3 Taped.world with
    | error raised after =>
        rw [ends] at ran
        cases ran
    | ok result after =>
        rw [ends, Taped.leaves, Bool.and_eq_true, beq_iff_eq, beq_iff_eq] at ran
        rcases (negatives.returns result after).mp ends with
          ⟨delay, middle, bounds, -, -, -, each, drawn⟩
        have two : after.draws.length = 2 := by
          rw [drawn, List.length_append, each]
          rfl
        exact ⟨result, after, rfl, ran.1, ran.2, two, negatives.nonnegative result after ends⟩
  · have raised := raisings.raises Taped.failure _ rfl
    exact ⟨_, raised.1, rfl, rfl, raised.2⟩

end Environment

end Reattempt
