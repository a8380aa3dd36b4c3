import Reattempt.Proofs.Effect
import Reattempt.Proofs.Roster

/-! One request to a registry. Whoever asks for a policy gets the one that is there, and at most
a line in the log tells of it; or a new one, made now and registered after all others; or, where
the name is empty or the log cannot tell the limit, a failure. -/

namespace Reattempt

variable {σ : Type}

namespace World

structure Onward (world later : World σ) : Prop where
  policies : world.policies ≤ later.policies
  publishers : world.publishers ≤ later.publishers

instance : IsPreorder (World σ) Onward where
  refl _ := ⟨Nat.le_refl _, Nat.le_refl _⟩
  trans _ _ _ first second :=
    ⟨Nat.le_trans first.policies second.policies, Nat.le_trans first.publishers second.publishers⟩

structure Made (world : World σ) (policy : Policy) : Prop where
  number : policy.number < world.policies
  publisher : policy.publisher < world.publishers

theorem Made.onward {world later : World σ} {policy : Policy} (made : world.Made policy)
    (onward : world.Onward later) : later.Made policy where
  number := Nat.lt_of_lt_of_le made.number onward.policies
  publisher := Nat.lt_of_lt_of_le made.publisher onward.publishers

inductive Noted (world : World σ) : World σ → Prop
  | silent : Noted world world
  | logged (entry : LogEntry) : Noted world (world.observe (.logged entry))

theorem Noted.onward {world after : World σ} (noted : world.Noted after) : world.Onward after := by
  cases noted <;> exact ⟨Nat.le_refl _, Nat.le_refl _⟩

/-- A policy is made. It has counted nothing and nobody listens to it, and all others are as
they were. -/
structure Makes (world : World σ) (policy : Policy) (after : World σ) : Prop where
  number : policy.number = world.policies
  publisher : policy.publisher = world.publishers
  counters : after.countersOf policy.number = {}
  listeners : after.listenersOf policy.publisher = .empty
  otherCounters : ∀ number, number ≠ policy.number →
    after.countersOf number = world.countersOf number
  otherListeners : ∀ publisher, publisher ≠ policy.publisher →
    after.listenersOf publisher = world.listenersOf publisher
  policies : after.policies = world.policies + 1
  publishers : after.publishers = world.publishers + 1

section Makes

variable {world after : World σ} {policy : Policy} (makes : world.Makes policy after)

include makes

theorem Makes.onward : world.Onward after where
  policies := by rw [makes.policies]; exact Nat.le_succ _
  publishers := by rw [makes.publishers]; exact Nat.le_succ _

theorem Makes.made : after.Made policy where
  number := by rw [makes.number, makes.policies]; exact Nat.lt_succ_self _
  publisher := by rw [makes.publisher, makes.publishers]; exact Nat.lt_succ_self _

theorem Makes.observe (observation : Observation) :
    world.Makes policy (after.observe observation) where
  number := makes.number
  publisher := makes.publisher
  counters := makes.counters
  listeners := makes.listeners
  otherCounters := makes.otherCounters
  otherListeners := makes.otherListeners
  policies := makes.policies
  publishers := makes.publishers

theorem Makes.numbering (failures : Nat) : world.Makes policy { after with failures } where
  number := makes.number
  publisher := makes.publisher
  counters := makes.counters
  listeners := makes.listeners
  otherCounters := makes.otherCounters
  otherListeners := makes.otherListeners
  policies := makes.policies
  publishers := makes.publishers

end Makes

end World

namespace Action

def nextPolicy (name : String) (shared : SharedConfig) (sleeps : Bool) (world : World σ) :
    Policy :=
  { number := world.policies, name, shared, publisher := world.publishers, sleeps }

def making (world : World σ) : World σ :=
  { world with
    policies := world.policies + 1
    publishers := world.publishers + 1
    counters := world.counters.set world.policies {}
    tables := world.tables.set world.publishers .empty }

theorem makes_making (name : String) (shared : SharedConfig) (sleeps : Bool) (world : World σ) :
    world.Makes (nextPolicy name shared sleeps world) (making world) where
  number := rfl
  publisher := rfl
  counters := by simp [Situation.countersOf, making, nextPolicy]
  listeners := by simp [World.listenersOf, making, nextPolicy]
  otherCounters number different := by
    have other : number ≠ world.policies := different
    simp [Situation.countersOf, making, other]
  otherListeners publisher different := by
    have other : publisher ≠ world.publishers := different
    simp [World.listenersOf, making, other]
  policies := rfl
  publishers := rfl

theorem newPolicy_apply {name : String} (named : name ≠ "") (shared : SharedConfig)
    (sleeps : Bool) (world : World σ) :
    newPolicy name (some shared) sleeps world =
      match (Scalar.whole shared.config.limit.toInt).written with
      | .ok limit =>
          .ok (nextPolicy name shared sleeps world)
            ((making world).observe (.logged
              { level := .debug
                source := .policy
                message := s!"Created retry '{name}' with max_attempts={limit}"
                fields := [] }))
      | .error fault =>
          .error (fault.toFailure (.made world.failures))
            { making world with failures := world.failures + 1 } := by
  have nonempty : ¬ name.isEmpty = true := by rwa [String.isEmpty_iff]
  simp only [newPolicy, nonempty, Bool.false_eq_true, if_false, pure_bind, bind_apply, newPublisher,
    modifyGet_apply, pure_apply]
  generalize (Scalar.whole shared.config.limit.toInt).written = limit
  cases limit <;> rfl

def creation (name : String) (shared : SharedConfig) : LogEntry where
  level := .debug
  source := .policy
  message :=
    s!"Created retry '{name}' with max_attempts={(Scalar.whole shared.config.limit.toInt).shown}"
  fields := []

theorem newPolicy_of_loggable {name : String} (named : name ≠ "") {shared : SharedConfig}
    (loggable : shared.isLoggable = true) (sleeps : Bool) (world : World σ) :
    newPolicy name (some shared) sleeps world =
      .ok (nextPolicy name shared sleeps world)
        ((making world).observe (.logged (creation name shared))) := by
  have writable : (Scalar.whole shared.config.limit.toInt).isWritable = true := loggable
  rw [newPolicy_apply named, Scalar.written_of_isWritable writable]
  rfl

/-- When the log cannot tell the limit, the policy has been made, but nobody gets it. -/
theorem newPolicy_unlogged {name : String} (named : name ≠ "") {shared : SharedConfig}
    (unloggable : shared.isLoggable = false) (sleeps : Bool) (world : World σ) :
    ∃ policy after,
      newPolicy name (some shared) sleeps world =
        .error (ArithmeticFault.tooManyDigits.toFailure (.made world.failures)) after ∧
      world.Makes policy after := by
  have unwritable : (Scalar.whole shared.config.limit.toInt).isWritable = false := unloggable
  rw [newPolicy_apply named, Scalar.written_of_unwritable unwritable]
  exact ⟨_, _, rfl, (makes_making name shared sleeps world).numbering _⟩

theorem newPolicy_nameless (shared? : Option SharedConfig) (sleeps : Bool) (world : World σ) :
    (newPolicy "" shared? sleeps) world =
      .error (.ofMessage (.made world.failures) .value "name must be a non-empty string")
        { world with failures := world.failures + 1 } :=
  rfl

end Action

namespace Registry

open Reattempt.Action

/-! ## One request -/

/-- The registry afterwards, with its answer. A refused request leaves it as it is. -/
def serve (registry : Registry) (request : Request) (world : World σ) :
    Answer × Registry × World σ :=
  match request with
  | .obtain name shared? =>
      match registry.obtain name shared? world with
      | .ok (policy, next) after => (.obtained policy, next, after)
      | .error failure after => (.refused failure, registry, after)
  | .find name => (.found (registry.find? name), registry, world)
  | .remove name => (.found (registry.find? name), registry.remove name, world)
  | .contains name => (.present (registry.contains name), registry, world)
  | .size => (.counted registry.size, registry, world)
  | .all => (.listed registry.all, registry, world)

structure Registers (registry : Registry) (name : String) (shared? : Option SharedConfig)
    (world : World σ) (policy : Policy) (next : Registry) (after : World σ) : Prop where
  given : name ≠ ""
  named : policy.name = name
  shared : policy.shared = shared?.getD registry.default
  loggable : policy.shared.isLoggable = true
  makes : world.Makes policy after
  entries : next.policies.entries = registry.policies.entries ++ [(name, policy)]
  default : next.default = registry.default

inductive Obtains (registry : Registry) (name : String) (shared? : Option SharedConfig)
    (world : World σ) : Answer × Registry × World σ → Prop
  | kept {policy : Policy} {after : World σ} (present : registry.find? name = some policy)
      (noted : world.Noted after) :
      Obtains registry name shared? world (.obtained policy, registry, after)
  | created {policy : Policy} {next : Registry} {after : World σ}
      (absent : registry.find? name = none)
      (registers : registry.Registers name shared? world policy next after) :
      Obtains registry name shared? world (.obtained policy, next, after)
  | refused (absent : registry.find? name = none) (nameless : name = "") :
      Obtains registry name shared? world
        (.refused (.ofMessage (.made world.failures) .value "name must be a non-empty string"),
          registry, { world with failures := world.failures + 1 })
  | unlogged {policy : Policy} {after : World σ} (absent : registry.find? name = none)
      (given : name ≠ "") (unloggable : (shared?.getD registry.default).isLoggable = false)
      (makes : world.Makes policy after) :
      Obtains registry name shared? world
        (.refused (ArithmeticFault.tooManyDigits.toFailure (.made world.failures)), registry, after)

theorem obtain_of_present {registry : Registry} {name : String} {policy : Policy}
    (present : registry.find? name = some policy) (shared? : Option SharedConfig)
    (world : World σ) :
    ∃ after, registry.obtain name shared? world = .ok (policy, registry) after ∧
      world.Noted after := by
  rw [obtain, present]
  cases shared? with
  | none => exact ⟨world, rfl, .silent⟩
  | some shared =>
      dsimp only
      split
      · exact ⟨_, rfl, .logged _⟩
      · exact ⟨world, rfl, .silent⟩

theorem serve_of_absent {registry : Registry} {name : String}
    (absent : registry.find? name = none) (given : name ≠ "") {shared? : Option SharedConfig}
    (loggable : (shared?.getD registry.default).isLoggable = true) (world : World σ) :
    let policy := nextPolicy name (shared?.getD registry.default) false world
    registry.serve (.obtain name shared?) world =
      (.obtained policy, { registry with policies := registry.policies.set name policy },
        ((making world).observe (.logged (creation name (shared?.getD registry.default)))).observe
          (.logged
            { level := .debug
              source := .registry
              message := s!"Registered retry '{name}'"
              fields := [] })) := by
  simp only [serve, obtain, absent, bind_apply, newPolicy_of_loggable given loggable, log_apply,
    pure_apply]

theorem serve_obtains (registry : Registry) (name : String) (shared? : Option SharedConfig)
    (world : World σ) :
    registry.Obtains name shared? world (registry.serve (.obtain name shared?) world) := by
  cases found : registry.find? name with
  | some policy =>
      rcases obtain_of_present found shared? world with ⟨after, equal, noted⟩
      simp only [serve, equal]
      exact .kept found noted
  | none =>
      by_cases nameless : name = ""
      · subst nameless
        simp only [serve, obtain, found, bind_apply, newPolicy_nameless]
        exact .refused found rfl
      · cases loggable : (shared?.getD registry.default).isLoggable with
        | false =>
            rcases newPolicy_unlogged nameless loggable false world with
              ⟨policy, after, equal, makes⟩
            simp only [serve, obtain, found, bind_apply, equal]
            exact .unlogged found nameless loggable makes
        | true =>
            rw [serve_of_absent found nameless loggable]
            exact .created found {
              given := nameless
              named := rfl
              shared := rfl
              loggable := loggable
              makes := ((makes_making _ _ _ world).observe _).observe _
              entries := OrderedMap.entries_set_of_absent found _
              default := rfl
            }

end Registry

end Reattempt
