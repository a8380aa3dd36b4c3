import Reattempt.Proofs.Obtaining
import Reattempt.Proofs.Passage

/-! A registry over its whole history. It holds the roster that its exchanges lead to, whatever
happens in between, and no policy that it creates was there before. -/

namespace Reattempt

variable {σ α : Type}

open World Reattempt.Action

/-! ## Calls -/

theorem World.ignoresCalls_onward (call : Call) : IgnoresCalls (σ := σ) call Onward where
  code := {
    observe := fun _ _ _ => ⟨Nat.le_refl _, Nat.le_refl _⟩
    cancel := fun _ _ => ⟨Nat.le_refl _, Nat.le_refl _⟩
    register := fun _ _ _ _ => ⟨Nat.le_refl _, Nat.le_refl _⟩
    remember := fun _ _ => ⟨Nat.le_refl _, Nat.le_refl _⟩
    newIdentity := fun _ => ⟨Nat.le_refl _, Nat.le_refl _⟩
  }
  observe _ _ := ⟨Nat.le_refl _, Nat.le_refl _⟩
  changeProgress _ _ := ⟨Nat.le_refl _, Nat.le_refl _⟩
  changeCounters _ _ := ⟨Nat.le_refl _, Nat.le_refl _⟩
  relinking _ _ _ := ⟨Nat.le_refl _, Nat.le_refl _⟩

theorem Environment.onward_runUnder (environment : Environment σ) (policy : Policy)
    (asynchronous : Bool) (operation : Arguments → Behaviour σ α) (arguments : Arguments)
    (budget : Nat) :
    (environment.runUnder policy asynchronous operation arguments budget).Keeps Onward := by
  have opens : (openCall policy : Action σ Call).Keeps Onward :=
    fun _ => ⟨Nat.le_refl _, Nat.le_refl _⟩
  have attempts := Keeps.bind opens fun call =>
    (ignoresCalls_onward call).keeps_attemptWithin environment (policy.waitKind asynchronous)
      operation arguments budget
  exact WaitKind.keeps_enclose _ attempts fun _ => ⟨Nat.le_refl _, Nat.le_refl _⟩

namespace Registry

/-! ## All requests so far -/

/-- The exchanges with a registry since its creation. In between, anything may happen elsewhere
but that policies are forgotten. -/
inductive History (default? : Option SharedConfig) :
    List Exchange → Registry → World σ → Prop
  | created (world : World σ) {after : World σ} {registry : Registry}
      (creates : create default? world = .ok registry after) : History default? [] registry after
  | served {exchanges : List Exchange} {registry next : Registry} {world after : World σ}
      (earlier : History default? exchanges registry world) (request : Request) {answer : Answer}
      (serves : registry.serve request world = (answer, next, after)) :
      History default? (exchanges ++ [⟨request, answer⟩]) next after
  | elsewhere {exchanges : List Exchange} {registry : Registry} {world later : World σ}
      (earlier : History default? exchanges registry world) (onward : world.Onward later) :
      History default? exchanges registry later

theorem History.ran {default? : Option SharedConfig} {exchanges : List Exchange}
    {registry : Registry} {world : World σ} (history : History default? exchanges registry world)
    (environment : Environment σ) (policy : Policy) (asynchronous : Bool)
    (operation : Arguments → Behaviour σ α) (arguments : Arguments) (budget : Nat) :
    History default? exchanges registry
      ((environment.runUnder policy asynchronous operation arguments budget).after world) :=
  history.elsewhere
    (environment.onward_runUnder policy asynchronous operation arguments budget world)

/-- What is kept from one request to the next: the registry holds the roster, every policy under
its own name, and nothing that was handed out can be made once more. -/
structure Kept (exchanges : List Exchange) (registry : Registry) (world : World σ) : Prop where
  entries : registry.policies.entries =
    (roster exchanges).map fun policy => (policy.name, policy)
  named : ∀ policy ∈ roster exchanges, policy.name ≠ ""
  /-- Policies are numbered as they are created, so this is the order of their registration. -/
  ordered : (roster exchanges).Pairwise fun first second => first.number < second.number
  made : ∀ policy ∈ handedOut exchanges, world.Made policy
  fitting : Fitting registry.default exchanges

private theorem findIn_map_name (live : List Policy) (name : String) :
    OrderedMap.findIn name (live.map fun policy => (policy.name, policy)) =
      live.find? fun policy => policy.name = name := by
  induction live with
  | nil => rfl
  | cons policy rest induction =>
      by_cases named : policy.name = name <;> simp [OrderedMap.findIn, named, induction]

namespace Kept

variable {exchanges : List Exchange} {registry : Registry} {world : World σ}
  (kept : Kept exchanges registry world)

include kept

theorem find?_eq (name : String) :
    registry.find? name = (roster exchanges).find? fun policy => policy.name = name := by
  rw [Registry.find?, OrderedMap.find?, kept.entries, findIn_map_name]

theorem keys_eq : registry.policies.keys = (roster exchanges).map Policy.name := by
  rw [OrderedMap.keys, kept.entries, List.map_map]
  rfl

theorem absent_iff {name : String} :
    registry.find? name = none ↔ name ∉ (roster exchanges).map Policy.name := by
  rw [← kept.keys_eq]
  exact OrderedMap.find?_eq_none

theorem mem_of_find? {name : String} {policy : Policy}
    (found : registry.find? name = some policy) :
    policy ∈ roster exchanges ∧ policy.name = name := by
  rw [kept.find?_eq] at found
  have named := List.find?_some found
  exact ⟨List.mem_of_find?_eq_some found, of_decide_eq_true named⟩

theorem find?_of_mem {policy : Policy} (member : policy ∈ roster exchanges) :
    registry.find? policy.name = some policy := by
  cases found : registry.find? policy.name with
  | none => exact absurd (List.mem_map_of_mem member) (kept.absent_iff.mp found)
  | some other =>
      rcases kept.mem_of_find? found with ⟨listed, same⟩
      rw [eq_of_mem_roster listed member same]

theorem contains_eq (name : String) :
    registry.contains name = decide (name ∈ (roster exchanges).map Policy.name) := by
  have present : registry.contains name = (registry.find? name).isSome := rfl
  rw [present, Bool.eq_iff_iff, Option.isSome_iff_ne_none, decide_eq_true_iff, ne_eq,
    kept.absent_iff, not_not]

theorem size_eq : registry.size = (roster exchanges).length := by
  rw [size, OrderedMap.size, kept.entries, List.length_map]

theorem all_eq : registry.all = roster exchanges := by
  rw [all, OrderedMap.values, kept.entries, List.map_map]
  exact List.map_id _

private theorem filter_entries (name : String) : (registry.remove name).policies.entries =
    registry.policies.entries.filter fun entry => entry.1 ≠ name := by
  have distinct : registry.policies.keys.Nodup := by
    rw [kept.keys_eq]
    exact nodup_roster exchanges
  exact OrderedMap.entries_erase distinct name

theorem entries_remove (name : String) : (registry.remove name).policies.entries =
    ((roster exchanges).filter fun policy => policy.name ≠ name).map
      fun policy => (policy.name, policy) := by
  rw [kept.filter_entries, kept.entries, List.filter_map]
  rfl

/-! ### What a request does to it -/

theorem onward {later : World σ} (onward : world.Onward later) :
    Kept exchanges registry later where
  entries := kept.entries
  named := kept.named
  ordered := kept.ordered
  made policy member := (kept.made policy member).onward onward
  fitting := kept.fitting

/-- The registry is as before, and only policies that it has are handed out. -/
theorem look {exchange : Exchange} {after : World σ}
    (fits : exchange.Fits registry.default (roster exchanges) (handedOut exchanges))
    (stays : exchange.enter (roster exchanges) = roster exchanges)
    (known : ∀ policy ∈ exchange.answer.policies, policy ∈ roster exchanges)
    (onward : world.Onward after) : Kept (exchanges ++ [exchange]) registry after := by
  have same : roster (exchanges ++ [exchange]) = roster exchanges := by
    rw [roster_concat, stays]
  exact {
    entries := by rw [same, kept.entries]
    named := by rw [same]; exact kept.named
    ordered := by rw [same]; exact kept.ordered
    made := by
      intro policy member
      have before : policy ∈ handedOut exchanges := by
        rcases mem_handedOut_concat.mp member with before | now
        · exact before
        · exact mem_handedOut_of_mem_roster (known policy now)
      exact (kept.made policy before).onward onward
    fitting := kept.fitting.concat fits
  }

theorem remove (name : String) :
    Kept (exchanges ++ [⟨.remove name, .found (registry.find? name)⟩])
      (registry.remove name) world := by
  have fits : Exchange.Fits registry.default (roster exchanges) (handedOut exchanges)
      ⟨.remove name, .found (registry.find? name)⟩ := by
    rw [kept.find?_eq]
    exact .removed name
  have after : roster (exchanges ++ [⟨.remove name, .found (registry.find? name)⟩]) =
      (roster exchanges).filter fun policy => policy.name ≠ name := roster_concat _ _
  exact {
    entries := by rw [after, kept.entries_remove]
    named := by
      rw [after]
      exact fun policy member => kept.named policy (List.mem_of_mem_filter member)
    ordered := by
      rw [after]
      exact kept.ordered.sublist List.filter_sublist
    made := by
      intro policy member
      rcases mem_handedOut_concat.mp member with before | now
      · exact kept.made policy before
      · have found : registry.find? name = some policy := Option.mem_toList.mp now
        exact kept.made policy (mem_handedOut_of_mem_roster (kept.mem_of_find? found).1)
    fitting := kept.fitting.concat fits
  }

theorem register {name : String} {shared? : Option SharedConfig} {policy : Policy}
    {next : Registry} {after : World σ} (absent : registry.find? name = none)
    (registers : registry.Registers name shared? world policy next after) :
    Kept (exchanges ++ [⟨.obtain name shared?, .obtained policy⟩]) next after := by
  rcases registers with ⟨given, rfl, shared, loggable, makes, entries, default⟩
  rw [kept.absent_iff] at absent
  have fits : Exchange.Fits registry.default (roster exchanges) (handedOut exchanges)
      ⟨.obtain policy.name shared?, .obtained policy⟩ := by
    refine .created given absent shared loggable fun other member => ?_
    have made := kept.made other member
    rw [makes.number, makes.publisher]
    exact ⟨Nat.ne_of_lt made.number, Nat.ne_of_lt made.publisher⟩
  have last : roster (exchanges ++ [⟨.obtain policy.name shared?, .obtained policy⟩]) =
      roster exchanges ++ [policy] := by
    rw [roster_concat, Exchange.enter_obtained, if_neg absent]
  exact {
    entries := by rw [last, entries, kept.entries, List.map_append, List.map_singleton]
    named := by
      rw [last]
      intro other member
      rcases List.mem_append.mp member with member | new
      · exact kept.named other member
      · rw [List.mem_singleton.mp new]
        exact given
    ordered := by
      rw [last]
      refine List.pairwise_append.mpr ⟨kept.ordered, List.pairwise_singleton _ _, ?_⟩
      intro earlier member new newMember
      rw [List.mem_singleton.mp newMember, makes.number]
      exact (kept.made earlier (mem_handedOut_of_mem_roster member)).number
    made := by
      intro other member
      rcases mem_handedOut_concat.mp member with before | now
      · exact (kept.made other before).onward makes.onward
      · rw [List.mem_singleton.mp now]
        exact makes.made
    fitting := by
      rw [default]
      exact kept.fitting.concat fits
  }

theorem obtains {name : String} {shared? : Option SharedConfig} {answer : Answer}
    {next : Registry} {after : World σ}
    (obtains : registry.Obtains name shared? world (answer, next, after)) :
    Kept (exchanges ++ [⟨.obtain name shared?, answer⟩]) next after := by
  cases obtains with
  | @kept policy _ present noted =>
      rcases kept.mem_of_find? present with ⟨member, rfl⟩
      apply kept.look (.kept member shared?)
      · rw [Exchange.enter_obtained, if_pos (List.mem_map_of_mem member)]
      · intro other handed
        rwa [List.mem_singleton.mp handed]
      · exact noted.onward
  | created absent registers => exact kept.register absent registers
  | refused absent nameless =>
      subst nameless
      exact kept.look (.refused rfl rfl shared?) rfl nofun ⟨Nat.le_refl _, Nat.le_refl _⟩
  | unlogged absent given unloggable makes =>
      rw [kept.absent_iff] at absent
      exact kept.look (.unlogged given absent unloggable rfl rfl) rfl nofun makes.onward

theorem serve {request : Request} {answer : Answer} {next : Registry} {after : World σ}
    (serves : registry.serve request world = (answer, next, after)) :
    Kept (exchanges ++ [⟨request, answer⟩]) next after := by
  have same : world.Onward world := ⟨Nat.le_refl _, Nat.le_refl _⟩
  cases request with
  | obtain name shared? =>
      apply kept.obtains
      rw [← serves]
      exact serve_obtains registry name shared? world
  | find name =>
      cases serves
      refine kept.look ?_ rfl ?_ same
      · rw [kept.find?_eq]
        exact .found name
      · intro policy found
        exact (kept.mem_of_find? (Option.mem_toList.mp found)).1
  | remove name =>
      cases serves
      exact kept.remove name
  | contains name =>
      cases serves
      refine kept.look ?_ rfl nofun same
      rw [kept.contains_eq]
      exact .present name
  | size =>
      cases serves
      refine kept.look ?_ rfl nofun same
      rw [kept.size_eq]
      exact .counted
  | all =>
      cases serves
      refine kept.look ?_ rfl ?_ same
      · rw [kept.all_eq]
        exact .listed
      · intro policy listed
        rwa [← kept.all_eq]

end Kept

theorem of_create {default? : Option SharedConfig} {world after : World σ} {registry : Registry}
    (creates : create default? world = .ok registry after) :
    registry.policies.entries = [] ∧
      (∀ shared, default? = some shared → registry.default = shared) ∧
      (default? = none → registry.default.config = .default) := by
  cases default? with
  | some shared =>
      cases creates
      exact ⟨rfl, fun _ => Option.some.inj, nofun⟩
  | none =>
      cases creates
      exact ⟨rfl, nofun, fun _ => rfl⟩

theorem History.kept {default? : Option SharedConfig} {exchanges : List Exchange}
    {registry : Registry} {world : World σ}
    (history : History default? exchanges registry world) : Kept exchanges registry world := by
  induction history with
  | created _ creates =>
      exact {
        entries := (of_create creates).1
        named := nofun
        ordered := .nil
        made := nofun
        fitting := fun earlier _ _ equal => absurd equal.symm (by simp)
      }
  | served _ _ serves induction => exact induction.serve serves
  | elsewhere _ onward induction => exact induction.onward onward

theorem default_serve {registry next : Registry} {request : Request} {world after : World σ}
    {answer : Answer} (serves : registry.serve request world = (answer, next, after)) :
    next.default = registry.default := by
  cases request with
  | obtain name shared? =>
      have obtains := serve_obtains registry name shared? world
      rw [serves] at obtains
      cases obtains with
      | kept | refused | unlogged => rfl
      | created absent registers => exact registers.default
  | find | remove | contains | size | all =>
      cases serves
      rfl

theorem History.default_eq {default? : Option SharedConfig} {exchanges : List Exchange}
    {registry : Registry} {world : World σ}
    (history : History default? exchanges registry world) :
    (∀ shared, default? = some shared → registry.default = shared) ∧
      (default? = none → registry.default.config = .default) := by
  induction history with
  | created _ creates => exact (of_create creates).2
  | served _ _ serves induction => rwa [default_serve serves]
  | elsewhere _ _ induction => exact induction

/-! ## The registry as an ordered map -/

/-- After its exchanges a registry holds the roster that they lead to, and it answers every
further request accordingly. -/
structure Represents (default? : Option SharedConfig) (exchanges : List Exchange)
    (registry : Registry) (world : World σ) : Prop extends Kept exchanges registry world where
  given : ∀ shared, default? = some shared → registry.default = shared
  standard : default? = none → registry.default.config = .default
  distinct : ((roster exchanges).map Policy.name).Nodup
  keeps : ∀ policy ∈ roster exchanges, ∀ shared?, ∃ after,
    registry.serve (.obtain policy.name shared?) world = (.obtained policy, registry, after) ∧
      world.Noted after
  creates : ∀ name, name ≠ "" → name ∉ (roster exchanges).map Policy.name → ∀ shared?,
    (shared?.getD registry.default).isLoggable = true → ∃ policy next after,
      registry.serve (.obtain name shared?) world = (.obtained policy, next, after) ∧
        registry.Registers name shared? world policy next after ∧
          ∀ other ∈ handedOut exchanges, other.number ≠ policy.number
  /-- With a limit that cannot be logged nobody gets the policy that is made. -/
  discards : ∀ name, name ≠ "" → name ∉ (roster exchanges).map Policy.name → ∀ shared?,
    (shared?.getD registry.default).isLoggable = false → ∃ policy after,
      registry.serve (.obtain name shared?) world =
        (.refused (ArithmeticFault.tooManyDigits.toFailure (.made world.failures)), registry,
          after) ∧
        world.Makes policy after
  refuses : ∀ shared?, registry.serve (.obtain "" shared?) world =
    (.refused (.ofMessage (.made world.failures) .value "name must be a non-empty string"),
      registry, { world with failures := world.failures + 1 })
  removes : ∀ name, ∃ next,
    registry.serve (.remove name) world =
      (.found ((roster exchanges).find? fun policy => policy.name = name), next, world) ∧
        next.policies.entries = registry.policies.entries.filter (fun entry => entry.1 ≠ name) ∧
          next.default = registry.default
  finds : ∀ name, registry.serve (.find name) world =
    (.found ((roster exchanges).find? fun policy => policy.name = name), registry, world)
  contains : ∀ name, registry.serve (.contains name) world =
    (.present (decide (name ∈ (roster exchanges).map Policy.name)), registry, world)
  counts : registry.serve .size world = (.counted (roster exchanges).length, registry, world)
  lists : registry.serve .all world = (.listed (roster exchanges), registry, world)
  /-- Until its name is removed, everyone who asks for it obtains the same policy. -/
  same : ∀ {earlier between later name firstShared? secondShared? first second},
    exchanges = earlier ++ ⟨.obtain name firstShared?, .obtained first⟩ ::
      (between ++ ⟨.obtain name secondShared?, .obtained second⟩ :: later) →
    (∀ exchange ∈ between, ¬ exchange.Removes name) → second = first
  /-- After its name is removed, another one is obtained. -/
  renewed : ∀ {earlier between later name firstShared? secondShared? first second},
    exchanges = earlier ++ ⟨.obtain name firstShared?, .obtained first⟩ ::
      (between ++ ⟨.obtain name secondShared?, .obtained second⟩ :: later) →
    (∃ exchange ∈ between, exchange.Removes name) → first.number ≠ second.number

namespace Kept

variable {exchanges : List Exchange} {registry : Registry} {world : World σ}
  (kept : Kept exchanges registry world)

include kept

theorem keeps {policy : Policy} (member : policy ∈ roster exchanges)
    (shared? : Option SharedConfig) : ∃ after,
    registry.serve (.obtain policy.name shared?) world = (.obtained policy, registry, after) ∧
      world.Noted after := by
  have obtains := serve_obtains registry policy.name shared? world
  have present := kept.find?_of_mem member
  generalize registry.serve (.obtain policy.name shared?) world = result at obtains
  cases obtains with
  | kept found noted =>
      rw [present] at found
      cases found
      exact ⟨_, rfl, noted⟩
  | created absent | refused absent | unlogged absent =>
      rw [present] at absent
      cases absent

theorem creates {name : String} (given : name ≠ "")
    (absent : name ∉ (roster exchanges).map Policy.name) (shared? : Option SharedConfig)
    (loggable : (shared?.getD registry.default).isLoggable = true) :
    ∃ policy next after,
      registry.serve (.obtain name shared?) world = (.obtained policy, next, after) ∧
        registry.Registers name shared? world policy next after ∧
          ∀ other ∈ handedOut exchanges, other.number ≠ policy.number := by
  have obtains := serve_obtains registry name shared? world
  have missing := kept.absent_iff.mpr absent
  generalize registry.serve (.obtain name shared?) world = result at obtains
  cases obtains with
  | kept found noted =>
      rw [missing] at found
      cases found
  | created _ registers =>
      refine ⟨_, _, _, rfl, registers, fun other member => ?_⟩
      rw [registers.makes.number]
      exact Nat.ne_of_lt (kept.made other member).number
  | refused _ nameless => exact absurd nameless given
  | unlogged _ _ unloggable =>
      rw [loggable] at unloggable
      cases unloggable

theorem discards {name : String} (given : name ≠ "")
    (absent : name ∉ (roster exchanges).map Policy.name) (shared? : Option SharedConfig)
    (unloggable : (shared?.getD registry.default).isLoggable = false) :
    ∃ policy after,
      registry.serve (.obtain name shared?) world =
        (.refused (ArithmeticFault.tooManyDigits.toFailure (.made world.failures)), registry,
          after) ∧
        world.Makes policy after := by
  have obtains := serve_obtains registry name shared? world
  have missing := kept.absent_iff.mpr absent
  generalize registry.serve (.obtain name shared?) world = result at obtains
  cases obtains with
  | kept found noted =>
      rw [missing] at found
      cases found
  | created _ registers =>
      have loggable := registers.loggable
      rw [registers.shared, unloggable] at loggable
      cases loggable
  | refused _ nameless => exact absurd nameless given
  | unlogged _ _ _ makes => exact ⟨_, _, rfl, makes⟩

theorem refuses (shared? : Option SharedConfig) :
    registry.serve (.obtain "" shared?) world =
      (.refused (.ofMessage (.made world.failures) .value "name must be a non-empty string"),
        registry, { world with failures := world.failures + 1 }) := by
  have obtains := serve_obtains registry "" shared? world
  generalize registry.serve (.obtain "" shared?) world = result at obtains
  cases obtains with
  | kept found noted =>
      rcases kept.mem_of_find? found with ⟨member, nameless⟩
      exact absurd nameless (kept.named _ member)
  | created _ registers => exact absurd rfl registers.given
  | refused => rfl
  | unlogged _ given => exact absurd rfl given

end Kept

/-- Whatever a registry was asked for, and whatever happened in between, it is an ordered map
from names to the policies that it created for them. -/
theorem history_represents {default? : Option SharedConfig} {exchanges : List Exchange}
    {registry : Registry} {world : World σ}
    (history : History default? exchanges registry world) :
    Represents default? exchanges registry world :=
  have kept := history.kept
  { kept with
    given := history.default_eq.1
    standard := history.default_eq.2
    distinct := nodup_roster exchanges
    keeps _ member := kept.keeps member
    creates _ := kept.creates
    discards _ := kept.discards
    refuses := kept.refuses
    removes name := by
      rw [← kept.find?_eq]
      exact ⟨_, rfl, kept.filter_entries name, rfl⟩
    finds name := by
      rw [← kept.find?_eq]
      rfl
    contains name := by
      rw [← kept.contains_eq]
      rfl
    counts := by
      rw [← kept.size_eq]
      rfl
    lists := by
      rw [← kept.all_eq]
      rfl
    same := kept.fitting.same
    renewed equal := by
      rintro ⟨removal, member, removes⟩
      exact kept.fitting.renewed equal member removes }

namespace Renewal

def shared : SharedConfig where
  number := 7
  config := .default

def standard : SharedConfig where
  number := 0
  config := .default

def policy (number : Nat) : Policy where
  number := number
  name := "payments"
  shared := standard
  publisher := number
  sleeps := false

def exchanges : List Exchange :=
  [⟨.obtain "payments" none, .obtained (policy 0)⟩,
    ⟨.obtain "payments" (some shared), .obtained (policy 0)⟩,
    ⟨.remove "payments", .found (some (policy 0))⟩,
    ⟨.obtain "payments" none, .obtained (policy 1)⟩]

end Renewal

theorem history_represents_renewal : ∃ (registry : Registry) (world : World Unit),
    History none Renewal.exchanges registry world ∧
      Represents none Renewal.exchanges registry world := by
  let empty : World Unit := { memory := () }
  have given : "payments" ≠ "" := by decide
  have loggable : Renewal.standard.isLoggable = true :=
    Scalar.isWritable_whole (show 1 ≤ digitLimit by decide) (by decide)
  have created : History none [] _ _ := .created empty rfl
  have first := created.served (.obtain "payments" none)
    (serve_of_absent (by rfl) given (by exact loggable) _)
  have second := first.served (.obtain "payments" (some Renewal.shared)) rfl
  have removed := second.served (.remove "payments") rfl
  have renewed := removed.served (.obtain "payments" none)
    (serve_of_absent (by rfl) given (by exact loggable) _)
  exact ⟨_, _, renewed, history_represents renewed⟩

def Renewal.vast : SharedConfig where
  number := 7
  config := { Config.default with limit := .atMost Scalar.writableBound Scalar.writableBound_pos }

/-- A name that is new and not empty does not always get a policy. -/
theorem refused_vast : ∃ (registry : Registry) (world after : World Unit),
    History none [] registry world ∧ registry.contains "payments" = false ∧
      registry.serve (.obtain "payments" (some Renewal.vast)) world =
        (.refused (ArithmeticFault.tooManyDigits.toFailure (.made 0)), registry, after) := by
  let empty : World Unit := { memory := () }
  have created : History none [] _ _ := .created empty rfl
  have unloggable : Renewal.vast.isLoggable = false := by
    rewrite [SharedConfig.isLoggable, Renewal.vast, AttemptLimit.toInt]
    exact Scalar.not_isWritable_writableBound
  have given : "payments" ≠ "" := by decide
  rcases created.kept.discards given (by decide) (some Renewal.vast) unloggable with
    ⟨policy, after, serves, -⟩
  exact ⟨_, _, after, created, by decide, serves⟩

end Registry

end Reattempt
