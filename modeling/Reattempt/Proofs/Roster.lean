import Mathlib.Data.List.Induction
import Mathlib.Data.List.Nodup
import Reattempt.Engine.Registry

/-! The policies of a registry as a roster: a list in which every name occurs at most once and
new policies go last. What a registry is asked for and what it answers fits the roster that the
exchanges before it lead to. A name keeps its policy until the name is removed, and the policy
that it gets afterwards is another one. -/

namespace Reattempt

/-- Whether the log can tell the limit, as it does when a policy is created. -/
def SharedConfig.isLoggable (shared : SharedConfig) : Bool :=
  (Scalar.whole shared.config.limit.toInt).isWritable

namespace Registry

/-! ## Requests and answers -/

inductive Request where
  | obtain (name : String) (shared? : Option SharedConfig)
  | find (name : String)
  | remove (name : String)
  | contains (name : String)
  | size
  | all

inductive Answer where
  | obtained (policy : Policy)
  | found (policy? : Option Policy)
  | present (answer : Bool)
  | counted (size : Nat)
  | listed (policies : List Policy)
  | refused (failure : Failure)

def Answer.policies : Answer → List Policy
  | .obtained policy => [policy]
  | .found policy? => policy?.toList
  | .listed policies => policies
  | .present _ | .counted _ | .refused _ => []

structure Exchange where
  request : Request
  answer : Answer

/-! ## The roster -/

namespace Exchange

/-- The roster after an exchange: a policy goes last unless its name is on it. -/
def enter (live : List Policy) (exchange : Exchange) : List Policy :=
  match exchange.request, exchange.answer with
  | .obtain _ _, .obtained policy =>
      if policy.name ∈ live.map Policy.name then live else live ++ [policy]
  | .remove name, _ => live.filter fun policy => policy.name ≠ name
  | _, _ => live

theorem enter_obtained (live : List Policy) (name : String) (shared? : Option SharedConfig)
    (policy : Policy) : enter live ⟨.obtain name shared?, .obtained policy⟩ =
      if policy.name ∈ live.map Policy.name then live else live ++ [policy] :=
  rfl

theorem enter_removed (live : List Policy) (name : String) (answer : Answer) :
    enter live ⟨.remove name, answer⟩ = live.filter fun policy => policy.name ≠ name :=
  rfl

def Removes (name : String) (exchange : Exchange) : Prop :=
  exchange.request = .remove name

/-- The exchange fits a roster. Whoever obtains a policy gets the one on the roster, or a new
one that is none of those handed out before. There is no new one without a name, nor with a
limit that cannot be logged. -/
inductive Fits (default : SharedConfig) (live handedOut : List Policy) : Exchange → Prop
  | kept {policy : Policy} (member : policy ∈ live) (shared? : Option SharedConfig) :
      Fits default live handedOut ⟨.obtain policy.name shared?, .obtained policy⟩
  | created {policy : Policy} {shared? : Option SharedConfig} (named : policy.name ≠ "")
      (absent : policy.name ∉ live.map Policy.name)
      (shared : policy.shared = shared?.getD default) (loggable : policy.shared.isLoggable = true)
      (new : ∀ other ∈ handedOut,
        other.number ≠ policy.number ∧ other.publisher ≠ policy.publisher) :
      Fits default live handedOut ⟨.obtain policy.name shared?, .obtained policy⟩
  | refused {failure : Failure} (type : failure.type = .value)
      (text : failure.text = .ok "name must be a non-empty string")
      (shared? : Option SharedConfig) :
      Fits default live handedOut ⟨.obtain "" shared?, .refused failure⟩
  | unlogged {name : String} {shared? : Option SharedConfig} {failure : Failure}
      (named : name ≠ "") (absent : name ∉ live.map Policy.name)
      (unloggable : (shared?.getD default).isLoggable = false) (type : failure.type = .value)
      (text : failure.text = .ok ArithmeticFault.tooManyDigits.message) :
      Fits default live handedOut ⟨.obtain name shared?, .refused failure⟩
  | found (name : String) :
      Fits default live handedOut
        ⟨.find name, .found (live.find? fun policy => policy.name = name)⟩
  | removed (name : String) :
      Fits default live handedOut
        ⟨.remove name, .found (live.find? fun policy => policy.name = name)⟩
  | present (name : String) :
      Fits default live handedOut
        ⟨.contains name, .present (decide (name ∈ live.map Policy.name))⟩
  | counted : Fits default live handedOut ⟨.size, .counted live.length⟩
  | listed : Fits default live handedOut ⟨.all, .listed live⟩

theorem mem_enter {live : List Policy} {policy : Policy} (member : policy ∈ live)
    {exchange : Exchange} (stays : ¬ exchange.Removes policy.name) :
    policy ∈ exchange.enter live := by
  unfold enter
  split
  · split
    · exact member
    · exact List.mem_append_left _ member
  · next asked =>
      refine List.mem_filter.mpr ⟨member, decide_eq_true ?_⟩
      rintro rfl
      exact stays asked
  · exact member

theorem mem_of_mem_enter {live : List Policy} {policy : Policy} {exchange : Exchange}
    (member : policy ∈ exchange.enter live) :
    policy ∈ live ∨ policy.name ∉ live.map Policy.name ∧ exchange.answer = .obtained policy := by
  unfold enter at member
  split at member
  · next obtained _ answered =>
      split at member
      · exact .inl member
      · next absent =>
          rcases List.mem_append.mp member with member | last
          · exact .inl member
          · rw [List.mem_singleton] at last
            subst last
            exact .inr ⟨absent, answered⟩
  · exact .inl (List.mem_of_mem_filter member)
  · exact .inl member

private theorem nodup_enter {live : List Policy} (distinct : (live.map Policy.name).Nodup)
    (exchange : Exchange) : ((exchange.enter live).map Policy.name).Nodup := by
  unfold enter
  split
  · split
    · exact distinct
    · next absent =>
        rw [List.map_append, List.map_singleton, ← List.concat_eq_append]
        exact List.Nodup.concat absent distinct
  · exact distinct.sublist (List.filter_sublist.map _)
  · exact distinct

end Exchange

/-- The roster that exchanges lead to. -/
def roster (exchanges : List Exchange) : List Policy :=
  exchanges.foldl Exchange.enter []

/-- The policies that were handed out in exchanges. -/
def handedOut (exchanges : List Exchange) : List Policy :=
  exchanges.flatMap fun exchange => exchange.answer.policies

theorem roster_concat (exchanges : List Exchange) (exchange : Exchange) :
    roster (exchanges ++ [exchange]) = exchange.enter (roster exchanges) := by
  rw [roster, List.foldl_append]
  rfl

theorem handedOut_append (earlier later : List Exchange) :
    handedOut (earlier ++ later) = handedOut earlier ++ handedOut later :=
  List.flatMap_append

theorem nodup_roster (exchanges : List Exchange) :
    ((roster exchanges).map Policy.name).Nodup := by
  induction exchanges using List.reverseRecOn with
  | nil => exact List.nodup_nil
  | append_singleton earlier last induction =>
      rw [roster_concat]
      exact Exchange.nodup_enter induction last

theorem mem_handedOut_concat {exchanges : List Exchange} {exchange : Exchange}
    {policy : Policy} : policy ∈ handedOut (exchanges ++ [exchange]) ↔
      policy ∈ handedOut exchanges ∨ policy ∈ exchange.answer.policies := by
  rw [handedOut_append, List.mem_append, handedOut, handedOut, List.flatMap_singleton]

/-- Whoever is on the roster was handed out. -/
theorem mem_handedOut_of_mem_roster {exchanges : List Exchange} {policy : Policy}
    (member : policy ∈ roster exchanges) : policy ∈ handedOut exchanges := by
  induction exchanges using List.reverseRecOn with
  | nil => cases member
  | append_singleton earlier last induction =>
      rw [roster_concat] at member
      rw [mem_handedOut_concat]
      rcases Exchange.mem_of_mem_enter member with member | ⟨_, obtained⟩
      · exact .inl (induction member)
      · rw [obtained]
        exact .inr (List.mem_singleton_self policy)

/-- Every exchange fits the roster that those before it lead to. -/
def Fitting (default : SharedConfig) (exchanges : List Exchange) : Prop :=
  ∀ earlier exchange later, exchanges = earlier ++ exchange :: later →
    exchange.Fits default (roster earlier) (handedOut earlier)

theorem Fitting.concat {default : SharedConfig} {exchanges : List Exchange} {exchange : Exchange}
    (fitting : Fitting default exchanges)
    (fits : exchange.Fits default (roster exchanges) (handedOut exchanges)) :
    Fitting default (exchanges ++ [exchange]) := by
  intro earlier other later equal
  induction later using List.reverseRecOn with
  | nil =>
      rcases List.append_inj' equal rfl with ⟨same, last⟩
      cases last
      rwa [← same]
  | append_singleton between last _ =>
      rw [← List.cons_append, ← List.append_assoc] at equal
      exact fitting earlier other between (List.append_inj' equal rfl).1

theorem Fitting.of_append {default : SharedConfig} {earlier later : List Exchange}
    (fitting : Fitting default (earlier ++ later)) : Fitting default earlier := by
  intro first exchange rest equal
  exact fitting first exchange (rest ++ later) (by rw [equal, List.append_assoc, List.cons_append])

/-! ## From one removal of a name to the next -/

section Tenure

variable {default : SharedConfig} {exchanges : List Exchange}

theorem mem_roster_append {earlier between : List Exchange} {policy : Policy}
    (member : policy ∈ roster earlier)
    (stays : ∀ exchange ∈ between, ¬ exchange.Removes policy.name) :
    policy ∈ roster (earlier ++ between) := by
  induction between using List.reverseRecOn with
  | nil => rwa [List.append_nil]
  | append_singleton between last induction =>
      rw [← List.append_assoc, roster_concat]
      apply Exchange.mem_enter
      · exact induction fun exchange member => stays exchange (List.mem_append_left _ member)
      · exact stays last (List.mem_append_right _ (List.mem_singleton_self last))

theorem eq_of_mem_roster {first second : Policy} (firstMember : first ∈ roster exchanges)
    (secondMember : second ∈ roster exchanges) (same : first.name = second.name) :
    first = second :=
  List.inj_on_of_nodup_map (nodup_roster exchanges) firstMember secondMember same

theorem Exchange.Fits.mem_enter {live handedOut : List Policy} {request : Request}
    {policy : Policy} (fits : Exchange.Fits default live handedOut ⟨request, .obtained policy⟩) :
    policy ∈ Exchange.enter live ⟨request, .obtained policy⟩ := by
  cases fits with
  | kept member shared? =>
      exact Exchange.mem_enter member nofun
  | created named absent shared loggable new =>
      rw [enter_obtained, if_neg absent]
      exact List.mem_append_right _ (List.mem_singleton_self policy)

theorem Exchange.Fits.name_of_obtained {live handedOut : List Policy} {name : String}
    {shared? : Option SharedConfig} {policy : Policy}
    (fits : Exchange.Fits default live handedOut ⟨.obtain name shared?, .obtained policy⟩) :
    policy.name = name := by
  cases fits <;> rfl

/-- As long as a name is not removed, everyone who asks for it obtains the same policy. -/
theorem Fitting.same (fitting : Fitting default exchanges)
    {earlier between later : List Exchange} {name : String}
    {firstShared? secondShared? : Option SharedConfig} {first second : Policy}
    (equal : exchanges = earlier ++ ⟨.obtain name firstShared?, .obtained first⟩ ::
      (between ++ ⟨.obtain name secondShared?, .obtained second⟩ :: later))
    (stays : ∀ exchange ∈ between, ¬ exchange.Removes name) : second = first := by
  have begun := fitting earlier _ _ equal
  have named := begun.name_of_obtained
  have member := begun.mem_enter
  rw [← roster_concat] at member
  subst named
  have remains := mem_roster_append member stays
  have fits := fitting (earlier ++ [⟨.obtain first.name firstShared?, .obtained first⟩] ++ between)
    ⟨.obtain first.name secondShared?, .obtained second⟩ later (by simp [equal])
  have secondNamed := fits.name_of_obtained
  generalize Request.obtain first.name secondShared? = request at fits
  cases fits with
  | kept secondMember shared? => exact eq_of_mem_roster secondMember remains secondNamed
  | created named absent shared loggable new =>
      rw [secondNamed] at absent
      exact absurd (List.mem_map_of_mem remains) absent

/-- The policies that get a name after its removal are none of those handed out before. -/
theorem Fitting.unknown {earlier between : List Exchange} {name : String} {answer : Answer}
    (fitting : Fitting default (earlier ++ ⟨.remove name, answer⟩ :: between)) {policy : Policy}
    (member : policy ∈ roster (earlier ++ ⟨.remove name, answer⟩ :: between))
    (named : policy.name = name) {other : Policy} (before : other ∈ handedOut earlier) :
    other.number ≠ policy.number := by
  induction between using List.reverseRecOn generalizing policy with
  | nil =>
      rw [roster_concat, Exchange.enter_removed] at member
      have stays := (List.mem_filter.mp member).2
      exact absurd named (of_decide_eq_true stays)
  | append_singleton between last induction =>
      rw [← List.cons_append, ← List.append_assoc] at fitting member
      rw [roster_concat] at member
      rcases Exchange.mem_of_mem_enter member with member | ⟨absent, obtained⟩
      · exact induction fitting.of_append member named
      · have fits := fitting _ last [] rfl
        have known : other ∈ handedOut (earlier ++ ⟨.remove name, answer⟩ :: between) := by
          rw [handedOut_append]
          exact List.mem_append_left _ before
        rcases last with ⟨request, lastAnswer⟩
        cases obtained
        cases fits with
        | kept listed shared? => exact absurd (List.mem_map_of_mem listed) absent
        | created _ _ _ _ new => exact (new other known).1

/-- After a removal of its name, another policy is obtained than before. -/
theorem Fitting.renewed (fitting : Fitting default exchanges)
    {earlier between later : List Exchange} {name : String}
    {firstShared? secondShared? : Option SharedConfig} {first second : Policy}
    (equal : exchanges = earlier ++ ⟨.obtain name firstShared?, .obtained first⟩ ::
      (between ++ ⟨.obtain name secondShared?, .obtained second⟩ :: later))
    {removal : Exchange} (member : removal ∈ between) (removes : removal.Removes name) :
    first.number ≠ second.number := by
  rcases List.append_of_mem member with ⟨before, after, rfl⟩
  rcases removal with ⟨request, answer⟩
  cases removes
  have split : exchanges =
      ((earlier ++ ⟨.obtain name firstShared?, .obtained first⟩ :: before) ++
        ⟨.remove name, answer⟩ :: after) ++
        ⟨.obtain name secondShared?, .obtained second⟩ :: later := by simp [equal]
  have known : first ∈ handedOut
      (earlier ++ ⟨.obtain name firstShared?, .obtained first⟩ :: before) := by
    simp [handedOut, Answer.policies]
  have fits := fitting _ _ _ split
  have named := fits.name_of_obtained
  rw [split] at fitting
  generalize Request.obtain name secondShared? = request at fits
  cases fits with
  | kept listed shared? => exact fitting.of_append.unknown listed named known
  | created _ _ _ _ new =>
      apply (new first ?_).1
      rw [handedOut_append]
      exact List.mem_append_left _ known

end Tenure

end Registry

end Reattempt
