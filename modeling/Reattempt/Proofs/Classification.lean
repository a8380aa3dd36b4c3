import Mathlib.Logic.Relation
import Reattempt.Proofs.Effect

/-! Classifying failures. A configuration admits the types that no ignored type is an ancestor
of and that have a retried type among their ancestors, if any are listed. The predicate is
asked about the failures of these types, once each, and about no others. So only the reach of
the listed types counts, and more of them turn the answer in one direction. -/

namespace Reattempt

variable {σ α : Type}

/-! ## Descent -/

def FailureType.DescendsFrom : FailureType → FailureType → Prop :=
  Relation.ReflTransGen fun child parent => parent ∈ child.parents

theorem FailureTypes.coveredBy_iff {ancestor : FailureType} (kinds : FailureTypes) :
    kinds.coveredBy ancestor = true ↔ ∃ kind ∈ kinds.toList, ancestor.covers kind = true :=
  match kinds with
  | .nil => by simp [coveredBy, toList]
  | .cons first rest => by simp [coveredBy, toList, coveredBy_iff rest]

namespace FailureType

private theorem covers_step_iff {ancestor kind : FailureType} :
    ancestor.covers kind = true ↔
      kind = ancestor ∨ ∃ parent ∈ kind.parents, ancestor.covers parent = true := by
  rcases kind with ⟨name, home, parents⟩
  rw [covers, Bool.or_eq_true, decide_eq_true_eq, FailureTypes.coveredBy_iff, eq_comm]
  rfl

end FailureType

mutual
private theorem FailureType.descendsFrom_of_covers {ancestor : FailureType} :
    (kind : FailureType) → ancestor.covers kind = true → kind.DescendsFrom ancestor
  | .named name home parents, covers => by
      rw [FailureType.covers, Bool.or_eq_true, decide_eq_true_eq] at covers
      rcases covers with rfl | covered
      · exact .refl
      · rcases FailureTypes.descendsFrom_of_coveredBy parents covered with ⟨_, member, descends⟩
        exact .head member descends

theorem FailureTypes.descendsFrom_of_coveredBy {ancestor : FailureType} :
    (kinds : FailureTypes) → kinds.coveredBy ancestor = true →
      ∃ kind ∈ kinds.toList, kind.DescendsFrom ancestor
  | .nil, covered => by cases covered
  | .cons first rest, covered => by
      rw [FailureTypes.coveredBy, Bool.or_eq_true] at covered
      rcases covered with covers | covered
      · exact ⟨first, List.mem_cons_self, FailureType.descendsFrom_of_covers first covers⟩
      · rcases FailureTypes.descendsFrom_of_coveredBy rest covered with ⟨kind, member, descends⟩
        exact ⟨kind, List.mem_cons_of_mem _ member, descends⟩
end

namespace FailureType

/-- The search through all ancestors finds exactly these. -/
theorem covers_iff {ancestor kind : FailureType} :
    ancestor.covers kind = true ↔ kind.DescendsFrom ancestor := by
  refine ⟨descendsFrom_of_covers kind, fun descends => ?_⟩
  induction descends using Relation.ReflTransGen.head_induction_on with
  | refl => exact covers_refl ancestor
  | head member _ covers => exact covers_step_iff.mpr (.inr ⟨_, member, covers⟩)

def Beneath (kinds others : List FailureType) : Prop :=
  ∀ kind ∈ kinds, ∃ other ∈ others, kind.DescendsFrom other

def SameReach (kinds others : List FailureType) : Prop :=
  Beneath kinds others ∧ Beneath others kinds

variable {kinds others : List FailureType}

private theorem beneath_of_subset (included : kinds ⊆ others) : Beneath kinds others :=
  fun kind member => ⟨kind, included member, .refl⟩

theorem sameReach_of_mem_iff (same : ∀ kind, kind ∈ kinds ↔ kind ∈ others) :
    SameReach kinds others :=
  ⟨beneath_of_subset fun kind => (same kind).mp, beneath_of_subset fun kind => (same kind).mpr⟩

theorem Beneath.descends (beneath : Beneath kinds others) {kind : FailureType}
    (reached : ∃ listed ∈ kinds, kind.DescendsFrom listed) :
    ∃ listed ∈ others, kind.DescendsFrom listed := by
  rcases reached with ⟨listed, member, descends⟩
  rcases beneath listed member with ⟨other, otherMember, above⟩
  exact ⟨other, otherMember, descends.trans above⟩

end FailureType

/-! ## Admitted types -/

namespace Config

def Admits (config : Config) (kind : FailureType) : Prop :=
  (¬ ∃ ignored ∈ config.ignoreTypes, kind.DescendsFrom ignored) ∧
    (config.retryTypes = [] ∨ ∃ retried ∈ config.retryTypes, kind.DescendsFrom retried)

theorem allowsType_iff {config : Config} {kind : FailureType} :
    config.allowsType kind = true ↔ config.Admits kind := by
  simp [allowsType, Admits, FailureType.covers_iff, List.any_eq_true]

instance (config : Config) (kind : FailureType) : Decidable (config.Admits kind) :=
  decidable_of_iff _ allowsType_iff

variable {config other : Config} {kind : FailureType}

theorem Admits.mono (admits : config.Admits kind)
    (ignores : FailureType.Beneath other.ignoreTypes config.ignoreTypes)
    (retries : other.retryTypes = [] ∨ config.retryTypes ≠ [] ∧
      FailureType.Beneath config.retryTypes other.retryTypes) : other.Admits kind := by
  refine ⟨fun reached => admits.1 (ignores.descends reached), ?_⟩
  rcases retries with all | ⟨some, beneath⟩
  · exact .inl all
  · exact .inr (beneath.descends (admits.2.resolve_left some))

theorem admits_congr (ignores : FailureType.SameReach other.ignoreTypes config.ignoreTypes)
    (retries : FailureType.SameReach other.retryTypes config.retryTypes) :
    other.Admits kind ↔ config.Admits kind := by
  -- A list that reaches no more than the empty one is empty.
  have empty {kinds others : List FailureType} (beneath : FailureType.Beneath kinds others)
      (none : others = []) : kinds = [] := by
    subst none
    refine List.eq_nil_iff_forall_not_mem.mpr fun kind member => ?_
    rcases beneath kind member with ⟨other, impossible, -⟩
    cases impossible
  have more {left right : Config}
      (ignores : FailureType.Beneath right.ignoreTypes left.ignoreTypes)
      (retries : FailureType.SameReach right.retryTypes left.retryTypes)
      (admits : left.Admits kind) : right.Admits kind := by
    apply admits.mono ignores
    by_cases all : left.retryTypes = []
    · exact .inl (empty retries.1 all)
    · exact .inr ⟨all, retries.2⟩
  exact ⟨more ignores.2 ⟨retries.2, retries.1⟩, more ignores.1 retries⟩

end Config

/-! ## Questions -/

namespace Environment

def ask (environment : Environment σ) (predicate : Predicate) (failure : Failure) :
    Action σ Bool :=
  match predicate with
  | .always => pure true
  | .custom function => environment.run (environment.predicate function (some failure))

/-- The same code, but every question to a predicate leaves a remark before the answer. -/
def remarking (environment : Environment σ) (remark : Remark) : Environment σ :=
  { environment with
    predicate := fun function failure => .note remark (environment.predicate function failure) }

variable {environment : Environment σ} {config other : Config} {failure : Failure}

private theorem isRetryable_eq (environment : Environment σ) (config : Config) (failure : Failure) :
    environment.isRetryable config (some failure) =
      if config.Admits failure.type then environment.ask config.predicate failure
      else pure false := by
  rw [isRetryable, Config.allows]
  by_cases admits : config.Admits failure.type
  · rw [if_pos (Config.allowsType_iff.mpr admits), if_pos admits]
    cases config.predicate <;> rfl
  · rw [if_neg (mt Config.allowsType_iff.mp admits), if_neg admits]

private theorem isRetryable_of_admits (admits : config.Admits failure.type) :
    environment.isRetryable config (some failure) = environment.ask config.predicate failure := by
  rw [isRetryable_eq, if_pos admits]

private theorem isRetryable_of_not_admits (excluded : ¬ config.Admits failure.type) :
    environment.isRetryable config (some failure) = pure false := by
  rw [isRetryable_eq, if_neg excluded]

/-! ## The laws of classification -/

private theorem run_remarking (remark : Remark) (code : Behaviour σ α) :
    (environment.remarking remark).run code = environment.run code := by
  apply run_congr <;> rfl

/-- The remarks stand for the questions: one if the type is admitted, else none. -/
theorem isRetryable_remarking (remark : Remark) {function : Callable}
    (custom : config.predicate = .custom function) (failure : Failure) (world : World σ) :
    (environment.remarking remark).isRetryable config (some failure) world =
      environment.isRetryable config (some failure)
        (if config.Admits failure.type then world.observe (.remarked remark) else world) := by
  simp only [isRetryable_eq, ask, custom, run_remarking]
  by_cases admits : config.Admits failure.type
  · rw [if_pos admits, if_pos admits, if_pos admits]
    rfl
  · rw [if_neg admits, if_neg admits, if_neg admits]

theorem isRetryable_congr (same : other.predicate = config.predicate)
    (admits : other.Admits failure.type ↔ config.Admits failure.type) :
    environment.isRetryable other (some failure) =
      environment.isRetryable config (some failure) := by
  simp only [isRetryable_eq, same, admits]

/-- Every other answer than a plain refusal is that of the predicate. -/
theorem isRetryable_eq_iff {world : World σ} {result : EStateM.Result Failure (World σ) Bool}
    (answered : result ≠ .ok false world) :
    environment.isRetryable config (some failure) world = result ↔
      config.Admits failure.type ∧ environment.ask config.predicate failure world = result := by
  by_cases admits : config.Admits failure.type
  · rw [isRetryable_of_admits admits]
    exact ⟨fun asked => ⟨admits, asked⟩, fun conditions => conditions.2⟩
  · rw [isRetryable_of_not_admits admits]
    exact ⟨fun refused => absurd refused.symm answered,
      fun conditions => absurd conditions.1 admits⟩

/-- A configuration that admits no less, with the same predicate, finds no less worth another
attempt. -/
theorem isRetryable_mono (admits : config.Admits failure.type → other.Admits failure.type)
    (same : other.predicate = config.predicate) {world after : World σ}
    (retryable : environment.isRetryable config (some failure) world = .ok true after) :
    environment.isRetryable other (some failure) world = .ok true after := by
  rw [isRetryable_eq_iff (by rintro ⟨⟩)] at retryable ⊢
  exact ⟨admits retryable.1, same ▸ retryable.2⟩

/-- How failures are classified: by the reach of the listed types, and by what the predicate
says about the failures that these types leave over. -/
structure Classifies (environment : Environment σ) (config : Config) : Prop where
  retryable (failure : Failure) (world after : World σ) :
    environment.isRetryable config (some failure) world = .ok true after ↔
      (¬ ∃ ignored ∈ config.ignoreTypes, failure.type.DescendsFrom ignored) ∧
      (config.retryTypes = [] ∨ ∃ retried ∈ config.retryTypes, failure.type.DescendsFrom retried) ∧
      environment.ask config.predicate failure world = .ok true after
  /-- A failure of the predicate is seen only where the predicate is asked. -/
  raises (failure raised : Failure) (world after : World σ) :
    environment.isRetryable config (some failure) world = .error raised after ↔
      config.Admits failure.type ∧
        environment.ask config.predicate failure world = .error raised after
  unasked (failure : Failure) (excluded : ¬ config.Admits failure.type) (world : World σ) :
    environment.isRetryable config (some failure) world = .ok false world
  /-- Of a predicate that writes a remark whenever it is asked, one remark is found if the type
  is admitted, and none otherwise. -/
  asked (remark : Remark) (function : Callable) (custom : config.predicate = .custom function)
      (failure : Failure) (world : World σ) :
    (environment.remarking remark).isRetryable config (some failure) world =
      environment.isRetryable config (some failure)
        (if config.Admits failure.type then world.observe (.remarked remark) else world)
  /-- Only what the listed types reach matters. -/
  reach (retryTypes ignoreTypes : List FailureType)
      (retries : FailureType.SameReach retryTypes config.retryTypes)
      (ignores : FailureType.SameReach ignoreTypes config.ignoreTypes) (failure : Failure) :
    environment.isRetryable { config with retryTypes, ignoreTypes } (some failure) =
      environment.isRetryable config (some failure)
  /-- Order and repetition of the listed types do not matter. -/
  rearranged (retryTypes ignoreTypes : List FailureType)
      (retries : ∀ kind, kind ∈ retryTypes ↔ kind ∈ config.retryTypes)
      (ignores : ∀ kind, kind ∈ ignoreTypes ↔ kind ∈ config.ignoreTypes) (failure : Failure) :
    environment.isRetryable { config with retryTypes, ignoreTypes } (some failure) =
      environment.isRetryable config (some failure)
  /-- Descendants of listed types do not matter either. -/
  absorbed (retryTypes ignoreTypes : List FailureType)
      (retriesMore : config.retryTypes ⊆ retryTypes)
      (ignoresMore : config.ignoreTypes ⊆ ignoreTypes)
      (retries : FailureType.Beneath retryTypes config.retryTypes)
      (ignores : FailureType.Beneath ignoreTypes config.ignoreTypes) (failure : Failure) :
    environment.isRetryable { config with retryTypes, ignoreTypes } (some failure) =
      environment.isRetryable config (some failure)
  ignoringMore (ignoreTypes : List FailureType) (more : config.ignoreTypes ⊆ ignoreTypes)
      (failure : Failure) (world after : World σ)
      (retryable : environment.isRetryable { config with ignoreTypes } (some failure) world =
        .ok true after) :
    environment.isRetryable config (some failure) world = .ok true after
  retryingMore (retryTypes : List FailureType) (more : config.retryTypes ⊆ retryTypes)
      (listed : config.retryTypes ≠ []) (failure : Failure) (world after : World σ)
      (retryable : environment.isRetryable config (some failure) world = .ok true after) :
    environment.isRetryable { config with retryTypes } (some failure) world = .ok true after
  /-- A type that is ignored takes all its descendants with it. -/
  ignored (kind : FailureType) (member : kind ∈ config.ignoreTypes) (descendant : FailureType)
      (descends : descendant.DescendsFrom kind) (failure : Failure)
      (instanceOf : failure.type.DescendsFrom descendant) (world : World σ) :
    environment.isRetryable config (some failure) world = .ok false world

theorem isRetryable_classifies (environment : Environment σ) (config : Config) :
    environment.Classifies config where
  retryable failure world after := by
    rw [isRetryable_eq_iff (by rintro ⟨⟩), Config.Admits, and_assoc]
  raises failure raised world after := isRetryable_eq_iff (by rintro ⟨⟩)
  unasked failure excluded world := by
    rw [isRetryable_of_not_admits excluded]
    rfl
  asked remark function custom := isRetryable_remarking remark custom
  reach retryTypes ignoreTypes retries ignores failure :=
    isRetryable_congr rfl (Config.admits_congr ignores retries)
  rearranged retryTypes ignoreTypes retries ignores failure :=
    isRetryable_congr rfl <| Config.admits_congr (FailureType.sameReach_of_mem_iff ignores)
      (FailureType.sameReach_of_mem_iff retries)
  absorbed retryTypes ignoreTypes retriesMore ignoresMore retries ignores failure :=
    isRetryable_congr rfl <| Config.admits_congr
      ⟨ignores, FailureType.beneath_of_subset ignoresMore⟩
      ⟨retries, FailureType.beneath_of_subset retriesMore⟩
  ignoringMore ignoreTypes more failure world after retryable := by
    have admits (admits : { config with ignoreTypes }.Admits failure.type) :
        config.Admits failure.type := by
      refine admits.mono (FailureType.beneath_of_subset more) ?_
      by_cases all : config.retryTypes = []
      · exact .inl all
      · exact .inr ⟨all, FailureType.beneath_of_subset fun _ => id⟩
    exact isRetryable_mono admits rfl retryable
  retryingMore retryTypes more listed failure world after retryable := by
    have admits (admits : config.Admits failure.type) :
        { config with retryTypes }.Admits failure.type :=
      admits.mono (FailureType.beneath_of_subset fun _ => id)
        (.inr ⟨listed, FailureType.beneath_of_subset more⟩)
    exact isRetryable_mono admits rfl retryable
  ignored kind member descendant descends failure instanceOf world := by
    have excluded : ¬ config.Admits failure.type :=
      fun admits => admits.1 ⟨kind, member, instanceOf.trans descends⟩
    rw [isRetryable_of_not_admits excluded]
    rfl

end Environment

/-! ## A type with two parents -/

namespace Torn

def kind : FailureType := .named "GatewayError" "gateway" (.ofList [.connection, .value])

def failure : Failure := .ofMessage (.given 0) kind "bad gateway"

def objection : Failure := .ofMessage (.given 1) .zeroDivision "division by zero"

def environment : Environment Unit where
  interval _ _ := .answer Backoff.defaultDelay
  predicate _ _ := .raise objection
  listener _ _ _ := .answer ()
  wait _ _ := .answer ()
  draw _ _ := .answer 0.0
  depth := 0

def config : Config :=
  { Config.default with
    predicate := .custom ⟨0, "picky"⟩, retryTypes := [.connection], ignoreTypes := [.value] }

end Torn

namespace Environment

/-- The ignored parent decides, and the predicate has no chance to raise. Without it the type is
admitted, and the predicate raises its failure. -/
theorem isRetryable_torn (world : World Unit) :
    Torn.environment.isRetryable Torn.config (some Torn.failure) world = .ok false world ∧
      Torn.environment.isRetryable { Torn.config with ignoreTypes := [] } (some Torn.failure)
        world = .error Torn.objection world := by
  constructor
  · exact (isRetryable_classifies Torn.environment Torn.config).ignored .value (by decide)
      Torn.kind (.single (by decide)) Torn.failure .refl world
  · exact ((isRetryable_classifies Torn.environment
      { Torn.config with ignoreTypes := [] }).raises _ _ _ _).mpr ⟨by decide, rfl⟩

end Environment

end Reattempt
