import Reattempt.Proofs.Agreement

/-! Whole runs agree. Two runs of an operation that differ in how they wait go through
the same rounds as long as their waits correspond, because the worlds in which these
waits begin are alike again. -/

namespace Reattempt

variable {σ α : Type}

open World Reattempt.Action

namespace World

theorem changeProgress_eq_self {world : World σ} {call : Nat} {change : Progress → Progress}
    (known : world.progress.contains call = true)
    (same : change (world.progressOf call) = world.progressOf call) :
    world.changeProgress call change = world := by
  rcases Option.isSome_iff_exists.mp known with ⟨progress, found⟩
  have equal : world.progressOf call = progress := by
    rw [Situation.progressOf, found, Option.getD_some]
  rw [changeProgress]
  rw [same, equal, OrderedMap.set_of_find? found]

theorem Alike.beginning {left right : World σ} (alike : Alike left right) {call : Call}
    (known : left.progress.contains call.number = true)
    (unstranded : (left.progressOf call.number).stranded = false) {kind : WaitKind}
    (awake : kind ≠ .suspended) (interval : Scalar) :
    Alike (left.beginning call kind interval) (right.beginning call .suspended interval) := by
  have begun : Alike (left.note call (.waitBegun kind interval))
      (right.note call (.waitBegun .suspended interval)) := alike.observe rfl
  have kept : (right.note call (.waitBegun .suspended interval)).changeProgress call.number
      (.setStranded false) = right.note call (.waitBegun .suspended interval) := by
    apply changeProgress_eq_self
    · exact alike.situation ▸ known
    · rw [progressOf_note, ← alike.progressOf, Progress.setStranded, ← unstranded]
  rw [World.beginning, if_neg awake, World.beginning, if_pos rfl, kept]
  exact begun

theorem Alike.opening {left right : World σ} (alike : Alike left right) :
    Alike left.opening right.opening :=
  { alike with
    situation := by simp only [World.opening, alike.situation] }

end World

namespace Environment

variable (environment : Environment σ) (call : Call)

/-- As long as two calls go on, their waits correspond, one after another. -/
def WaitsCorrespondAlong (kind : WaitKind) (operation : Arguments → Behaviour σ α)
    (arguments : Arguments) : (budget : Nat) → (left right : World σ) → Prop
  | 0, _, _ => True
  | budget + 1, left, right =>
      ∀ {failure leftFailed rightFailed},
        environment.run (operation arguments) (left.note call (.attempted arguments)) =
          .error failure leftFailed →
        environment.run (operation arguments) (right.note call (.attempted arguments)) =
          .error failure rightFailed →
        (∀ {interval leftPlanned rightPlanned},
          environment.recordFailure call (some failure) leftFailed = .ok interval leftPlanned →
          environment.recordFailure call (some failure) rightFailed = .ok interval rightPlanned →
          environment.WaitsCorrespond call kind interval leftPlanned rightPlanned) ∧
        ∀ {leftNext rightNext},
          environment.onFailure call kind (some failure) leftFailed = .ok () leftNext →
          environment.onFailure call .suspended (some failure) rightFailed = .ok () rightNext →
          WaitsCorrespondAlong kind operation arguments budget leftNext rightNext

theorem links_of_attempt {arguments : Arguments} {before after : World σ}
    (outside : (before.note call (.attempted arguments)).Outside after) :
    after.links = before.links :=
  outside.links

theorem attemptWithin_agrees {kind : WaitKind} (awake : kind ≠ .suspended)
    {operation : Arguments → Behaviour σ α} {arguments : Arguments} {budget : Nat}
    {left right : World σ} (alike : Alike left right)
    (correspond : environment.WaitsCorrespondAlong call kind operation arguments budget left right)
    (leaves : LeavesAsItIs
      (environment.attemptWithin call kind operation arguments budget left)) :
    Agreement call left.links right.links
      (environment.attemptWithin call kind operation arguments budget left)
      (environment.attemptWithin call .suspended operation arguments budget right) := by
  induction budget generalizing left right with
  | zero => exact .answered alike rfl rfl
  | succ budget induction =>
      have begun : Alike (left.note call (.attempted arguments))
          (right.note call (.attempted arguments)) := alike.observe rfl
      have attempted := environment.mirrors_run (operation arguments) begun
      rw [attemptWithin_succ] at leaves ⊢
      rw [attemptWithin_succ]
      generalize leftRuns : environment.run (operation arguments)
        (left.note call (.attempted arguments)) = leftResult at attempted leaves ⊢
      generalize rightRuns : environment.run (operation arguments)
        (right.note call (.attempted arguments)) = rightResult at attempted ⊢
      cases attempted with
      | ok answered =>
          rw [← links_of_attempt call ((environment.keeps_run _).of_ok leftRuns),
            ← links_of_attempt call ((environment.keeps_run _).of_ok rightRuns)]
          have reported := environment.mirrors_onSuccess call answered
          have kept := environment.untouched_onSuccess call
          dsimp only
          generalize leftReports : environment.onSuccess call _ = leftReported at reported ⊢
          generalize rightReports : environment.onSuccess call _ = rightReported at reported ⊢
          cases reported with
          | ok after =>
              exact .answered after (kept.of_ok leftReports).links (kept.of_ok rightReports).links
          | error after =>
              exact .ended after (kept.of_error leftReports).links
                (kept.of_error rightReports).links
      | error failed =>
          rw [← links_of_attempt call ((environment.keeps_run _).of_error leftRuns),
            ← links_of_attempt call ((environment.keeps_run _).of_error rightRuns)]
          rcases correspond leftRuns rightRuns with ⟨waits, later⟩
          dsimp only at leaves ⊢
          split
          · next ordinary =>
            rw [if_pos ordinary] at leaves
            have leavesReport : LeavesAsItIs (environment.onFailure call kind _ _) :=
              fun raised after ends => leaves (by rw [ends])
            have reported := environment.onFailure_agrees call awake _ failed waits leavesReport
            generalize leftReports : environment.onFailure call kind _ _ = leftReported
              at reported leaves ⊢
            generalize rightReports : environment.onFailure call .suspended _ _ = rightReported
              at reported ⊢
            cases reported with
            | answered next leftKept rightKept =>
                rw [← leftKept, ← rightKept]
                exact induction next (later leftReports rightReports) leaves
            | ended stopped leftKept rightKept => exact .ended stopped leftKept rightKept
            | interrupted alike noted last made origins leftChain rightChain =>
                exact .interrupted alike noted last made origins leftChain rightChain
          · exact .ended failed rfl rfl

/-! ## Waits that correspond wherever they begin -/

/-- From alike worlds in which the call is not cancelled, the two waits correspond. -/
def WaitsAlwaysCorrespond (kind : WaitKind) : Prop :=
  ∀ ⦃interval : Scalar⦄ ⦃left right : World σ⦄, Alike left right →
    (left.progressOf call.number).cancelled = false →
    Corresponding environment call kind interval left right

variable {environment call}

theorem WaitsAlwaysCorrespond.waitsCorrespond {kind : WaitKind} (awake : kind ≠ .suspended)
    (always : environment.WaitsAlwaysCorrespond call kind) {left right : World σ}
    (alike : Alike left right) (known : left.progress.contains call.number = true)
    (unstranded : (left.progressOf call.number).stranded = false) (interval : Scalar) :
    environment.WaitsCorrespond call kind interval left right := by
  intro uncancelled
  apply always (alike.beginning known unstranded awake interval)
  rw [progressOf_beginning _ _ unstranded]
  exact uncancelled

theorem WaitsAlwaysCorrespond.recorded {kind : WaitKind} (awake : kind ≠ .suspended)
    (always : environment.WaitsAlwaysCorrespond call kind) {left right : World σ}
    (alike : Alike left right) (known : left.progress.contains call.number = true)
    (unstranded : (left.progressOf call.number).stranded = false) {failure : Option Failure}
    {interval : Scalar} {leftPlanned rightPlanned : World σ}
    (leftRecords : environment.recordFailure call failure left = .ok interval leftPlanned)
    (rightRecords : environment.recordFailure call failure right = .ok interval rightPlanned) :
    environment.WaitsCorrespond call kind interval leftPlanned rightPlanned := by
  have kept := (environment.untouched_recordFailure call failure).of_ok leftRecords
  apply always.waitsCorrespond awake
  · exact Mirrors.of_ok (environment.mirrors_recordFailure call failure) alike leftRecords
      rightRecords
  · exact kept.known _ known
  · exact (kept.stranded _).trans unstranded

theorem WaitsAlwaysCorrespond.along {kind : WaitKind} (awake : kind ≠ .suspended)
    (always : environment.WaitsAlwaysCorrespond call kind)
    (operation : Arguments → Behaviour σ α) (arguments : Arguments) (budget : Nat)
    {left right : World σ} (alike : Alike left right)
    (known : left.progress.contains call.number = true)
    (unstranded : (left.progressOf call.number).stranded = false) :
    environment.WaitsCorrespondAlong call kind operation arguments budget left right := by
  induction budget generalizing left right with
  | zero => trivial
  | succ budget induction =>
      intro failure leftFailed rightFailed leftRuns rightRuns
      have begun : Alike (left.note call (.attempted arguments))
          (right.note call (.attempted arguments)) := alike.observe rfl
      have failed := Mirrors.of_error (environment.mirrors_run (operation arguments)) begun leftRuns
        rightRuns
      have kept := Untouched.of_outside ((environment.keeps_run _).of_error leftRuns)
      have stillKnown := kept.known _ known
      have stillUnstranded := (kept.stranded call.number).trans unstranded
      have waits {interval : Scalar} {leftPlanned rightPlanned : World σ}
          (leftRecords : environment.recordFailure call (some failure) leftFailed =
            .ok interval leftPlanned)
          (rightRecords : environment.recordFailure call (some failure) rightFailed =
            .ok interval rightPlanned) :=
        always.recorded awake failed stillKnown stillUnstranded leftRecords rightRecords
      refine ⟨waits, ?_⟩
      intro leftNext rightNext leftReports rightReports
      have leaves : LeavesAsItIs (environment.onFailure call kind (some failure) leftFailed) := by
        rw [leftReports]
        nofun
      have reported := environment.onFailure_agrees call awake (some failure) failed waits leaves
      rw [leftReports, rightReports] at reported
      have touched := untouched_of_onFailure awake leftReports
      cases reported with
      | answered next leftKept rightKept =>
          apply induction next
          · exact touched.known _ stillKnown
          · exact (touched.stranded call.number).trans stillUnstranded

/-! ## The agreement -/

theorem onFailureInThread_eq (environment : Environment σ) (number : Nat) (policy : Policy)
    (failure : Option Failure) :
    environment.onFailureInThread ⟨number, policy⟩ policy.sleeps failure =
      environment.onFailure ⟨number, policy⟩ (policy.waitKind false) failure := by
  rw [Policy.waitKind]
  cases policy.sleeps <;> rfl

/-- The report of a failure in a thread and the one in a coroutine agree if the waits
correspond that they come to, and so do whole runs. This leaves out failures that look like
the end of an iteration. -/
theorem suspended_agrees (environment : Environment σ) (policy : Policy) {left right : World σ}
    (alike : Alike left right) :
    (∀ {number : Nat} {failure : Option Failure},
      (∀ {interval leftPlanned rightPlanned},
        environment.recordFailure ⟨number, policy⟩ failure left = .ok interval leftPlanned →
        environment.recordFailure ⟨number, policy⟩ failure right = .ok interval rightPlanned →
        environment.WaitsCorrespond ⟨number, policy⟩ (policy.waitKind false) interval leftPlanned
          rightPlanned) →
      LeavesAsItIs (environment.onFailureInThread ⟨number, policy⟩ policy.sleeps failure left) →
      Agreement ⟨number, policy⟩ left.links right.links
        (environment.onFailureInThread ⟨number, policy⟩ policy.sleeps failure left)
        (environment.onFailureInTask ⟨number, policy⟩ failure right)) ∧
    ∀ {operation : Arguments → Behaviour σ α} {arguments : Arguments} {budget : Nat},
      environment.WaitsCorrespondAlong (left.nextCall policy) (policy.waitKind false) operation
        arguments budget left.opening right.opening →
      LeavesAsItIs (environment.runUnder policy false operation arguments budget left) →
      Agreement (left.nextCall policy) left.links right.links
        (environment.runUnder policy false operation arguments budget left)
        (environment.runUnder policy true operation arguments budget right) := by
  have awake : policy.waitKind false ≠ .suspended := by
    rw [Policy.waitKind]
    cases policy.sleeps <;> nofun
  constructor
  · intro number failure correspond leaves
    rw [onFailureInThread_eq] at leaves ⊢
    exact environment.onFailure_agrees _ awake failure alike correspond leaves
  · intro operation arguments budget correspond leaves
    have same : right.nextCall policy = left.nextCall policy := by
      rw [nextCall, nextCall, alike.situation]
    rw [runUnder_apply, WaitKind.enclose_of_awake awake] at leaves ⊢
    rw [runUnder_apply, same]
    exact (environment.attemptWithin_agrees _ awake alike.opening correspond leaves).enclose leaves

end Environment

namespace Environment

/-! ## A wait that is interrupted from outside -/

namespace Interrupted

def signal : Failure := .ofMessage (.given 1) .interrupted "signal"

def cancellation : Failure := .ofMessage (.given 2) .cancelled "cancelled"

theorem fromOutside : FromOutside signal cancellation where
  interrupted := by decide
  cancelled := by decide
  blockingNew := by decide
  suspendedNew := by decide

def environment : Environment Unit where
  interval _ _ := .answer Backoff.defaultDelay
  predicate _ _ := .answer true
  listener _ _ _ := .answer ()
  wait kind _ := .look fun situation _ =>
    if (situation.progressOf 0).attempts = 1 then .answer ()
    else .raise (if kind = .suspended then cancellation else signal)
  draw _ _ := .answer 0.0
  depth := 0

def policy : Policy where
  number := 0
  name := "backend"
  shared := { number := 0, config := .default }
  publisher := 0
  sleeps := true

def unreachable : Failure := .ofMessage (.given 0) .connection "unreachable"

def operation (_ : Arguments) : Behaviour Unit Nat :=
  .raise unreachable

theorem run_wait (kind : WaitKind) (interval : Scalar) (world : World Unit) :
    environment.run (environment.wait kind interval) world =
      if (world.progressOf 0).attempts = 1 then .ok () world
      else .error (if kind = .suspended then cancellation else signal) world := by
  simp only [run, environment, Behaviour.perform, bind_apply, get_apply]
  split <;> rfl

theorem waitsAlwaysCorrespond :
    environment.WaitsAlwaysCorrespond ⟨0, policy⟩ (policy.waitKind false) := by
  intro interval left right alike uncancelled
  have leftWaits {kind : WaitKind} := run_wait kind interval left
  have rightWaits {kind : WaitKind} := run_wait kind interval right
  simp only [← alike.progressOf] at rightWaits
  by_cases first : (left.progressOf 0).attempts = 1
  · simp only [if_pos first] at leftWaits rightWaits
    exact .elapsed leftWaits (environment.runDuring_of_ok rightWaits) alike (fun _ => uncancelled)
      rfl rfl alike
  · simp only [if_neg first] at leftWaits rightWaits
    have cancels : environment.firstDone ⟨0, policy⟩ interval right =
        .error cancellation right := by
      have wakes : environment.runDuring .suspended (environment.wait .suspended interval) right =
          .error cancellation right := environment.runDuring_of_error rightWaits
      simp only [runDuring] at wakes
      rw [firstDone, bind_apply, wakes]
    exact .interrupted rfl fromOutside leftWaits cancels alike

theorem leavesAsItIs {α : Type} {world : World Unit}
    {result : EStateM.Result Failure (World Unit) α} (ends : result = .error unreachable world) :
    LeavesAsItIs result := by
  intro raised after raises
  rw [ends] at raises
  cases raises
  decide

end Interrupted

theorem suspended_agrees_interrupted :
    let world : World Unit := { memory := () }
    Agreement ⟨0, Interrupted.policy⟩ .empty .empty
      (Interrupted.environment.onFailureInThread ⟨0, Interrupted.policy⟩ true
        (some Interrupted.unreachable) world.opening)
      (Interrupted.environment.onFailureInTask ⟨0, Interrupted.policy⟩
        (some Interrupted.unreachable) world.opening) ∧
    Agreement ⟨0, Interrupted.policy⟩ .empty .empty
      (Interrupted.environment.runUnder Interrupted.policy false Interrupted.operation {} 3 world)
      (Interrupted.environment.runUnder Interrupted.policy true Interrupted.operation {} 3
        world) := by
  intro world
  have always := Interrupted.waitsAlwaysCorrespond
  have awake : Interrupted.policy.waitKind false ≠ .suspended := by decide
  have opened := Alike.refl world.opening
  constructor
  · apply (suspended_agrees (α := Nat) Interrupted.environment Interrupted.policy opened).1
    · exact always.recorded awake opened (by decide) (by decide)
    · nofun
  · apply (suspended_agrees Interrupted.environment Interrupted.policy (.refl world)).2
    · exact always.along awake _ _ 3 opened (by decide) (by decide)
    · exact Interrupted.leavesAsItIs rfl

namespace Interrupted

def growing : Environment Nat where
  interval _ _ := .look fun _ asked => .remember (asked + 1) (.answer (.whole asked))
  predicate _ _ := .answer true
  listener _ _ _ := .answer ()
  wait _ _ := .answer ()
  draw _ _ := .answer 0.0
  depth := 0

def table : Policy :=
  { policy with
    shared :=
      { number := 0
        config :=
          { Config.default with interval := .custom { number := 0, shown := "<growing>" } } } }

end Interrupted

/-- Two equal calls, in which the same failure is reported one after the other. The interval
function need not say the same in both. -/
theorem onFailure_growing :
    let world : World Nat := { memory := 1 }
    ∃ next last,
      Interrupted.growing.onFailureInThread ⟨0, Interrupted.table⟩ true
        (some Interrupted.unreachable) world = .ok () next ∧
      Interrupted.growing.onFailureInTask ⟨1, Interrupted.table⟩ (some Interrupted.unreachable)
        next = .ok () last ∧
      last.stepsOf 0 =
        [.classified (some Interrupted.unreachable) true, .intervalAsked 1,
          .waitBegun .sleeping (.whole 1), .waitOver .sleeping (.whole 1)] ∧
      last.stepsOf 1 =
        [.classified (some Interrupted.unreachable) true, .intervalAsked 1,
          .waitBegun .suspended (.whole 2), .waitOver .suspended (.whole 2)] :=
  ⟨_, _, rfl, rfl, rfl, rfl⟩

end Environment

end Reattempt
