import Reattempt.Proofs.Incident

/-! The past of a world. Calls of any policies are used in any order and by any code, and
every wait that was interrupted is remembered. Whatever happened, no cause was attached to
a failure object before it was made, and a call that was cancelled remains so. -/

namespace Reattempt

variable {σ : Type}

namespace CauseLinks

theorem causeOf_of_causeless (links : CauseLinks) {failure : Failure}
    (causeless : failure.cause = none) : links.causeOf failure = links.find? failure.identity := by
  rw [causeOf, causeless]
  split
  · next found => exact found.symm
  · next absent => exact absent.symm

theorem causeOf_congr {links other : CauseLinks} {failure : Failure}
    (same : links.find? failure.identity = other.find? failure.identity) :
    links.causeOf failure = other.causeOf failure := by
  rw [causeOf, causeOf, same]

end CauseLinks

namespace World

/-- The identity belongs to an object of the caller or to one that was made already. -/
def Knows (world : World σ) (identity : Identity) : Prop :=
  ∀ number, identity = .made number → number < world.failures

/-- No cause is attached to objects that are not made yet. -/
def Founded (world : World σ) : Prop :=
  ∀ number, world.failures ≤ number → world.links.find? (.made number) = none

/-- Meanwhile failures are made and calls are cancelled, but no cause is attached. -/
structure Idles (before after : World σ) : Prop where
  links : after.links = before.links
  failures : before.failures ≤ after.failures
  progress : ∀ call, ∃ cancelled,
    after.progressOf call = (before.progressOf call).heed cancelled

/-- Other calls are cancelled at most. -/
def Spares (call : Nat) (before after : World σ) : Prop :=
  ∀ other, other ≠ call → ∃ cancelled,
    after.progressOf other = (before.progressOf other).heed cancelled

variable {call : Nat} {before after world : World σ}

theorem Knows.mono {identity : Identity} (known : before.Knows identity)
    (failures : before.failures ≤ after.failures) : after.Knows identity :=
  fun number made => Nat.lt_of_lt_of_le (known number made) failures

theorem knows_given (world : World σ) (number : Nat) : world.Knows (.given number) :=
  nofun

theorem Founded.find?_eq_none (founded : world.Founded) {identity : Identity}
    (unknown : ¬ world.Knows identity) : world.links.find? identity = none := by
  cases identity with
  | given number => exact absurd (world.knows_given number) unknown
  | made number =>
      apply founded number
      apply Nat.le_of_not_lt
      intro made
      apply unknown
      rintro _ ⟨⟩
      exact made

theorem Spares.of_progress (same : after.progress = before.progress) : Spares call before after :=
  fun other _ => ⟨false, by simp [Situation.progressOf, same]⟩

instance : IsPreorder (World σ) (Spares call) where
  refl _ := .of_progress rfl
  trans := by
    intro first second third begun ended other different
    rcases begun other different with ⟨earlier, equal⟩
    rcases ended other different with ⟨later, equalLater⟩
    exact ⟨earlier || later, by rw [equalLater, equal, Progress.heed_heed]⟩

theorem Spares.of_outside (outside : before.Outside after) : Spares call before after :=
  fun other _ => outside.heeds other

theorem spares_changeProgress (change : Progress → Progress) :
    Spares call world (world.changeProgress call change) :=
  fun _ different => ⟨false, progressOf_changeProgress_of_ne different change world⟩

end World

/-! ## After an incident -/

namespace Incident.Attaches

open World

variable {incident : Incident} {policyName : String} {attempts : Nat} {before after : World σ}
  {interruption : Failure}
  (attaches : incident.Attaches policyName attempts before after interruption)

include attaches

theorem isA_interruption : interruption.isA .waitInterrupted = true := by
  cases attaches with
  | native raised native links => exact native
  | anew foreign new made links => exact FailureType.covers_refl .waitInterrupted

theorem find?_failure : after.links.find? incident.failure.identity = some interruption := by
  cases attaches with
  | native raised native links =>
      rw [links]
      exact OrderedMap.find?_set_self _ _ _
  | anew foreign new made links =>
      rw [links]
      exact OrderedMap.find?_set_self _ _ _

/-- The failure itself and a new interruption are the only objects that get a cause. That of
the interruption is what interrupted the wait, which was no interruption then. -/
theorem find?_of_ne {identity : Identity} (different : identity ≠ incident.failure.identity) :
    after.links.find? identity = before.links.find? identity ∨
      identity = interruption.identity ∧ ¬ before.Knows identity ∧ after.Knows identity ∧
        after.links.find? identity = incident.cause?.or (before.links.find? identity) ∧
        ∀ cause, incident.cause? = some cause → cause.isA .waitInterrupted = false := by
  cases attaches with
  | native raised native links =>
      rw [links, CauseLinks.find?_extend different]
      exact .inl (ite_self _)
  | anew foreign new made links =>
      rw [links, CauseLinks.find?_extend different]
      split
      · next same =>
          subst same
          refine .inr ⟨rfl, ?_, ?_, rfl, foreign⟩
          · exact fun known => absurd (known _ rfl) (Nat.not_lt_of_le new)
          · rintro _ ⟨⟩
            exact made
      · exact .inl rfl

end Incident.Attaches

namespace Environment

open World Reattempt.Action

variable (environment : Environment σ) (call : Call)

/-! ## Other calls -/

theorem ignoresReports_spares : IgnoresReports environment call (Spares (σ := σ) call.number) where
  observe _ _ := .of_progress rfl
  counting _ _ := spares_changeProgress _
  rejecting _ := spares_changeProgress _
  succeeding _ := spares_changeProgress _
  changeCounters _ _ := .of_progress rfl
  newIdentity _ := .of_progress rfl
  publishes event world := .of_outside (environment.keeps_publish _ event world)

theorem ignoresWaits_spares : IgnoresWaits call (Spares (σ := σ) call.number) where
  note _ _ := .of_progress rfl
  logged _ _ := .of_progress rfl
  changeProgress _ _ := spares_changeProgress _
  relinking _ _ _ := .of_progress rfl

theorem spares_perform (operation : Operation) :
    (environment.perform call operation).Keeps (Spares call.number) := by
  have spared {α : Type} {action : Action σ α} (outside : action.Keeps Outside) :
      action.Keeps (Spares call.number) :=
    fun world => .of_outside (outside world)
  have ignores := environment.ignoresReports_spares call
  cases operation with
  | success => exact ignores.keeps_onSuccess
  | cancel => exact spared (keeps_cancel call.number)
  | failure kind failure =>
      rw [perform, onFailure_eq]
      refine kind.keeps_enclose ?_ ignores.newIdentity
      refine Keeps.bind (ignores.keeps_recordFailure (spared (environment.keeps_isRetryable _ _))
        fun _ => spared (environment.keeps_delay _ _)) fun interval => ?_
      refine Keeps.bind ((ignoresWaits_spares call).keeps_waitBefore
        (spared (environment.outside_passTime call kind interval))) fun _ => ?_
      exact fun world => spares_changeProgress _

/-! ## Operations and their incidents -/

/-- The operation on the call, carried out in this world, encounters an incident or none. What
is reported is an object that exists. -/
inductive Encounters (before : World σ) : Operation → Option Incident → Prop
  | success : Encounters before .success none
  | cancel : Encounters before .cancel none
  | failure {kind : WaitKind} {failure : Failure} {exit : Exit}
      (known : before.Knows failure.identity)
      (exits : Exits environment call kind failure before exit
        (environment.recordAndWait call kind (some failure) before)) :
      Encounters before (.failure kind failure) (exit.incident? failure before.links)

variable {environment call}

theorem attaching_onSuccess (before : World σ) {attempts : Nat} :
    Attaching call attempts none before ((environment.onSuccess call).after before) := by
  rcases Nat.eq_zero_or_pos (before.attemptsOf call) with never | retried
  · rw [after_eq_of_ok (environment.onSuccess_at_once call never)]
    exact .of_links (Nat.le_refl _) rfl
  · rcases environment.onSuccess_after_retry call retried with ⟨entry, announces⟩
    have announced := announces_of_announce .success rfl (after_congr announces).symm
    exact .of_links announced.failures announced.links

theorem Encounters.attaching {before : World σ} {operation : Operation}
    {incident? : Option Incident}
    (encounters : Encounters environment call before operation incident?) :
    Attaching call (before.attemptsOf call + 1) incident? before
      ((environment.perform call operation).after before) := by
  cases encounters with
  | success => exact attaching_onSuccess before
  | cancel =>
      have outside := keeps_cancel call.number before
      exact .of_links outside.failures outside.links
  | failure known exits => exact exits.attaching_onFailure

theorem Encounters.known {before : World σ} {operation : Operation} {incident : Incident}
    (encounters : Encounters environment call before operation (some incident)) :
    before.Knows incident.failure.identity ∧ incident.links = before.links := by
  generalize equal : some incident = incident? at encounters
  cases encounters with
  | success => cases equal
  | cancel => cases equal
  | failure known exits =>
      rcases Exit.eq_of_incident? equal.symm with ⟨rfl, links⟩
      exact ⟨known, links⟩

theorem exists_encounters (environment : Environment σ) (call : Call) {operation : Operation}
    {before : World σ}
    (known : ∀ kind failure, operation = .failure kind failure → before.Knows failure.identity) :
    ∃ incident?, Encounters environment call before operation incident? := by
  cases operation with
  | success => exact ⟨none, .success⟩
  | cancel => exact ⟨none, .cancel⟩
  | failure kind failure =>
      rcases exists_exits environment call kind failure before with ⟨exit, exits⟩
      exact ⟨_, .failure (known kind failure rfl) exits⟩

theorem Encounters.founded {before : World σ} {operation : Operation} {incident? : Option Incident}
    (encounters : Encounters environment call before operation incident?)
    (founded : before.Founded) :
    ((environment.perform call operation).after before).Founded := by
  intro number unmade
  have attaching := encounters.attaching
  rw [← founded number (Nat.le_trans attaching.failures unmade)]
  cases incident? with
  | none => rw [attaching.undisturbed rfl]
  | some incident =>
      rcases attaching.disturbed rfl with ⟨interruption, attaches⟩
      have different : Identity.made number ≠ incident.failure.identity := by
        intro same
        have known := encounters.known.1 number same.symm
        have failures := attaching.failures
        omega
      rcases attaches.find?_of_ne different with same | ⟨-, -, known, -⟩
      · exact same
      · exact absurd (known number rfl) (Nat.not_lt_of_le unmade)

end Environment

/-! ## Histories -/

namespace World

open Environment

/-- The first world becomes the second one: operations on calls are carried out, one after
another and in the surroundings of the moment, with these incidents. -/
inductive Becomes (origin : World σ) : List Incident → World σ → Prop
  | origin : Becomes origin [] origin
  | performed {incidents : List Incident} {before : World σ} {environment : Environment σ}
      {call : Call} {operation : Operation} {incident? : Option Incident}
      (past : Becomes origin incidents before)
      (encounters : Encounters environment call before operation incident?) :
      Becomes origin (incidents ++ incident?.toList)
        ((environment.perform call operation).after before)
  | meanwhile {incidents : List Incident} {before after : World σ}
      (past : Becomes origin incidents before) (idles : before.Idles after) :
      Becomes origin incidents after

namespace Becomes

variable {origin world : World σ} {incidents : List Incident}
  (past : origin.Becomes incidents world)

include past

theorem founded (founded : origin.Founded) : world.Founded := by
  induction past with
  | origin => exact founded
  | performed past encounters founded => exact encounters.founded founded
  | meanwhile past idles founded =>
      intro number unmade
      rw [idles.links]
      exact founded number (Nat.le_trans idles.failures unmade)

theorem known {incident : Incident} (member : incident ∈ incidents) :
    world.Knows incident.failure.identity := by
  induction past with
  | origin => cases member
  | performed past encounters known =>
      refine Knows.mono ?_ encounters.attaching.failures
      rcases List.mem_append.mp member with earlier | last
      · exact known earlier
      · rw [Option.mem_toList] at last
        subst last
        exact encounters.known.1
  | meanwhile past idles known => exact (known member).mono idles.failures

/-- A call that was cancelled remains so. -/
theorem cancelled {call : Nat} (cancelled : (origin.progressOf call).cancelled = true) :
    (world.progressOf call).cancelled = true := by
  induction past with
  | origin => exact cancelled
  | performed past encounters cancelled =>
      rename_i before environment other operation _
      by_cases same : call = other.number
      · subst same
        exact (follows_perform operation before).cancelled cancelled
      · rcases environment.spares_perform other operation before call same with ⟨again, equal⟩
        rw [equal, Progress.cancelled_heed, cancelled, Bool.true_or]
  | meanwhile past idles cancelled =>
      rcases idles.progress call with ⟨again, equal⟩
      rw [equal, Progress.cancelled_heed, cancelled, Bool.true_or]

end Becomes

end World

end Reattempt
