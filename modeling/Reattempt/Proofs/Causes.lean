import Mathlib.Logic.Relation
import Mathlib.Order.WellFoundedSet
import Reattempt.Proofs.Interruption

/-! The graph of causes. Every failure object leads to its cause, if it has one. An
interrupted wait turns the edge of the failure to the interruption and, if the interruption
is new, draws an edge from there to what interrupted the wait. A cycle comes into being if
and only if this cause is the failure or leads back to it. -/

namespace Reattempt

open Relation

/-! ## Redirecting an edge -/

section Graph

variable {α : Type} {edges : α → α → Prop} {source target fresh first last : α}

/-- The edges out of the source are replaced by one to the target. -/
def Redirect (edges : α → α → Prop) (source target first second : α) : Prop :=
  first = source ∧ second = target ∨ first ≠ source ∧ edges first second

/-- A node that nothing leads to gets an edge, or none. -/
def Extend (edges : α → α → Prop) (fresh : α) (target? : Option α) (first second : α) : Prop :=
  edges first second ∨ first = fresh ∧ target? = some second

/-- Paths to the source do not need the edges out of it. -/
theorem reflTransGen_redirect_iff :
    ReflTransGen (Redirect edges source target) first source ↔
      ReflTransGen edges first source := by
  constructor
  · intro path
    induction path using ReflTransGen.head_induction_on with
    | refl => exact .refl
    | head edge _ rest =>
        rcases edge with ⟨rfl, -⟩ | ⟨-, edge⟩
        · exact .refl
        · exact rest.head edge
  · intro path
    induction path using ReflTransGen.head_induction_on with
    | refl => exact .refl
    | @head node next edge _ rest =>
        by_cases same : node = source
        · subst same
          exact .refl
        · exact rest.head (.inr ⟨same, edge⟩)

private theorem transGen_of_redirect (path : TransGen (Redirect edges source target) first last) :
    TransGen edges first last ∨
      ReflTransGen (Redirect edges source target) first source ∧
        ReflTransGen (Redirect edges source target) target last := by
  induction path with
  | single edge =>
      rcases edge with ⟨rfl, rfl⟩ | ⟨-, edge⟩
      · exact .inr ⟨.refl, .refl⟩
      · exact .inl (.single edge)
  | tail path edge through =>
      rcases through with old | ⟨toSource, fromTarget⟩
      · rcases edge with ⟨rfl, rfl⟩ | ⟨-, edge⟩
        · exact .inr ⟨path.to_reflTransGen, .refl⟩
        · exact .inl (old.tail edge)
      · exact .inr ⟨toSource, fromTarget.tail edge⟩

/-- Redirecting an edge closes a cycle if and only if the target leads to the source. -/
theorem acyclic_redirect_iff (acyclic : ∀ node, ¬ TransGen edges node node) :
    (∀ node, ¬ TransGen (Redirect edges source target) node node) ↔
      ¬ ReflTransGen edges target source := by
  constructor
  · intro kept path
    exact kept source (.head' (.inl ⟨rfl, rfl⟩) (reflTransGen_redirect_iff.mpr path))
  · intro apart node cycle
    rcases transGen_of_redirect cycle with old | ⟨toSource, fromTarget⟩
    · exact acyclic node old
    · exact apart (reflTransGen_redirect_iff.mp (fromTarget.trans toSource))

section Extend

variable {target? : Option α} (unreached : ∀ {first}, ¬ Extend edges fresh target? first fresh)

include unreached

private theorem transGen_of_extend (path : TransGen (Extend edges fresh target?) first last)
    (different : first ≠ fresh) : TransGen edges first last := by
  induction path with
  | single edge =>
      rcases edge with edge | ⟨same, -⟩
      · exact .single edge
      · exact absurd same different
  | @tail middle last path edge rest =>
      rcases edge with edge | ⟨rfl, -⟩
      · exact rest.tail edge
      · rcases TransGen.tail'_iff.mp path with ⟨_, -, edge⟩
        exact absurd edge unreached

theorem acyclic_extend (acyclic : ∀ node, ¬ TransGen edges node node) (node : α) :
    ¬ TransGen (Extend edges fresh target?) node node := by
  intro cycle
  by_cases same : node = fresh
  · subst same
    rcases TransGen.tail'_iff.mp cycle with ⟨_, -, edge⟩
    exact unreached edge
  · exact acyclic node (transGen_of_extend unreached cycle same)

private theorem reflTransGen_extend_iff (bare : ∀ {second}, ¬ edges fresh second)
    (different : last ≠ fresh) :
    ReflTransGen (Extend edges fresh target?) fresh last ↔
      ∃ target, target? = some target ∧ ReflTransGen edges target last := by
  constructor
  · intro path
    rcases path.cases_head with same | ⟨next, edge, rest⟩
    · exact absurd same.symm different
    · have apart : next ≠ fresh := by
        rintro rfl
        exact unreached edge
      rcases edge with edge | ⟨-, found⟩
      · exact absurd edge bare
      · refine ⟨next, found, ?_⟩
        rcases reflTransGen_iff_eq_or_transGen.mp rest with rfl | path
        · exact .refl
        · exact (transGen_of_extend unreached path apart).to_reflTransGen
  · rintro ⟨target, found, path⟩
    have kept : ReflTransGen (Extend edges fresh target?) target last :=
      path.lift id fun _ _ edge => .inl edge
    exact .head (.inr ⟨rfl, found⟩) kept

end Extend

end Graph

/-! ## The causes of failure objects -/

namespace CauseLinks

variable {links later : CauseLinks} {objects : Set Failure}

/-- One of the objects has the other failure as its cause. -/
def Causes (links : CauseLinks) (objects : Set Failure) (effect cause : Failure) : Prop :=
  effect ∈ objects ∧ links.causeOf effect = some cause

/-- No object leads back to itself. -/
def Acyclic (links : CauseLinks) (objects : Set Failure) : Prop :=
  ∀ failure, ¬ TransGen (links.Causes objects) failure failure

/-- All objects that belong together: they are told apart by their identities, and the cause
of each is one of them. -/
structure Heap (links : CauseLinks) (objects : Set Failure) : Prop where
  distinct : ∀ {left right}, left ∈ objects → right ∈ objects → left.identity = right.identity →
    left = right
  closed : ∀ {effect cause}, links.Causes objects effect cause → cause ∈ objects

inductive Ends (links : CauseLinks) : Failure → Prop
  | intro {failure : Failure}
      (next : ∀ cause, links.causeOf failure = some cause → Ends links cause) :
      Ends links failure

theorem ends_of_causeOf_eq_none {failure : Failure} (causeless : links.causeOf failure = none) :
    links.Ends failure := by
  constructor
  intro cause found
  rw [causeless] at found
  cases found

/-- Among finitely many objects, chains of causes end unless there is a cycle. -/
theorem Heap.ends (heap : links.Heap objects) (finite : objects.Finite)
    (acyclic : links.Acyclic objects) {failure : Failure} (member : failure ∈ objects) :
    links.Ends failure := by
  have order : IsStrictOrder Failure fun cause effect =>
      TransGen (links.Causes objects) effect cause :=
    { irrefl := acyclic
      trans := fun _ _ _ earlier later => later.trans earlier }
  have wellFounded : objects.WellFoundedOn fun cause effect =>
      TransGen (links.Causes objects) effect cause := finite.wellFoundedOn
  refine wellFounded.induction member ?_
  intro effect present ends
  constructor
  intro cause found
  have edge : links.Causes objects effect cause := ⟨present, found⟩
  exact ends cause (heap.closed edge) (.single edge)

end CauseLinks

/-! ## What an incident does to the graph -/

namespace Environment

open World CauseLinks

variable {σ : Type} {call : Call} {before after : World σ} {incident : Incident}
  {interruption : Failure} {objects : Set Failure}

structure Involves (before : World σ) (objects : Set Failure) (incident : Incident) : Prop where
  heap : before.links.Heap objects
  known : ∀ {object}, object ∈ objects → before.Knows object.identity
  failure : incident.failure ∈ objects
  cause : ∀ {cause}, incident.cause? = some cause → cause ∈ objects

section Involves

variable (involves : Involves before objects incident)
  (attaches : incident.Attaches call.policy.name (before.attemptsOf call + 1) before after
    interruption)

include involves attaches

private theorem Involves.causeOf_of_ne {object : Failure} (member : object ∈ objects)
    (different : object ≠ incident.failure) :
    after.links.causeOf object = before.links.causeOf object := by
  refine causeOf_of_attaches attaches ?_ (.inr (involves.known member))
  intro same
  exact different (involves.heap.distinct member involves.failure same)

private theorem Involves.causes_iff {object cause : Failure} (member : object ∈ objects) :
    after.links.causeOf object = some cause ↔
      Redirect (before.links.Causes objects) incident.failure interruption object cause := by
  by_cases same : object = incident.failure
  · subst same
    simp [Redirect, causeOf, attaches.find?_failure, eq_comm]
  · simp [Redirect, Causes, same, member, involves.causeOf_of_ne attaches member same]

theorem Involves.native_or_new (founded : before.Founded) :
    incident.cause? = some interruption ∨
      ¬ before.Knows interruption.identity ∧
        after.links.causeOf interruption = incident.cause? := by
  have signals := signals_of_attaches attaches founded (involves.known involves.failure)
  generalize incident.cause? = cause? at signals ⊢
  cases signals with
  | itself native => exact .inl rfl
  | anew foreign new made caused =>
      exact .inr ⟨fun known => absurd (known _ rfl) (Nat.not_lt_of_le new), caused⟩

theorem Involves.redirects :
    after.links.Causes objects =
      Redirect (before.links.Causes objects) incident.failure interruption := by
  funext object cause
  apply propext
  constructor
  · rintro ⟨member, found⟩
    exact (involves.causes_iff attaches member).mp found
  · intro edge
    have member : object ∈ objects := by
      rcases edge with ⟨rfl, -⟩ | ⟨-, member, -⟩
      · exact involves.failure
      · exact member
    exact ⟨member, (involves.causes_iff attaches member).mpr edge⟩

theorem Involves.redirects_extended (absent : interruption ∉ objects)
    (caused : after.links.causeOf interruption = incident.cause?) :
    after.links.Causes (insert interruption objects) =
      Redirect (Extend (before.links.Causes objects) interruption incident.cause?)
        incident.failure interruption := by
  funext object cause
  apply propext
  by_cases new : object = interruption
  · subst new
    have different : object ≠ incident.failure := by
      rintro rfl
      exact absent involves.failure
    simp [Causes, Redirect, Extend, different, absent, caused]
  · have old : after.links.Causes (insert interruption objects) object cause ↔
        after.links.Causes objects object cause := by
      simp [Causes, new]
    rw [old, involves.redirects attaches]
    simp [Redirect, Extend, new]

theorem Involves.heap_insert (founded : before.Founded) :
    after.links.Heap (insert interruption objects) := by
  rcases involves.native_or_new attaches founded with native | ⟨unknown, caused⟩
  · rw [Set.insert_eq_of_mem (involves.cause native)]
    refine ⟨involves.heap.distinct, ?_⟩
    intro effect cause edge
    rw [involves.redirects attaches] at edge
    rcases edge with ⟨-, rfl⟩ | ⟨-, edge⟩
    · exact involves.cause native
    · exact involves.heap.closed edge
  · have aside {object : Failure} (member : object ∈ objects) :
        object.identity ≠ interruption.identity := by
      intro same
      exact unknown (same ▸ involves.known member)
    constructor
    · rintro left right (rfl | leftMember) (rfl | rightMember) same
      · rfl
      · exact absurd same.symm (aside rightMember)
      · exact absurd same (aside leftMember)
      · exact involves.heap.distinct leftMember rightMember same
    · have absent : interruption ∉ objects := fun member => aside member rfl
      intro effect cause edge
      rw [involves.redirects_extended attaches absent caused] at edge
      rcases edge with ⟨-, rfl⟩ | ⟨-, edge | ⟨-, found⟩⟩
      · exact .inl rfl
      · exact .inr (involves.heap.closed edge)
      · exact .inr (involves.cause found)

/-- An incident closes a cycle if and only if what interrupted the wait is the failure or
leads to it. -/
theorem Involves.acyclic_iff (founded : before.Founded) (acyclic : before.links.Acyclic objects) :
    after.links.Acyclic (insert interruption objects) ↔
      ∀ cause, incident.cause? = some cause → cause ≠ incident.failure ∧
        ¬ TransGen (before.links.Causes objects) cause incident.failure := by
  have apart (cause : Failure) :
      ¬ ReflTransGen (before.links.Causes objects) cause incident.failure ↔
        cause ≠ incident.failure ∧
          ¬ TransGen (before.links.Causes objects) cause incident.failure := by
    rw [reflTransGen_iff_eq_or_transGen, not_or, ne_eq, eq_comm]
  simp only [← apart]
  rcases involves.native_or_new attaches founded with native | ⟨unknown, caused⟩
  · rw [Set.insert_eq_of_mem (involves.cause native), Acyclic, involves.redirects attaches,
      acyclic_redirect_iff acyclic, native]
    simp
  · have absent : interruption ∉ objects := fun member => unknown (involves.known member)
    have different : incident.failure ≠ interruption := by
      rintro rfl
      exact absent involves.failure
    have unreached {object : Failure} :
        ¬ Extend (before.links.Causes objects) interruption incident.cause? object
          interruption := by
      rintro (edge | ⟨-, found⟩)
      · exact absent (involves.heap.closed edge)
      · exact absent (involves.cause found)
    rw [Acyclic, involves.redirects_extended attaches absent caused,
      acyclic_redirect_iff (acyclic_extend unreached acyclic),
      reflTransGen_extend_iff unreached (fun edge => absent edge.1) different]
    simp

end Involves

end Environment

/-! ## Chains of causes -/

/-- What interrupted the wait from outside is an object of the caller that has no cause and is
not the failure itself. -/
def Incident.Fresh (incident : Incident) : Prop :=
  ∀ cause, incident.cause? = some cause → (∃ number, cause.identity = .given number) ∧
    cause.identity ≠ incident.failure.identity ∧ incident.links.causeOf cause = none

namespace Environment

open World CauseLinks

variable {σ : Type}

/-- Every chain goes on to the interruption, if it comes to the failure, and ends there or one
step later. -/
theorem ends_of_attaches {call : Call} {before after : World σ} {incident : Incident}
    {interruption : Failure}
    (attaches : incident.Attaches call.policy.name (before.attemptsOf call + 1) before after
      interruption) (founded : before.Founded) (known : before.Knows incident.failure.identity)
    (links : incident.links = before.links) (fresh : incident.Fresh) {failure : Failure}
    (ends : before.links.Ends failure) : after.links.Ends failure := by
  have raised {cause : Failure} (raises : incident.cause? = some cause) :
      after.links.Ends cause := by
    rcases fresh cause raises with ⟨⟨number, given⟩, different, causeless⟩
    have known : before.Knows cause.identity := given ▸ knows_given before number
    apply ends_of_causeOf_eq_none
    rw [causeOf_of_attaches attaches different (.inr known), ← links]
    exact causeless
  have interrupted : after.links.Ends interruption := by
    have signals := signals_of_attaches attaches founded known
    generalize found : incident.cause? = cause? at signals
    cases signals with
    | itself native => exact raised found
    | anew foreign new made caused =>
        constructor
        intro cause leads
        exact raised (found.trans (caused.symm.trans leads))
  -- The chain is followed as it was before the incident, until it comes to the failure.
  induction ends with
  | intro next ends =>
      rename_i failure
      constructor
      intro cause leads
      by_cases same : failure.identity = incident.failure.identity
      · rw [causeOf, same, attaches.find?_failure] at leads
        cases leads
        exact interrupted
      · have kept (found : after.links.find? failure.identity =
            before.links.find? failure.identity) : after.links.Ends cause :=
          ends cause ((causeOf_congr found).symm.trans leads)
        rcases attaches.find?_of_ne same with found | ⟨-, unknown, -, found, -⟩
        · exact kept found
        · cases raises : incident.cause? with
          | none => exact kept (by rw [found, raises, Option.none_or])
          | some origin =>
              rw [causeOf, found, raises] at leads
              cases leads
              exact raised raises

end Environment

namespace World

open Environment

/-- If waits are interrupted by cancellations and fresh failures only, every chain of causes
that ends at the beginning ends forever. -/
theorem Becomes.ends {σ : Type} {origin world : World σ} {incidents : List Incident}
    (past : origin.Becomes incidents world) (founded : origin.Founded)
    (fresh : ∀ incident ∈ incidents, incident.Fresh) {failure : Failure}
    (ends : origin.links.Ends failure) : world.links.Ends failure := by
  induction past with
  | origin => exact ends
  | meanwhile past idles ended =>
      rw [idles.links]
      exact ended fresh
  | performed past encounters ended =>
      rename_i earlier before environment call operation incident?
      have attaching := encounters.attaching
      have kept := ended fun incident member => fresh incident (List.mem_append_left _ member)
      cases incident? with
      | none =>
          rw [attaching.undisturbed rfl]
          exact kept
      | some incident =>
          rcases attaching.disturbed rfl with ⟨interruption, attaches⟩
          rcases encounters.known with ⟨known, links⟩
          exact ends_of_attaches attaches (past.founded founded) known links
            (fresh incident (by simp)) kept

end World

namespace Environment

open World CauseLinks

/-- The causes in every world that calls can lead to. An operation without an incident keeps
them free of cycles. After an incident they are so if and only if what interrupted the wait is
not the failure and does not lead to it. As long as only cancellations and fresh failures
interrupt waits, every chain of causes comes to an end, also those of objects that are made
meanwhile. -/
theorem acyclic_of_becomes {σ : Type} {origin world : World σ} {incidents : List Incident}
    (founded : origin.Founded) (past : origin.Becomes incidents world) :
    (∀ environment call {operation},
      (∀ kind failure, operation = .failure kind failure → world.Knows failure.identity) →
        ∃ incident?, Encounters environment call world operation incident?) ∧
    (∀ {environment call operation incident? objects},
      Encounters environment call world operation incident? → world.links.Acyclic objects →
      let after := (environment.perform call operation).after world
      (incident? = none → after.links.Acyclic objects) ∧
      ∀ {incident}, incident? = some incident → Involves world objects incident →
        ∃ interruption, after.links.causeOf incident.failure = some interruption ∧
          after.links.Heap (insert interruption objects) ∧
          (after.links.Acyclic (insert interruption objects) ↔
            ∀ cause, incident.cause? = some cause → cause ≠ incident.failure ∧
              ¬ TransGen (world.links.Causes objects) cause incident.failure)) ∧
    ((∀ incident ∈ incidents, incident.Fresh) →
      (∀ {failure}, origin.links.Ends failure → world.links.Ends failure) ∧
      (∀ {failure}, ¬ origin.Knows failure.identity →
        (∀ cause, failure.cause = some cause → origin.links.Ends cause) →
          world.links.Ends failure) ∧
      ∀ {objects : Set Failure}, objects.Finite → origin.links.Heap objects →
        origin.links.Acyclic objects → ∀ failure ∈ objects, world.links.Ends failure) := by
  refine ⟨fun environment call _ known => exists_encounters environment call known, ?_, ?_⟩
  · intro environment call operation incident? objects encounters acyclic after
    have attaching := encounters.attaching
    constructor
    · intro undisturbed
      rw [attaching.undisturbed undisturbed]
      exact acyclic
    · intro incident met involves
      rcases attaching.disturbed met with ⟨interruption, attaches⟩
      refine ⟨interruption, ?_, involves.heap_insert attaches (past.founded founded),
        involves.acyclic_iff attaches (past.founded founded) acyclic⟩
      rw [causeOf, attaches.find?_failure]
  · intro fresh
    refine ⟨past.ends founded fresh, ?_, ?_⟩
    · intro failure unknown ended
      apply past.ends founded fresh
      constructor
      intro cause found
      rw [causeOf, founded.find?_eq_none unknown] at found
      exact ended cause found
    · intro objects finite heap acyclic failure member
      exact past.ends founded fresh (heap.ends finite acyclic member)

/-! ## Two failures that interrupt each other's wait -/

namespace Mutual

def raising (failure : Failure) : Environment Unit :=
  { Impatient.environment with wait := fun _ _ => .raise failure }

def call (number : Nat) : Call :=
  { Impatient.call with number }

def first : Failure := .ofMessage (.given 0) .interrupted "first"

def second : Failure := .ofMessage (.given 1) .interrupted "second"

def incident (failure other : Failure) (links : CauseLinks) : Incident where
  failure := failure
  cause? := some other
  links := links

/-- If a call that was not cancelled is interrupted, the other failure did it. -/
theorem encounters_of_interrupted {failure other : Failure} {number : Nat}
    {before after : World Unit} (given : ∀ made, failure.identity ≠ .made made)
    (reports : (raising other).recordAndWait (call number) .sleeping (some failure) before =
      .error failure after)
    (fresh : (before.progressOf number).interrupted = false)
    (interrupted : (after.progressOf number).interrupted = true)
    (uncancelled : (after.progressOf number).cancelled = false) :
    Encounters (raising other) (call number) before (.failure .sleeping failure)
      (some (incident failure other before.links)) := by
  have known : before.Knows failure.identity := fun made same => absurd same (given made)
  rcases exists_exits (raising other) (call number) .sleeping failure before with ⟨exit, exits⟩
  have marks := exits.interrupted_eq
  rw [reports] at marks exits
  have marked : exit.marks = true := by
    change (after.progressOf number).interrupted = ((before.progressOf number).interrupted || _)
      at marks
    rw [fresh, Bool.false_or] at marks
    exact marks.symm.trans interrupted
  have met := exit.isSome_incident? failure before.links
  rw [exits.isInterrupted_of_marks marked given, Option.isSome_iff_exists] at met
  rcases met with ⟨⟨reported, cause?, links⟩, met⟩
  have caused : cause? = some other := by
    have cancelled := (exits.source met).2
    cases cause? with
    | none =>
        have noticed : (after.progressOf number).cancelled = true := cancelled rfl
        rw [uncancelled] at noticed
        cases noticed
    | some cause =>
        cases exits with
        | waited asked allowed planning records waits =>
            cases waits with
            | interrupted notCancelled passes interrupts ends =>
                cases passes
                cases ends with
                | raised worded =>
                    cases met
                    rfl
                | unworded refused new => cases met
            | skipped cancelled ends => cases ends <;> cases met
            | noticed notCancelled passes ends => cases ends <;> cases met
            | escaped notCancelled passes escapes => cases met
        | _ => cases met
  have encounters : Encounters (raising other) (call number) before (.failure .sleeping failure)
      (exit.incident? failure before.links) := .failure known (reports ▸ exits)
  rcases Exit.eq_of_incident? met with ⟨same, linked⟩
  rw [met] at encounters
  cases caused
  cases same
  cases linked
  exact encounters

def world : World Unit where
  memory := ()

theorem uncaused (object cause : Failure) : ¬ world.links.Causes {first, second} object cause := by
  rintro ⟨rfl | rfl, found⟩ <;> cases found

theorem acyclic : world.links.Acyclic {first, second} := by
  intro failure cycle
  rcases TransGen.head'_iff.mp cycle with ⟨cause, edge, -⟩
  exact uncaused failure cause edge

theorem involves : Involves world {first, second} (incident first second world.links) where
  heap :=
    { distinct := by rintro _ _ (rfl | rfl) (rfl | rfl) same <;> first | rfl | cases same
      closed := fun edge => absurd edge (uncaused _ _) }
  known := by rintro _ (rfl | rfl) <;> exact knows_given world _
  failure := .inl rfl
  cause := by
    rintro _ ⟨⟩
    exact .inr rfl

theorem leads_nowhere : ∀ cause ∈ (incident first second world.links).cause?,
    cause ≠ first ∧ ¬ TransGen (world.links.Causes {first, second}) cause first := by
  rintro _ ⟨⟩
  constructor
  · intro same
    cases congrArg Failure.identity same
  · intro path
    rcases TransGen.head'_iff.mp path with ⟨cause, edge, -⟩
    exact uncaused _ cause edge

theorem fresh : ∀ other ∈ [incident first second world.links], other.Fresh := by
  intro other member
  cases List.mem_singleton.mp member
  rintro _ ⟨⟩
  exact ⟨⟨1, rfl⟩, by decide, rfl⟩

end Mutual

/-- The first failure comes to lead to the second one. When it interrupts the wait after that
one, the circle is closed. -/
theorem acyclic_of_becomes_mutual :
    let world : World Unit := { memory := () }
    let interrupted := ((Mutual.raising Mutual.second).perform (Mutual.call 0)
      (.failure .sleeping Mutual.first)).after world
    let closed := ((Mutual.raising Mutual.first).perform (Mutual.call 1)
      (.failure .sleeping Mutual.second)).after interrupted
    ∃ earlier later,
      interrupted.links.causeOf Mutual.first = some earlier ∧
      interrupted.links.Acyclic {earlier, Mutual.first, Mutual.second} ∧
      interrupted.links.Ends Mutual.first ∧
      closed.links.causeOf Mutual.second = some later ∧
      ¬ closed.links.Acyclic {later, earlier, Mutual.first, Mutual.second} := by
  intro world interrupted closed
  have founded : world.Founded := fun _ _ => rfl
  have encounters : Encounters (Mutual.raising Mutual.second) (Mutual.call 0) world
      (.failure .sleeping Mutual.first)
      (some (Mutual.incident Mutual.first Mutual.second world.links)) :=
    Mutual.encounters_of_interrupted (fun _ => nofun) rfl rfl rfl rfl
  rcases ((acyclic_of_becomes founded .origin).2.1 encounters Mutual.acyclic).2 rfl
    Mutual.involves with ⟨earlier, leads, heap, kept⟩
  have stillAcyclic : interrupted.links.Acyclic {earlier, Mutual.first, Mutual.second} :=
    kept.mpr Mutual.leads_nowhere
  have encountersAgain : Encounters (Mutual.raising Mutual.first) (Mutual.call 1) interrupted
      (.failure .sleeping Mutual.second)
      (some (Mutual.incident Mutual.second Mutual.first interrupted.links)) :=
    Mutual.encounters_of_interrupted (fun _ => nofun) rfl rfl rfl rfl
  have made : interrupted.links.causeOf Mutual.first =
      some (.interruption (.made 0) "backend" 1) := rfl
  have leadsOn : interrupted.links.causeOf (.interruption (.made 0) "backend" 1) =
      some Mutual.second := rfl
  cases leads.symm.trans made
  have involvesAgain : Involves interrupted
      {.interruption (.made 0) "backend" 1, Mutual.first, Mutual.second}
      (Mutual.incident Mutual.second Mutual.first interrupted.links) :=
    { heap := heap
      known := by
        rintro _ (rfl | rfl | rfl)
        · rintro _ ⟨⟩
          exact Nat.zero_lt_one
        · exact knows_given interrupted 0
        · exact knows_given interrupted 1
      failure := .inr (.inr rfl)
      cause := by
        rintro _ ⟨⟩
        exact .inr (.inl rfl) }
  have past : world.Becomes _ interrupted := .performed .origin encounters
  have ends : interrupted.links.Ends Mutual.first :=
    ((acyclic_of_becomes founded past).2.2 Mutual.fresh).1 (ends_of_causeOf_eq_none rfl)
  rcases ((acyclic_of_becomes founded past).2.1 encountersAgain stillAcyclic).2 rfl
    involvesAgain with ⟨later, leadsLater, -, closes⟩
  refine ⟨_, later, leads, stillAcyclic, ends, leadsLater, fun free => ?_⟩
  refine (closes.mp free Mutual.first rfl).2 (.tail (.single ⟨.inr (.inl rfl), made⟩) ?_)
  exact ⟨.inl rfl, leadsOn⟩

end Environment

end Reattempt
