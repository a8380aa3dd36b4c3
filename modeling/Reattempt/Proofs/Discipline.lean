import Reattempt.Proofs.Course

/-! The discipline of a run, read off its steps. Each field of the discipline looks at
one step wherever it stands among the others, so it speaks about every prefix of every
run. -/

namespace Reattempt

variable {σ α : Type}

namespace CallStep

def isAttempt : CallStep → Bool
  | .attempted _ => true
  | _ => false

def isConclusion : CallStep → Bool
  | .announced event => event.kind? ≠ some .retry
  | _ => false

def attemptsIn (steps : List CallStep) : Nat :=
  steps.countP isAttempt

@[simp] theorem attemptsIn_nil : attemptsIn [] = 0 :=
  rfl

@[simp] theorem attemptsIn_cons (step : CallStep) (steps : List CallStep) :
    attemptsIn (step :: steps) = attemptsIn steps + if step.isAttempt then 1 else 0 :=
  List.countP_cons

@[simp] theorem attemptsIn_append (earlier later : List CallStep) :
    attemptsIn (earlier ++ later) = attemptsIn earlier + attemptsIn later :=
  List.countP_append

private theorem split_append {first second earlier later : List CallStep} {step : CallStep}
    (shape : first ++ second = earlier ++ step :: later) :
    (∃ rest, first = earlier ++ step :: rest ∧ later = rest ++ second) ∨
      ∃ between, earlier = first ++ between ∧ second = between ++ step :: later := by
  rcases List.append_eq_append_iff.mp shape with ⟨between, equal, rest⟩ | ⟨rest, equal, between⟩
  · exact .inr ⟨between, equal, rest⟩
  · cases rest with
    | nil => exact .inr ⟨[], by simpa using equal.symm, by simpa using between.symm⟩
    | cons head rest =>
        simp only [List.cons_append, List.cons.injEq] at between
        rcases between with ⟨rfl, equalLater⟩
        exact .inl ⟨rest, equal, equalLater⟩

end CallStep

namespace Environment

open World CallStep

variable {environment : Environment σ} {call : Call} {kind : WaitKind}
  {operation : Arguments → Behaviour σ α} {arguments : Arguments}

structure Orderly (call : Call) (number : Nat) (steps : List CallStep) : Prop where
  attempts : attemptsIn steps = 0
  intervals : ∀ {earlier asked later}, steps = earlier ++ .intervalAsked asked :: later →
    asked = number ∧ call.policy.config.limit.isReached asked = false ∧
      ∃ failure, earlier = [.classified failure true]
  waits : ∀ {earlier kind interval later}, steps = earlier ++ .waitBegun kind interval :: later →
    later = [] ∨ later = [.waitOver kind interval]
  conclusion : ∀ {earlier event later}, steps = earlier ++ .announced event :: later →
    event.kind? ≠ some .retry → later = []

inductive WaitSteps : List CallStep → Prop
  | none : WaitSteps []
  | skipped (kind : WaitKind) (interval : Scalar) : WaitSteps [.waitSkipped kind interval]
  | broken (kind : WaitKind) (interval : Scalar) : WaitSteps [.waitBegun kind interval]
  | elapsed (kind : WaitKind) (interval : Scalar) :
      WaitSteps [.waitBegun kind interval, .waitOver kind interval]

private theorem orderly_announced {eventKind : EventKind} {number : Nat} {steps : List CallStep}
    (announced : AtMostAnnounced eventKind steps) : Orderly call number steps := by
  rcases announced with rfl | ⟨event, known, rfl⟩
  · constructor <;> simp
  · constructor <;> simp [List.cons_eq_append_iff, isAttempt]
    intro _ _ _ _ _ last _
    exact last

private theorem orderly_classified {failure : Option Failure} {verdict : Bool}
    {eventKind : EventKind} {number : Nat} {announced : List CallStep}
    (final : AtMostAnnounced eventKind announced) :
    Orderly call number (.classified failure verdict :: announced) := by
  have rest : Orderly call number announced := orderly_announced final
  constructor
  · simp [rest.attempts, isAttempt]
  · intro earlier asked later shape
    rcases final with rfl | ⟨event, known, rfl⟩ <;> simp [List.cons_eq_append_iff] at shape
  · intro earlier kind interval later shape
    rcases final with rfl | ⟨event, known, rfl⟩ <;> simp [List.cons_eq_append_iff] at shape
  · intro earlier event later shape different
    cases earlier with
    | nil => simp at shape
    | cons first earlier => exact rest.conclusion (List.cons.inj shape).2 different

private theorem orderly_planned {failure : Option Failure} {number : Nat}
    {announced wait : List CallStep} (allowed : call.policy.config.limit.isReached number = false)
    (retry : AtMostAnnounced .retry announced) (waits : WaitSteps wait) :
    Orderly call number
      ([.classified failure true, .intervalAsked number] ++ announced ++ wait) := by
  constructor
  · rcases retry with rfl | ⟨event, known, rfl⟩ <;> cases waits <;> simp [isAttempt]
  · intro earlier asked later shape
    have whole : CallStep.classified failure true :: .intervalAsked number :: (announced ++ wait) =
        earlier ++ .intervalAsked asked :: later := by
      rw [← shape, List.append_assoc]
      rfl
    cases earlier with
    | nil => cases whole
    | cons first earlier =>
        rcases List.cons.inj whole with ⟨rfl, rest⟩
        cases earlier with
        | nil =>
            cases rest
            exact ⟨rfl, allowed, failure, rfl⟩
        | cons second earlier =>
            have among : CallStep.intervalAsked asked ∈ announced ++ wait := by
              rw [(List.cons.inj rest).2]
              simp
            rcases retry with rfl | ⟨event, known, rfl⟩ <;> cases waits <;> simp at among
  · intro earlier kind interval later shape
    rcases retry with rfl | ⟨event, known, rfl⟩ <;> cases waits <;>
      simp [List.cons_eq_append_iff] at shape ⊢ <;> grind
  · intro earlier event later shape different
    rcases retry with rfl | ⟨announced, known, rfl⟩ <;> cases waits <;>
      simp [List.cons_eq_append_iff] at shape <;> grind

private theorem orderly_ending {failure : Option Failure} {number : Nat} {steps : List CallStep}
    (ending : Ending call kind failure number steps) : Orderly call number steps := by
  cases ending with
  | unclassified => constructor <;> simp
  | rejected ignored => exact orderly_classified ignored
  | exhausted reached error => exact orderly_classified error
  | planless allowed retry => simpa using orderly_planned allowed retry .none
  | skipped interval allowed retry => exact orderly_planned allowed retry (.skipped kind interval)
  | broken interval allowed retry => exact orderly_planned allowed retry (.broken kind interval)

private theorem orderly_lastAttempt {counted : Nat} {steps : List CallStep}
    (last : LastAttempt call kind counted steps) : Orderly call (counted + 1) steps := by
  cases last with
  | unreported => constructor <;> simp
  | succeeded success => exact orderly_announced success
  | failed ending => exact orderly_ending ending

theorem Retried.shape {failure : Option Failure} {number : Nat} {before after : World σ}
    {steps : List CallStep}
    (retried : Retried environment call kind failure number before steps after) :
    ∃ interval announced, AtMostAnnounced .retry announced ∧
      call.policy.config.limit.isReached number = false ∧
      steps = [.classified failure true, .intervalAsked number] ++ announced ++
        [.waitBegun kind interval, .waitOver kind interval] := by
  cases retried with
  | intro asked allowed computes written announces uncancelled passes =>
      rename_i interval _ computed _ _ _ _
      refine ⟨interval, _, ?_, allowed, rfl⟩
      exact atMostAnnounced_announcement computed (call.event (.retry interval) number failure) rfl

/-- A full round begins with its only attempt, announces nothing but the wait and ends
with the end of the wait. -/
theorem Round.shape {number : Nat} {before after : World σ} {steps : List CallStep}
    (round : Round environment call kind operation arguments number before steps after) :
    ∃ rest, steps = .attempted arguments :: rest ∧ Orderly call number rest ∧
      call.policy.config.limit.isReached number = false ∧
      (∀ {earlier event later}, rest = earlier ++ .announced event :: later →
        event.kind? = some .retry) ∧
      ∀ {earlier kind interval later}, rest = earlier ++ .waitBegun kind interval :: later →
        later = [.waitOver kind interval] := by
  cases round with
  | intro raises ordinary retried =>
      rcases retried.shape with ⟨interval, announced, retry, allowed, rfl⟩
      refine ⟨_, rfl, orderly_planned allowed retry (.elapsed kind interval), allowed, ?_, ?_⟩
      · intro earlier event later shape
        rcases retry with rfl | ⟨announced, known, rfl⟩ <;>
          simp [List.cons_eq_append_iff] at shape
        rcases shape with ⟨_, rfl, _, rfl, rfl, rfl, -⟩
        exact known
      · intro earlier kind interval later shape
        rcases retry with rfl | ⟨announced, known, rfl⟩ <;>
          simp [List.cons_eq_append_iff] at shape <;> grind

/-! ## The discipline -/

/-- How the steps of a call follow one another, when a number of failures is counted
before the first of them. -/
structure Disciplined (environment : Environment σ) (call : Call) (kind : WaitKind)
    (operation : Arguments → Behaviour σ α) (arguments : Arguments) (counted : Nat)
    (before : World σ) (steps : List CallStep) : Prop where
  /-- Everything before an attempt is a sequence of full rounds, one for each earlier
  attempt. -/
  attempts : ∀ {earlier given later}, steps = earlier ++ .attempted given :: later →
    given = arguments ∧ ∃ world,
      Rounds environment call kind operation arguments counted before earlier
        (counted + attemptsIn earlier) world
  /-- An interval is asked for right after the failure of an attempt was found worth
  another one, with the number of that attempt, and never when the limit is reached. -/
  intervals : ∀ {earlier asked later}, steps = earlier ++ .intervalAsked asked :: later →
    asked = counted + attemptsIn earlier ∧ call.policy.config.limit.isReached asked = false ∧
      ∃ first failure, earlier = first ++ [.attempted arguments, .classified failure true]
  /-- Nothing happens between the beginning of a wait and its end. -/
  waits : ∀ {earlier kind interval later}, steps = earlier ++ .waitBegun kind interval :: later →
    later = [] ∨ ∃ rest, later = .waitOver kind interval :: rest
  /-- Nothing follows the announcement of the end. -/
  conclusion : ∀ {earlier event later}, steps = earlier ++ .announced event :: later →
    event.kind? ≠ some .retry → later = []
  limited : ∀ {maximum positive}, call.policy.config.limit = .atMost maximum positive →
    counted < maximum → counted + attemptsIn steps ≤ maximum

theorem disciplined_nil (counted : Nat) (world : World σ) :
    Disciplined environment call kind operation arguments counted world [] := by
  constructor <;> simp
  intro maximum _ _ below
  exact Nat.le_of_lt below

theorem disciplined_attempt {counted : Nat} (before : World σ) {steps : List CallStep}
    (orderly : Orderly call (counted + 1) steps) :
    Disciplined environment call kind operation arguments counted before
      (.attempted arguments :: steps) := by
  constructor
  · intro earlier given later shape
    cases earlier with
    | nil =>
        cases shape
        exact ⟨rfl, before, .none counted before⟩
    | cons first earlier =>
        have among := orderly.attempts
        rw [(List.cons.inj shape).2] at among
        simp [isAttempt] at among
  · intro earlier asked later shape
    cases earlier with
    | nil => cases shape
    | cons first earlier =>
        rcases List.cons.inj shape with ⟨rfl, within⟩
        rcases orderly.intervals within with ⟨rfl, allowed, failure, rfl⟩
        exact ⟨by simp [isAttempt], allowed, [], failure, rfl⟩
  · intro earlier kind interval later shape
    cases earlier with
    | nil => cases shape
    | cons first earlier =>
        rcases orderly.waits (List.cons.inj shape).2 with none | elapsed
        · exact .inl none
        · exact .inr ⟨[], elapsed⟩
  · intro earlier event later shape different
    cases earlier with
    | nil => cases shape
    | cons first earlier => exact orderly.conclusion (List.cons.inj shape).2 different
  · intro maximum _ _ below
    simp only [attemptsIn_cons, orderly.attempts, isAttempt, if_true]
    omega

theorem disciplined_again {counted : Nat} {before next : World σ} {steps later : List CallStep}
    (round : Round environment call kind operation arguments (counted + 1) before steps next)
    (rest : Disciplined environment call kind operation arguments (counted + 1) next later) :
    Disciplined environment call kind operation arguments counted before (steps ++ later) := by
  rcases round.shape with ⟨following, equal, orderly, allowed, retry, waits⟩
  have once : attemptsIn steps = 1 := by
    rw [equal, attemptsIn_cons, orderly.attempts]
    rfl
  have alone : Disciplined environment call kind operation arguments counted before steps := by
    rw [equal]
    exact disciplined_attempt before orderly
  constructor
  · intro earlier given final shape
    rcases split_append shape with ⟨middle, within, -⟩ | ⟨between, rfl, beyond⟩
    · exact alone.attempts within
    · rcases rest.attempts beyond with ⟨same, world, rounds⟩
      refine ⟨same, world, ?_⟩
      rw [attemptsIn_append, once, ← Nat.add_assoc]
      exact .more round rounds
  · intro earlier asked final shape
    rcases split_append shape with ⟨middle, within, -⟩ | ⟨between, rfl, beyond⟩
    · exact alone.intervals within
    · rcases rest.intervals beyond with ⟨rfl, below, first, failure, rfl⟩
      refine ⟨?_, below, steps ++ first, failure, (List.append_assoc _ _ _).symm⟩
      rw [attemptsIn_append steps, once, Nat.add_assoc]
  · intro earlier kind interval final shape
    rcases split_append shape with ⟨middle, within, rfl⟩ | ⟨between, rfl, beyond⟩
    · cases earlier with
      | nil => cases equal.symm.trans within
      | cons first earlier =>
          have elapsed := waits (List.cons.inj (equal.symm.trans within)).2
          exact .inr ⟨later, by rw [elapsed]; rfl⟩
    · exact rest.waits beyond
  · intro earlier event final shape different
    rcases split_append shape with ⟨middle, within, -⟩ | ⟨between, rfl, beyond⟩
    · cases earlier with
      | nil => cases equal.symm.trans within
      | cons first earlier =>
          exact absurd (retry (List.cons.inj (equal.symm.trans within)).2) different
    · exact rest.conclusion beyond different
  · intro maximum positive limit below
    simp only [limit, AttemptLimit.isReached, decide_eq_false_iff_not] at allowed
    have within := rest.limited limit (by omega)
    rw [attemptsIn_append, once]
    omega

theorem disciplined_of_course {counted : Nat} {before : World σ} {steps : List CallStep}
    (course : Course environment call kind operation arguments counted before steps) :
    Disciplined environment call kind operation arguments counted before steps := by
  induction course with
  | paused counted world => exact disciplined_nil counted world
  | last attempt => exact disciplined_attempt _ (orderly_lastAttempt attempt)
  | again round rest induction => exact disciplined_again round induction

/-! ## Runs -/

/-- With a limit, a budget that covers the attempts left is never used up. -/
theorem attemptWithin_ne_none {maximum budget : Nat} {positive : 0 < maximum}
    (limit : call.policy.config.limit = .atMost maximum positive) {before : World σ}
    (below : before.attemptsOf call < maximum) (enough : maximum ≤ before.attemptsOf call + budget)
    (after : World σ) :
    environment.attemptWithin call kind operation arguments budget before ≠ .ok none after := by
  induction budget generalizing before with
  | zero => omega
  | succ budget induction =>
      rw [attemptWithin_succ]
      cases runs : environment.run (operation arguments)
          (before.note call (.attempted arguments)) with
      | ok value answered =>
          dsimp only
          cases environment.onSuccess call answered <;> simp
      | error failure failed =>
          dsimp only
          split
          · next ordinary =>
              cases reports : environment.onFailure call kind (some failure) failed with
              | error raised stopped => simp
              | ok _ next =>
                  rcases round_of_onFailure runs ordinary reports with ⟨steps, round⟩
                  rcases round.shape with ⟨_, _, _, allowed, -⟩
                  have counted := round.attemptsOf
                  simp only [limit, AttemptLimit.isReached, decide_eq_false_iff_not] at allowed
                  apply induction
                  · omega
                  · omega
          · simp

private theorem countP_le_one {property : CallStep → Bool} {steps : List CallStep}
    (final : ∀ {earlier step later}, steps = earlier ++ step :: later → property step = true →
      later = []) :
    steps.countP property ≤ 1 := by
  induction steps with
  | nil => simp
  | cons step steps induction =>
      have within : steps.countP property ≤ 1 := by
        apply induction
        intro earlier other later shape holds
        exact final (by rw [shape]; exact (List.cons_append ..).symm) holds
      by_cases holds : property step = true
      · rw [final (List.nil_append _).symm holds]
        simp [holds]
      · rw [List.countP_cons_of_neg holds]
        exact within

/-- However the caller's code behaves, the steps of a run are disciplined, the end is
announced at most once, and a run with a limit needs no more attempts than that. -/
theorem runUnder_disciplined (environment : Environment σ) (policy : Policy) (asynchronous : Bool)
    (operation : Arguments → Behaviour σ α) (arguments : Arguments) (budget : Nat)
    (world : World σ) :
    ∃ steps,
      ((environment.runUnder policy asynchronous operation arguments budget).after world).stepsOf
        world.calls = world.stepsOf world.calls ++ steps ∧
      Disciplined environment (world.nextCall policy) (policy.waitKind asynchronous) operation
        arguments 0 world.opening steps ∧
      steps.countP isConclusion ≤ 1 ∧
      ∀ {maximum positive}, policy.config.limit = .atMost maximum positive → maximum ≤ budget →
        ∀ after, environment.runUnder policy asynchronous operation arguments budget world ≠
          .ok none after := by
  have fresh : world.opening.attemptsOf (world.nextCall policy) = 0 := by
    simp [attemptsOf, nextCall, Progress.fresh]
  rcases course_attemptWithin environment (world.nextCall policy) (policy.waitKind asynchronous)
    operation arguments budget world.opening with ⟨steps, course, added⟩
  rw [fresh] at course
  have disciplined := disciplined_of_course course
  rcases environment.after_runUnder policy asynchronous operation arguments budget world with
    ⟨failures, after, attempts, runs⟩
  rw [attempts] at added
  refine ⟨steps, by rw [runs]; exact added, disciplined, ?_, ?_⟩
  · apply countP_le_one
    intro earlier step later shape conclusion
    cases step with
    | announced event =>
        exact disciplined.conclusion shape (by simpa [isConclusion] using conclusion)
    | _ => cases conclusion
  · intro maximum positive limit enough after
    rw [runUnder_apply, ne_eq, WaitKind.enclose_ok_iff]
    have limited : (world.nextCall policy).policy.config.limit = .atMost maximum positive := limit
    apply attemptWithin_ne_none limited
    · rw [fresh]
      exact positive
    · rw [fresh]
      omega

end Environment

end Reattempt
