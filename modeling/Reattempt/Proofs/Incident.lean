import Reattempt.Proofs.Consistency

/-! Interrupted waits and the causes they leave behind. A cause is attached to a failure
object whenever a wait is interrupted after it, and it stays there, so what is attached now
depends on everything that happened before, to any call. -/

namespace Reattempt

variable {σ : Type}

/-- The interruption of a wait that a failure led to. -/
structure Incident where
  failure : Failure
  /-- What interrupted the wait from outside. There is nothing if the call was cancelled. -/
  cause? : Option Failure
  /-- The causes that were attached until then. -/
  links : CauseLinks

def WaitEnding.incident? (failure : Failure) (links : CauseLinks) :
    WaitEnding → Option Incident
  | .skipped | .noticed => some { failure, cause? := none, links }
  | .interrupted cause => some { failure, cause? := some cause, links }
  | .escaped _ | .unworded _ _ | .elapsed => none

namespace Exit

def incident? (failure : Failure) (links : CauseLinks) : Exit → Option Incident
  | .waited _ ending => ending.incident? failure links
  | _ => none

variable {exit : Exit} {failure : Failure} {links : CauseLinks} {incident : Incident}

theorem isSome_incident? (exit : Exit) (failure : Failure) (links : CauseLinks) :
    (exit.incident? failure links).isSome = exit.isInterrupted := by
  cases exit with
  | waited interval ending => cases ending <;> rfl
  | _ => rfl

theorem eq_of_incident? (met : exit.incident? failure links = some incident) :
    incident.failure = failure ∧ incident.links = links := by
  cases exit with
  | waited interval ending => cases ending <;> cases met <;> exact ⟨rfl, rfl⟩
  | _ => cases met

end Exit

/-! ## What an incident attaches -/

/-- Between the two worlds the incident attaches its causes: this interruption to the failure
and, if the interruption was made for it, what interrupted the wait to the interruption. -/
inductive Incident.Attaches (incident : Incident) (policyName : String) (attempts : Nat)
    (before after : World σ) : Failure → Prop
  /-- What interrupted the wait says itself that it did. -/
  | native {cause : Failure} (raised : incident.cause? = some cause)
      (native : cause.isA .waitInterrupted = true)
      (links : after.links =
        before.links.extend (some { failure := incident.failure, interruption := cause })) :
      incident.Attaches policyName attempts before after cause
  | anew {number : Nat}
      (foreign : ∀ cause, incident.cause? = some cause → cause.isA .waitInterrupted = false)
      (new : before.failures ≤ number) (made : number < after.failures)
      (links : after.links = before.links.extend (some
        { failure := incident.failure
          interruption := .interruption (.made number) policyName attempts
          origin? := incident.cause? })) :
      incident.Attaches policyName attempts before after
        (.interruption (.made number) policyName attempts)

namespace Incident.Attaches

variable {incident : Incident} {policyName : String} {attempts : Nat}
  {before middle after : World σ} {interruption : Failure}

theorem of_same (attaches : incident.Attaches policyName attempts middle after interruption)
    (links : middle.links = before.links) (failures : before.failures ≤ middle.failures) :
    incident.Attaches policyName attempts before after interruption := by
  cases attaches with
  | native raised native attached => exact .native raised native (by rw [attached, links])
  | anew foreign new made attached =>
      exact .anew foreign (Nat.le_trans failures new) made (by rw [attached, links])

end Incident.Attaches

namespace Environment

open World Reattempt.Action

variable {environment : Environment σ} {call : Call} {kind : WaitKind} {failure : Failure}

structure Attaching (call : Call) (attempts : Nat) (incident? : Option Incident)
    (before after : World σ) : Prop where
  failures : before.failures ≤ after.failures
  undisturbed : incident? = none → after.links = before.links
  disturbed : ∀ {incident}, incident? = some incident →
    ∃ interruption, incident.Attaches call.policy.name attempts before after interruption

namespace Attaching

variable {attempts : Nat} {incident? : Option Incident} {before middle after : World σ}

theorem of_links (failures : before.failures ≤ after.failures)
    (links : after.links = before.links) : Attaching call attempts none before after :=
  ⟨failures, fun _ => links, nofun⟩

theorem of_attaches {incident : Incident} {interruption : Failure}
    (failures : before.failures ≤ after.failures)
    (attaches : incident.Attaches call.policy.name attempts before after interruption) :
    Attaching call attempts (some incident) before after := by
  constructor
  · exact failures
  · exact nofun
  · intro other met
    cases met
    exact ⟨interruption, attaches⟩

theorem of_same (attaching : Attaching call attempts incident? middle after)
    (links : middle.links = before.links) (failures : before.failures ≤ middle.failures) :
    Attaching call attempts incident? before after where
  failures := Nat.le_trans failures attaching.failures
  undisturbed none := (attaching.undisturbed none).trans links
  disturbed met := by
    rcases attaching.disturbed met with ⟨interruption, attaches⟩
    exact ⟨interruption, attaches.of_same links failures⟩

theorem interrupting (call : Call) (failure : Failure) {cause? : Option Failure}
    (foreign : ∀ cause, cause? = some cause → cause.isA .waitInterrupted = false)
    (world : World σ) (entry : LogEntry) (links : CauseLinks) :
    Attaching call (world.attemptsOf call) (some { failure, cause?, links }) world
      (world.interrupting call entry (world.failures + 1) (world.links.extend (some
        { failure, interruption := world.interruption call, origin? := cause? }))) :=
  of_attaches (Nat.le_succ _) (.anew foreign (Nat.le_refl _) (Nat.lt_succ_self _) rfl)

theorem of_relinking (attaching : Attaching call attempts incident? before after) {failures : Nat}
    (more : after.failures ≤ failures) :
    Attaching call attempts incident? before (after.relinking failures after.links) where
  failures := Nat.le_trans attaching.failures more
  undisturbed := attaching.undisturbed
  disturbed met := by
    rcases attaching.disturbed met with ⟨interruption, attaches⟩
    refine ⟨interruption, ?_⟩
    cases attaches with
    | native raised native links => exact .native raised native links
    | anew foreign new made links => exact .anew foreign new (Nat.lt_of_lt_of_le made more) links

end Attaching

theorem Interrupted.attaching_of_cancelled {begun : Bool} {called ending : WaitEnding}
    {world : World σ} {result : EStateM.Result Failure (World σ) Unit} (links : CauseLinks)
    (ends : Interrupted call failure none begun called world ending result)
    (chain : ∀ interruption, called.chain? failure interruption = some { failure, interruption })
    (incident : called.incident? failure links = some { failure, cause? := none, links }) :
    Attaching call (world.attemptsOf call) (ending.incident? failure links) world
      (lastWorld result) := by
  cases ends with
  | unworded refused new => exact .of_links (Nat.le_succ_of_le new) rfl
  | raised worded =>
      rw [incident, chain]
      have uncaused : ∀ cause, (none : Option Failure) = some cause →
          cause.isA .waitInterrupted = false := by
        intro cause absent
        cases absent
      exact .interrupting call failure uncaused world _ links

theorem Interrupted.attaching_of_cause {cause : Failure} {ending : WaitEnding} {world : World σ}
    {result : EStateM.Result Failure (World σ) Unit} (links : CauseLinks)
    (ends : Interrupted call failure (some cause) true (.interrupted cause) world ending result) :
    Attaching call (world.attemptsOf call) (ending.incident? failure links) world
      (lastWorld result) := by
  cases ends with
  | unworded refused new => exact .of_links (Nat.le_succ_of_le new) rfl
  | raised worded =>
      cases native : cause.isA .waitInterrupted with
      | true =>
          simp only [lastWorld, WaitEnding.chain?, failuresAfter, native, Option.any_some, if_true]
          exact .of_attaches (Nat.le_refl _) (.native rfl native rfl)
      | false =>
          simp only [lastWorld, WaitEnding.chain?, failuresAfter, native, Option.any_some,
            Bool.false_eq_true, if_false]
          refine .interrupting call failure ?_ world _ links
          rintro _ ⟨⟩
          exact native

theorem Waits.attaching {interval : Scalar} {before : World σ} {ending : WaitEnding}
    {result : EStateM.Result Failure (World σ) Unit}
    (waits : Waits environment call kind failure interval before ending result)
    (links : CauseLinks) :
    Attaching call (before.attemptsOf call) (ending.incident? failure links) before
      (lastWorld result) := by
  have outside := environment.outside_passTime call kind interval
  cases waits with
  | skipped cancelled ends =>
      have attaching := ends.attaching_of_cancelled links (fun _ => rfl) rfl
      exact attaching.of_same rfl (Nat.le_refl _)
  | interrupted uncancelled passes interrupts ends =>
      have outside := outside.of_error passes
      rw [← outside.attempts_slept]
      exact (ends.attaching_of_cause links).of_same outside.links_slept outside.failures_slept
  | escaped uncancelled passes escapes =>
      have outside := outside.of_error passes
      apply Attaching.of_links
      · rw [lastWorld, failures_leaving]
        exact outside.failures_slept
      · rw [lastWorld, links_leaving, outside.links_slept]
  | noticed uncancelled passes ends =>
      have outside := outside.of_ok passes
      have attaching := ends.attaching_of_cancelled links (fun _ => rfl) rfl
      rw [← outside.attempts_slept]
      exact attaching.of_same outside.links_slept outside.failures_slept
  | elapsed uncancelled passes =>
      have outside := outside.of_ok passes
      exact .of_links outside.failures_slept outside.links_slept

/-- A failure is classified, and then something is announced. No cause is attached. -/
theorem links_of_announces {eventKind : EventKind} {verdict : Bool}
    {before judged asking after : World σ}
    (asked : environment.isRetryable call.policy.config (some failure) before =
      .ok verdict judged)
    (announces : Announces call eventKind asking after)
    (links : asking.links = judged.links) (failures : asking.failures = judged.failures) :
    after.links = before.links ∧ before.failures ≤ after.failures := by
  have outside := outside_of_isRetryable asked
  constructor
  · rw [announces.links, links, outside.links]
  · calc before.failures
      _ ≤ judged.failures := outside.failures
      _ = asking.failures := failures.symm
      _ ≤ after.failures := announces.failures

theorem Exits.attaching {before : World σ} {exit : Exit}
    {result : EStateM.Result Failure (World σ) Unit}
    (exits : Exits environment call kind failure before exit result) :
    Attaching call (before.attemptsOf call + 1) (exit.incident? failure before.links) before
      (lastWorld result) := by
  cases exits with
  | unclassified asked =>
      have outside := (environment.keeps_isRetryable _ _).of_error asked
      exact .of_links outside.failures outside.links
  | rejected asked concludes =>
      have announced := announces_of_conclude .ignoredError rfl concludes
      rcases links_of_announces asked announced rfl rfl with ⟨links, failures⟩
      exact .of_links failures links
  | exhausted asked reached concludes =>
      have announced := announces_of_conclude .error rfl concludes
      rcases links_of_announces asked announced rfl rfl with ⟨links, failures⟩
      exact .of_links failures links
  | unplanned asked allowed planning =>
      have announced := announces_of_planning planning
      rcases links_of_announces asked announced rfl rfl with ⟨links, failures⟩
      exact .of_links failures links
  | waited asked allowed planning records waits =>
      rename_i judged planned interval ending
      have announced := announces_of_planning planning
      rcases links_of_announces asked announced rfl rfl with ⟨links, failures⟩
      rw [lastWorld] at links failures
      have attempts : planned.attemptsOf call = before.attemptsOf call + 1 := by
        rw [attemptsOf_of_planning planning,
          attemptsOf_eq_of_outside (outside_of_isRetryable asked)]
      rw [← attempts]
      exact (waits.attaching before.links).of_same links failures

theorem Exits.attaching_onFailure {before : World σ} {exit : Exit}
    (exits : Exits environment call kind failure before exit
      (environment.recordAndWait call kind (some failure) before)) :
    Attaching call (before.attemptsOf call + 1) (exit.incident? failure before.links) before
      ((environment.onFailure call kind (some failure)).after before) := by
  rcases kind.after_enclose (environment.recordAndWait call kind (some failure)) before with
    ⟨failures, more, enclosed⟩
  rw [onFailure_eq, enclosed]
  exact exits.attaching.of_relinking more

end Environment

end Reattempt
