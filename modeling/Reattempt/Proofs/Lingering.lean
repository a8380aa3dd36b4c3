import Reattempt.Proofs.Past

/-! Interruptions that linger. A cause stays on the failure object it was attached to, so an
object that is reported again still shows the interruption of an earlier wait. Whether a
raised failure shows one tells exactly that the wait after this failure object was
interrupted once, now or earlier. -/

namespace Reattempt

variable {σ : Type}

/-- The cause of the failure says that a wait was interrupted. -/
def CauseLinks.ShowInterruption (links : CauseLinks) (failure : Failure) : Prop :=
  ∃ cause, links.causeOf failure = some cause ∧ cause.isA .waitInterrupted = true

namespace World

open Environment

variable {origin world : World σ} {incidents : List Incident}

/-- An interruption is attached to an object if and only if there was an incident with it. -/
theorem Becomes.exists_interruption_iff (past : origin.Becomes incidents world)
    (unattached : origin.links = .empty) (identity : Identity) :
    (∃ cause, world.links.find? identity = some cause ∧ cause.isA .waitInterrupted = true) ↔
      ∃ incident ∈ incidents, incident.failure.identity = identity := by
  have founded : origin.Founded := by
    intro number _
    rw [unattached]
    rfl
  induction past with
  | origin => simp [unattached]
  | meanwhile past idles shown =>
      rw [idles.links]
      exact shown
  | performed past encounters shown =>
      rename_i earlier before environment call operation incident?
      have attaching := encounters.attaching
      cases incident? with
      | none =>
          rw [attaching.undisturbed rfl, Option.toList_none, List.append_nil]
          exact shown
      | some incident =>
          rcases attaching.disturbed rfl with ⟨interruption, attaches⟩
          have either : (∃ other ∈ earlier ++ [incident], other.failure.identity = identity) ↔
              (∃ other ∈ earlier, other.failure.identity = identity) ∨
                incident.failure.identity = identity := by
            simp [or_and_right, exists_or]
          refine Iff.trans ?_ either.symm
          by_cases same : incident.failure.identity = identity
          · subst same
            simp [attaches.find?_failure, attaches.isA_interruption]
          · simp only [same, or_false]
            rcases attaches.find?_of_ne (Ne.symm same) with kept | ⟨-, unknown, -, found, foreign⟩
            · rw [kept]
              exact shown
            · -- The interruption itself got a cause, but what interrupted it was none.
              rw [found, (past.founded founded).find?_eq_none unknown, Option.or_none]
              constructor
              · rintro ⟨cause, interrupts, isInterruption⟩
                rw [foreign cause interrupts] at isInterruption
                cases isInterruption
              · rintro ⟨other, member, rfl⟩
                exact absurd (past.known member) unknown

end World

namespace Environment

open World

/-- A raised failure shows an interruption if and only if the wait of this very report was
interrupted or an earlier wait was interrupted after the same failure object. -/
theorem showInterruption_iff {environment : Environment σ} {origin before after : World σ}
    {incidents : List Incident} {call : Call} {kind : WaitKind} {failure raised : Failure}
    (unattached : origin.links = .empty) (past : origin.Becomes incidents before)
    (known : before.Knows failure.identity)
    (reports : environment.onFailure call kind (some failure) before = .error raised after)
    (causeless : raised.cause = none) :
    ∃ exit, Exits environment call kind failure before exit (.error raised after) ∧
      (after.links.ShowInterruption raised ↔ exit.isInterrupted = true ∨
        ∃ incident ∈ incidents, incident.failure.identity = raised.identity) := by
  rcases exists_exits environment call kind failure before with ⟨exit, exits⟩
  have later := past.performed (.failure known exits)
  have reported : (environment.perform call (.failure kind failure)).after before = after :=
    Action.after_eq_of_error reports
  have shown := later.exists_interruption_iff unattached raised.identity
  rw [reported] at shown
  have records : environment.recordAndWait call kind (some failure) before =
      .error raised after := by
    rw [onFailure_eq] at reports
    rcases WaitKind.error_of_enclose reports with ⟨records, -⟩ | ⟨held, stopped, -, -, rfl, -⟩
    · exact records
    · cases causeless
  refine ⟨exit, records ▸ exits, ?_⟩
  rw [CauseLinks.ShowInterruption, CauseLinks.causeOf_of_causeless _ causeless, shown,
    ← exit.isSome_incident? failure before.links]
  cases met : exit.incident? failure before.links with
  | none => simp
  | some incident =>
      have interrupted : exit.isInterrupted = true := by
        rw [← exit.isSome_incident? failure before.links, met]
        rfl
      have ends := exits.ends
      rw [records, Exit.outcome_of_isInterrupted interrupted] at ends
      cases ends
      simp [(Exit.eq_of_incident? met).1]

/-! ## A failure that is reported twice -/

namespace Impatient

def pair : Call :=
  { call with policy :=
    { call.policy with shared :=
      { number := 0
        config := { Config.default with limit := .atMost 2 (by decide) } } } }

end Impatient

/-- The wait of a cancelled call is interrupted, and the failure shows it. -/
theorem showInterruption_iff_cancelled :
    let world : World Unit := { memory := () }
    let cancelled := (Impatient.environment.perform Impatient.pair .cancel).after world
    ∃ exit after,
      Exits Impatient.environment Impatient.pair .blocking Impatient.unreachable cancelled exit
        (.error Impatient.unreachable after) ∧
      exit.isInterrupted = true ∧ after.links.ShowInterruption Impatient.unreachable := by
  intro world cancelled
  have past : world.Becomes [] cancelled := .performed .origin .cancel
  have reports : Impatient.environment.onFailure Impatient.pair .blocking
      (some Impatient.unreachable) cancelled = .error Impatient.unreachable _ := rfl
  rcases showInterruption_iff rfl past (knows_given cancelled 0) reports rfl with
    ⟨exit, exits, shows⟩
  have marked : exit.marks = true := exits.interrupted_eq.symm
  have interrupted : exit.isInterrupted = true :=
    exits.isInterrupted_of_marks marked fun _ made => Identity.noConfusion made
  exact ⟨exit, _, exits, interrupted, shows.mpr (.inl interrupted)⟩

/-- The second report of a failure object ends because the attempts are used up. It shows
the interruption of the first wait all the same. -/
theorem showInterruption_lingers :
    let world : World Unit := { memory := () }
    let report := Impatient.environment.perform Impatient.pair
      (.failure .blocking Impatient.unreachable)
    world.links = .empty ∧ Impatient.unreachable.cause = none ∧
      ∃ interrupted after,
        report world = .error Impatient.unreachable interrupted ∧
        report interrupted = .error Impatient.unreachable after ∧
        (after.progressOf 0).phase = .exhausted ∧
        after.links.ShowInterruption Impatient.unreachable := by
  intro world report
  refine ⟨rfl, rfl, _, _, rfl, rfl, rfl, ?_⟩
  exact ⟨_, rfl, rfl⟩

end Environment

end Reattempt
