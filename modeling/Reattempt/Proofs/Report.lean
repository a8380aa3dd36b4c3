import Reattempt.Proofs.Ending
import Reattempt.Proofs.Exit

/-! The report of a failure, from one exit to another. Whatever the caller's code does,
the report takes one of the exits, and then the world is what the exit says. -/

namespace Reattempt

variable {σ α : Type}

namespace WaitEnding

private theorem isAct_of_mem_acts {ending : WaitEnding} {kind : WaitKind} {interval : Scalar}
    {step : CallStep} (member : step ∈ ending.acts kind interval) : step.isAct = true := by
  cases ending with
  | elapsed =>
      simp only [acts, List.mem_cons, List.not_mem_nil, or_false] at member
      rcases member with rfl | rfl <;> rfl
  | unworded begun raised =>
      cases begun <;> cases List.mem_singleton.mp member <;> rfl
  | _ =>
      cases List.mem_singleton.mp member
      rfl

private theorem filter_acts (ending : WaitEnding) (kind : WaitKind) (interval : Scalar) :
    (ending.acts kind interval).filter CallStep.isAct = ending.acts kind interval := by
  rw [List.filter_eq_self]
  intro step member
  exact isAct_of_mem_acts member

end WaitEnding

namespace Environment

open World Reattempt.Action

variable {environment : Environment σ} {call : Call}

namespace AtMostAnnounced

variable {kind : EventKind} {steps : List CallStep} (announced : AtMostAnnounced kind steps)

include announced

theorem filter_isAct : steps.filter CallStep.isAct = [] := by
  rcases announced with rfl | ⟨event, -, rfl⟩ <;> rfl

theorem kind_of_mem {event : Event} (member : .announced event ∈ steps) :
    event.kind? = some kind := by
  rcases announced with rfl | ⟨other, known, rfl⟩
  · cases member
  · simp only [List.mem_singleton, CallStep.announced.injEq] at member
    rw [member]
    exact known

end AtMostAnnounced

/-! ## Announcing -/

structure Announces (call : Call) (kind : EventKind) (before after : World σ) : Prop where
  leads : ∃ announced, Leads call id announced before after ∧ AtMostAnnounced kind announced
  progress : ∃ cancelled,
    after.progressOf call.number = (before.progressOf call.number).heed cancelled
  links : after.links = before.links
  failures : before.failures ≤ after.failures

theorem announces_of_outside {kind : EventKind} {event : Event} (known : event.kind? = some kind)
    {before after : World σ} (outside : (before.announcing call event).Outside after) :
    Announces call kind before after where
  leads :=
    ⟨_, (Leads.announcing event).trans_outside outside, atMostAnnounced_announcement _ _ known⟩
  progress := by
    rcases outside.heeds call.number with ⟨cancelled, equal⟩
    exact ⟨cancelled, by rw [equal, progressOf_announcing]⟩
  links := by
    rw [outside.links, announcing]
    split <;> rfl
  failures := by
    have same : (before.announcing call event).failures = before.failures := by
      rw [announcing]
      split <;> rfl
    rw [← same]
    exact outside.failures

theorem Announces.after_logged {kind : EventKind} {entry : LogEntry} {before after : World σ}
    (announces : Announces call kind (before.observe (.logged entry)) after) :
    Announces call kind before after where
  leads := by
    rcases announces.leads with ⟨announced, leads, once⟩
    exact ⟨announced, (Leads.logged entry).trans leads, once⟩
  progress := announces.progress
  links := announces.links
  failures := announces.failures

theorem announces_of_announce {detail : EventDetail} (kind : EventKind)
    (known : detail.kind? = some kind) {attempts : Nat} {failure : Option Failure}
    {before after : World σ}
    (announces : (environment.announce call detail attempts failure).after before = after) :
    Announces call kind before after := by
  subst announces
  have event : (call.event detail attempts failure).kind? = some kind := known
  exact announces_of_outside event
    (environment.outside_announce call detail attempts failure before)

theorem announces_of_conclude {detail : EventDetail} (kind : EventKind)
    (known : detail.kind? = some kind) {attempts : Nat} {failure : Option Failure}
    {wording : Wording} {entry : String → LogEntry} {before after : World σ} {raised : Failure}
    (concludes : environment.conclude (α := α) call detail attempts failure wording entry before =
      .error raised after) : Announces call kind before after := by
  have concluding := environment.concluding_conclude (α := α) call detail attempts failure wording
    entry before
  rw [concludes] at concluding
  cases concluding with
  | unwritten refusal =>
      have made : before.Outside (before.relinking (before.failures + 1) before.links) :=
        Outside.newIdentity before
      exact ⟨⟨[], Leads.outside made, .inl rfl⟩, made.heeds call.number, made.links, made.failures⟩
  | announced outside =>
      have event : (call.event detail attempts failure).kind? = some kind := known
      exact (announces_of_outside event outside).after_logged

theorem announces_of_planning {attempts : Nat} {failure : Option Failure} {asking : World σ}
    {result : EStateM.Result Failure (World σ) Scalar}
    (planning : Planning environment call attempts failure asking result) :
    Announces call .retry asking (lastWorld result) := by
  have computed {after : World σ} (outside : asking.Outside after) :
      Announces call .retry asking after :=
    { leads := ⟨[], Leads.outside outside, .inl rfl⟩
      progress := outside.heeds call.number
      links := outside.links
      failures := outside.failures }
  have announced {interval : Scalar} {middle after : World σ} {entry : LogEntry}
      (outside : asking.Outside middle)
      (announces : (environment.announce call (.retry interval) attempts failure).after
        (middle.observe (.logged entry)) = after) : Announces call .retry asking after := by
    have last := announces_of_announce .retry rfl announces
    rcases last.leads with ⟨steps, leads, once⟩
    rcases last.progress with ⟨later, equal⟩
    rcases outside.heeds call.number with ⟨earlier, equalMiddle⟩
    refine ⟨⟨steps, (Leads.outside outside).trans ((Leads.logged entry).trans leads), once⟩, ?_,
      last.links.trans outside.links, Nat.le_trans outside.failures last.failures⟩
    exact ⟨earlier || later, by rw [equal, progressOf_observe, equalMiddle, Progress.heed_heed]⟩
  cases planning with
  | uncomputed computes => exact computed ((environment.keeps_delay _ _).of_error computes)
  | unwritten computes unwritten =>
      exact computed ((outside_of_delay computes).trans (Outside.newIdentity _))
  | unannounced computes written announces =>
      exact announced (outside_of_delay computes) (after_eq_of_error announces)
  | announced computes written announces =>
      exact announced (outside_of_delay computes) (after_eq_of_ok announces)

/-! ## Reports -/

/-- How the report of a failure ends inside the call, given the world before it. -/
inductive Exits (environment : Environment σ) (call : Call) (kind : WaitKind) (failure : Failure)
    (before : World σ) : Exit → EStateM.Result Failure (World σ) Unit → Prop
  | unclassified {raised : Failure} {after : World σ}
      (asked : environment.isRetryable call.policy.config (some failure) before =
        .error raised after) :
      Exits environment call kind failure before (.unclassified raised) (.error raised after)
  | rejected {judged after : World σ} {entry : String → LogEntry} {raised : Failure}
      (asked : environment.isRetryable call.policy.config (some failure) before =
        .ok false judged)
      (concludes : environment.conclude (α := Scalar) call .ignoredError (judged.attemptsOf call)
        (some failure) failure.text entry (judged.rejecting call (some failure)) =
          .error raised after) :
      Exits environment call kind failure before (.rejected raised) (.error raised after)
  | exhausted {judged after : World σ} {entry : String → LogEntry} {raised : Failure}
      (asked : environment.isRetryable call.policy.config (some failure) before = .ok true judged)
      (reached : call.policy.config.limit.isReached (judged.attemptsOf call + 1) = true)
      (concludes : environment.conclude (α := Scalar) call .error (judged.attemptsOf call + 1)
        (some failure) failure.shown entry (judged.exhausting call (some failure)) =
          .error raised after) :
      Exits environment call kind failure before (.exhausted raised) (.error raised after)
  | unplanned {judged after : World σ} {raised : Failure}
      (asked : environment.isRetryable call.policy.config (some failure) before = .ok true judged)
      (allowed : call.policy.config.limit.isReached (judged.attemptsOf call + 1) = false)
      (planning : Planning environment call (judged.attemptsOf call + 1) (some failure)
        ((judged.counting call (some failure)).note call
          (.intervalAsked (judged.attemptsOf call + 1))) (.error raised after)) :
      Exits environment call kind failure before (.unplanned raised) (.error raised after)
  | waited {judged planned : World σ} {interval : Scalar} {ending : WaitEnding}
      {result : EStateM.Result Failure (World σ) Unit}
      (asked : environment.isRetryable call.policy.config (some failure) before = .ok true judged)
      (allowed : call.policy.config.limit.isReached (judged.attemptsOf call + 1) = false)
      (planning : Planning environment call (judged.attemptsOf call + 1) (some failure)
        ((judged.counting call (some failure)).note call
          (.intervalAsked (judged.attemptsOf call + 1))) (.ok interval planned))
      (records : environment.recordFailure call (some failure) before = .ok interval planned)
      (waits : Waits environment call kind failure interval planned ending result) :
      Exits environment call kind failure before (.waited interval ending) result

theorem progress_of_planning {failure : Failure} {judged : World σ}
    {result : EStateM.Result Failure (World σ) Scalar}
    (planning : Planning environment call (judged.attemptsOf call + 1) (some failure)
      ((judged.counting call (some failure)).note call
        (.intervalAsked (judged.attemptsOf call + 1))) result) :
    ∃ cancelled, (lastWorld result).progressOf call.number =
      ((judged.progressOf call.number).count call.policy.config.limit (some failure)).heed
        cancelled := by
  rcases (announces_of_planning planning).progress with ⟨cancelled, equal⟩
  exact ⟨cancelled, by rw [equal, progressOf_note, progressOf_counting]⟩

section planning

variable {failure : Failure} {judged planned : World σ} {interval : Scalar}
  (planning : Planning environment call (judged.attemptsOf call + 1) (some failure)
    ((judged.counting call (some failure)).note call
      (.intervalAsked (judged.attemptsOf call + 1))) (.ok interval planned))

include planning

theorem lastFailure_of_planning : (planned.progressOf call.number).lastFailure = some failure := by
  rcases progress_of_planning planning with ⟨cancelled, equal⟩
  rw [lastWorld] at equal
  rw [equal, Progress.lastFailure_heed]
  rfl

theorem attemptsOf_of_planning : planned.attemptsOf call = judged.attemptsOf call + 1 := by
  rcases progress_of_planning planning with ⟨cancelled, equal⟩
  rw [lastWorld] at equal
  rw [attemptsOf, equal, Progress.attempts_heed, Progress.attempts_count]
  rfl

end planning

theorem lastFailure_of_recordFailure {failure : Failure} {interval : Scalar}
    {before planned : World σ}
    (records : environment.recordFailure call (some failure) before = .ok interval planned) :
    (planned.progressOf call.number).lastFailure = some failure := by
  have recording := environment.recording_recordFailure call (some failure) before
  rw [records] at recording
  cases recording with
  | planned asked allowed planning => exact lastFailure_of_planning planning

theorem recordAndWait_of_recordFailure (kind : WaitKind) {failure : Option Failure}
    {interval : Scalar} {before planned : World σ}
    (records : environment.recordFailure call failure before = .ok interval planned) :
    environment.recordAndWait call kind failure before =
      environment.waitAndResume call kind interval planned := by
  change (environment.recordFailure call failure >>= environment.waitAndResume call kind)
    before = _
  rw [bind_apply, records]

theorem exists_exits (environment : Environment σ) (call : Call) (kind : WaitKind)
    (failure : Failure) (before : World σ) :
    ∃ exit, Exits environment call kind failure before exit
      (environment.recordAndWait call kind (some failure) before) := by
  have recording := environment.recording_recordFailure call (some failure) before
  cases records : environment.recordFailure call (some failure) before with
  | error raised after =>
      have reports : environment.recordAndWait call kind (some failure) before =
          .error raised after := by
        rw [recordAndWait_apply, records]
      rw [reports]
      rw [records] at recording
      cases recording with
      | unclassified asked => exact ⟨_, .unclassified asked⟩
      | rejected asked concludes => exact ⟨_, .rejected asked concludes⟩
      | exhausted asked reached concludes => exact ⟨_, .exhausted asked reached concludes⟩
      | planned asked allowed planning => exact ⟨_, .unplanned asked allowed planning⟩
  | ok interval planned =>
      rw [recordAndWait_of_recordFailure kind records]
      rw [records] at recording
      cases recording with
      | planned asked allowed planning =>
          rcases exists_waits environment kind interval (lastFailure_of_planning planning) with
            ⟨ending, waits⟩
          exact ⟨_, .waited asked allowed planning records waits⟩

namespace Exits

variable {kind : WaitKind} {failure : Failure} {before : World σ} {exit : Exit}
  {result : EStateM.Result Failure (World σ) Unit}
  (exits : Exits environment call kind failure before exit result)

include exits

theorem ends : result = Action.ending (exit.outcome failure) (lastWorld result) := by
  cases exits with
  | waited asked allowed planning records waits => exact waits.ends
  | _ => rfl

theorem progress : ∃ cancelled, (lastWorld result).progressOf call.number =
    (exit.advance failure call.policy.config.limit kind (before.progressOf call.number)).heed
      cancelled := by
  have judgement {verdict : Bool} {judged : World σ}
      (asked : environment.isRetryable call.policy.config (some failure) before =
        .ok verdict judged) := (outside_of_isRetryable asked).heeds call.number
  cases exits with
  | unclassified asked =>
      exact ((environment.keeps_isRetryable _ _).of_error asked).heeds call.number
  | rejected asked concludes =>
      rcases judgement asked with ⟨earlier, equal⟩
      rcases (announces_of_conclude .ignoredError rfl concludes).progress with
        ⟨later, equalLater⟩
      exact ⟨earlier || later, by simp [lastWorld, equalLater, equal, Exit.advance]⟩
  | exhausted asked reached concludes =>
      rcases judgement asked with ⟨earlier, equal⟩
      rcases (announces_of_conclude .error rfl concludes).progress with
        ⟨later, equalLater⟩
      exact ⟨earlier || later, by simp [lastWorld, equalLater, equal, Exit.advance]⟩
  | unplanned asked allowed planning =>
      rcases judgement asked with ⟨earlier, equal⟩
      rcases progress_of_planning planning with ⟨later, equalLater⟩
      rw [lastWorld] at equalLater
      exact ⟨earlier || later, by simp [lastWorld, equalLater, equal, Exit.advance]⟩
  | waited asked allowed planning records waits =>
      rcases judgement asked with ⟨earlier, equal⟩
      rcases progress_of_planning planning with ⟨later, equalLater⟩
      rcases waits.progress with ⟨last, equalLast⟩
      rw [lastWorld] at equalLater
      refine ⟨earlier || later || last, ?_⟩
      rw [equalLast, equalLater, equal, Progress.heed_count, Progress.heed_heed,
        WaitEnding.advance_heed, Progress.heed_heed]
      rfl

theorem leads : ∃ steps, Leads call (·.enter exit.ledger) steps before (lastWorld result) ∧
    steps.filter CallStep.isAct = exit.acts failure kind (before.attemptsOf call + 1) ∧
    ∀ {event}, .announced event ∈ steps →
      ∃ eventKind, exit.kind? = some eventKind ∧ event.kind? = some eventKind := by
  have counted {verdict : Bool} {judged : World σ}
      (asked : environment.isRetryable call.policy.config (some failure) before =
        .ok verdict judged) : judged.attemptsOf call = before.attemptsOf call :=
    attemptsOf_eq_of_outside (outside_of_isRetryable asked) call
  have judges {verdict : Bool} {judged : World σ}
      (asked : environment.isRetryable call.policy.config (some failure) before =
        .ok verdict judged) : Leads call id [] before judged :=
    Leads.outside (outside_of_isRetryable asked)
  have asking {judged : World σ}
      (asked : environment.isRetryable call.policy.config (some failure) before =
        .ok true judged) :=
    ((judges asked).trans (Leads.counting (some failure))).trans
      (Leads.note (.intervalAsked (judged.attemptsOf call + 1)))
  cases exits with
  | unclassified asked =>
      exact ⟨[], Leads.outside ((environment.keeps_isRetryable _ _).of_error asked), rfl, nofun⟩
  | rejected asked concludes =>
      rcases (announces_of_conclude .ignoredError rfl concludes).leads with
        ⟨announced, announces, once⟩
      have judged := (judges asked).trans (Leads.rejecting (some failure))
      refine ⟨_, judged.trans announces, ?_, ?_⟩
      · simp only [List.filter_append, once.filter_isAct]
        rfl
      · intro event member
        exact ⟨_, rfl, once.kind_of_mem (by simpa using member)⟩
  | exhausted asked reached concludes =>
      rcases (announces_of_conclude .error rfl concludes).leads with
        ⟨announced, announces, once⟩
      have judged := (judges asked).trans (Leads.exhausting (some failure))
      refine ⟨_, judged.trans announces, ?_, ?_⟩
      · simp only [List.filter_append, once.filter_isAct]
        rfl
      · intro event member
        exact ⟨_, rfl, once.kind_of_mem (by simpa using member)⟩
  | unplanned asked allowed planning =>
      rcases (announces_of_planning planning).leads with ⟨announced, announces, once⟩
      refine ⟨_, (asking asked).trans announces, ?_, ?_⟩
      · simp only [List.filter_append, once.filter_isAct, counted asked]
        rfl
      · intro event member
        exact ⟨_, rfl, once.kind_of_mem (by simpa using member)⟩
  | waited asked allowed planning records waits =>
      rcases (announces_of_planning planning).leads with ⟨announced, announces, once⟩
      refine ⟨_, ((asking asked).trans announces).trans waits.leads, ?_, ?_⟩
      · simp only [List.filter_append, once.filter_isAct, counted asked, WaitEnding.filter_acts]
        rfl
      · intro event member
        rcases List.mem_append.mp member with member | member
        · exact ⟨_, rfl, once.kind_of_mem (by simpa using member)⟩
        · cases WaitEnding.isAct_of_mem_acts member

theorem links : ∃ number, (lastWorld result).links =
    before.links.extend (exit.chain? failure
      (.interruption (.made number) call.policy.name (before.attemptsOf call + 1 : Nat))) := by
  cases exits with
  | unclassified asked =>
      exact ⟨0, ((environment.keeps_isRetryable _ _).of_error asked).links⟩
  | rejected asked concludes =>
      exact ⟨0, (announces_of_conclude .ignoredError rfl concludes).links.trans
        (outside_of_isRetryable asked).links⟩
  | exhausted asked reached concludes =>
      exact ⟨0, (announces_of_conclude .error rfl concludes).links.trans
        (outside_of_isRetryable asked).links⟩
  | unplanned asked allowed planning =>
      exact ⟨0, (announces_of_planning planning).links.trans (outside_of_isRetryable asked).links⟩
  | waited asked allowed planning records waits =>
      rename_i judged planned interval ending
      rcases waits.links with ⟨number, equal⟩
      have planned : planned.links = before.links :=
        (announces_of_planning planning).links.trans (outside_of_isRetryable asked).links
      refine ⟨number, ?_⟩
      rw [equal, planned, attemptsOf_of_planning planning,
        attemptsOf_eq_of_outside (outside_of_isRetryable asked)]
      rfl

end Exits

end Environment

end Reattempt
