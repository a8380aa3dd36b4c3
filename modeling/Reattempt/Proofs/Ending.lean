import Reattempt.Proofs.Round

/-! The last attempt of a call. When the report of a failure ends with a failure, only
few steps can stand between the two, and every one of these endings is a part of what a
full round would have been or the announcement of the end. -/

namespace Reattempt

variable {σ α : Type}

namespace Environment

open World

variable {environment : Environment σ} {call : Call} {kind : WaitKind}

def AtMostAnnounced (kind : EventKind) (steps : List CallStep) : Prop :=
  steps = [] ∨ ∃ event : Event, event.kind? = some kind ∧ steps = [.announced event]

theorem atMostAnnounced_announcement (world : World σ) (event : Event) {eventKind : EventKind}
    (known : event.kind? = some eventKind) :
    AtMostAnnounced eventKind (world.announcement call event) := by
  rw [announcement]
  split
  · exact .inr ⟨event, known, rfl⟩
  · exact .inl rfl

inductive Ending (call : Call) (kind : WaitKind) (failure : Option Failure) (number : Nat) :
    List CallStep → Prop
  | unclassified : Ending call kind failure number []
  | rejected {announced : List CallStep} (ignored : AtMostAnnounced .ignoredError announced) :
      Ending call kind failure number (.classified failure false :: announced)
  | exhausted {announced : List CallStep}
      (reached : call.policy.config.limit.isReached number = true)
      (error : AtMostAnnounced .error announced) :
      Ending call kind failure number (.classified failure true :: announced)
  /-- The interval is not computed, or the call ends while it is announced. -/
  | planless {announced : List CallStep}
      (allowed : call.policy.config.limit.isReached number = false)
      (retry : AtMostAnnounced .retry announced) :
      Ending call kind failure number
        ([.classified failure true, .intervalAsked number] ++ announced)
  | skipped (interval : Scalar) {announced : List CallStep}
      (allowed : call.policy.config.limit.isReached number = false)
      (retry : AtMostAnnounced .retry announced) :
      Ending call kind failure number
        ([.classified failure true, .intervalAsked number] ++ announced ++
          [.waitSkipped kind interval])
  /-- The wait begins, but it is not over. -/
  | broken (interval : Scalar) {announced : List CallStep}
      (allowed : call.policy.config.limit.isReached number = false)
      (retry : AtMostAnnounced .retry announced) :
      Ending call kind failure number
        ([.classified failure true, .intervalAsked number] ++ announced ++
          [.waitBegun kind interval])

theorem stepsOf_of_conclude {detail : EventDetail} {attempts : Nat} {failure : Option Failure}
    {wording : Wording} {entry : String → LogEntry} {world after : World σ} {raised : Failure}
    {eventKind : EventKind} (known : detail.kind? = some eventKind)
    (concludes : environment.conclude (α := α) call detail attempts failure wording entry world =
      .error raised after) :
    ∃ announced, AtMostAnnounced eventKind announced ∧
      after.stepsOf call.number = world.stepsOf call.number ++ announced := by
  have concluding := environment.concluding_conclude (α := α) call detail attempts failure wording
    entry world
  rw [concludes] at concluding
  cases concluding with
  | unwritten refusal => exact ⟨[], .inl rfl, by rw [stepsOf_relinking, List.append_nil]⟩
  | announced outside =>
      have known : (call.event detail attempts failure).kind? = some eventKind := known
      refine ⟨world.announcement call _, atMostAnnounced_announcement world _ known, ?_⟩
      rw [outside.stepsOf, stepsOf_announcing, stepsOf_logged, announcement_observe]

theorem steps_of_planning_error {number : Nat} {failure : Option Failure} {asking after : World σ}
    {raised : Failure}
    (planning : Planning environment call number failure asking (.error raised after)) :
    ∃ announced, AtMostAnnounced .retry announced ∧
      after.stepsOf call.number = asking.stepsOf call.number ++ announced := by
  cases planning with
  | uncomputed computes =>
      have kept := (environment.keeps_delay _ _).of_error computes
      exact ⟨[], .inl rfl, by rw [kept.stepsOf, List.append_nil]⟩
  | unwritten computes written =>
      refine ⟨[], .inl rfl, ?_⟩
      rw [stepsOf_relinking, (outside_of_delay computes).stepsOf, List.append_nil]
  | unannounced computes written announces =>
      have added := stepsOf_of_announce (Action.after_eq_of_error announces)
      rw [stepsOf_logged, (outside_of_delay computes).stepsOf] at added
      refine ⟨_, ?_, added⟩
      exact atMostAnnounced_announcement _ _ rfl

theorem Interrupting.stepsOf {world after : World σ} {raised : Failure}
    (ends : Interrupting (α := α) call world (.error raised after)) (other : Nat) :
    after.stepsOf other = world.stepsOf other := by
  cases ends with
  | raised => exact stepsOf_interrupting world call _ _ _ other
  | unwritten => rfl

theorem steps_of_waiting_error {interval : Scalar} {before after : World σ} {raised : Failure}
    (waiting : Waiting environment call kind interval before (.error raised after)) :
    after.stepsOf call.number = before.stepsOf call.number ++ [.waitSkipped kind interval] ∨
      after.stepsOf call.number = before.stepsOf call.number ++ [.waitBegun kind interval] := by
  cases waiting with
  | skipped cancelled ends => exact .inl (by rw [ends.stepsOf, stepsOf_note])
  | interrupted uncancelled passes interrupts ends =>
      have kept := (environment.outside_passTime call _ _).of_error passes
      exact .inr (by rw [ends.stepsOf, kept.stepsOf, stepsOf_beginning])
  | escaped uncancelled passes escapes =>
      have kept := (environment.outside_passTime call _ _).of_error passes
      exact .inr (by rw [stepsOf_leaving, kept.stepsOf, stepsOf_beginning])
  | noticed uncancelled passes ends =>
      have kept := (environment.outside_passTime call _ _).of_ok passes
      exact .inr (by rw [ends.stepsOf, kept.stepsOf, stepsOf_beginning])

theorem ending_of_recordAndWait {failure : Option Failure} {before after : World σ}
    {raised : Failure}
    (ends : environment.recordAndWait call kind failure before = .error raised after) :
    ∃ steps, Ending call kind failure (before.attemptsOf call + 1) steps ∧
      after.stepsOf call.number = before.stepsOf call.number ++ steps := by
  rw [recordAndWait_apply] at ends
  have recording := environment.recording_recordFailure call failure before
  generalize environment.recordFailure call failure before = recorded at ends recording
  cases recording with
  | unclassified asked =>
      cases ends
      have kept := (environment.keeps_isRetryable _ _).of_error asked
      exact ⟨[], .unclassified, by rw [kept.stepsOf, List.append_nil]⟩
  | rejected asked concludes =>
      cases ends
      rcases stepsOf_of_conclude rfl concludes with ⟨announced, ignored, added⟩
      rw [stepsOf_rejecting, (outside_of_isRetryable asked).stepsOf, List.append_assoc] at added
      exact ⟨_, .rejected ignored, added⟩
  | exhausted asked reached concludes =>
      cases ends
      have counted := attemptsOf_eq_of_outside (outside_of_isRetryable asked) call
      rw [counted] at reached
      rcases stepsOf_of_conclude rfl concludes with ⟨announced, error, added⟩
      rw [stepsOf_exhausting, (outside_of_isRetryable asked).stepsOf, List.append_assoc] at added
      exact ⟨_, .exhausted reached error, added⟩
  | planned asked allowed planning =>
      have counted := attemptsOf_eq_of_outside (outside_of_isRetryable asked) call
      rw [counted] at allowed planning
      cases recorded with
      | error failed stopped =>
          cases ends
          rcases steps_of_planning_error planning with ⟨announced, retry, added⟩
          refine ⟨_, .planless allowed retry, ?_⟩
          rw [added, stepsOf_asking asked, List.append_assoc]
      | ok interval planned =>
          have waiting := environment.waiting_waitBefore call kind interval planned
          dsimp only at ends
          cases waits : environment.waitBefore call kind interval planned with
          | ok value waited =>
              rw [waits] at ends
              cases ends
          | error failed stopped =>
              rw [waits] at ends waiting
              cases ends
              cases planning with
              | announced computes written announces =>
                  rename_i computed shown entry
                  have announced := stepsOf_of_announce (Action.after_eq_of_ok announces)
                  rw [stepsOf_logged, (outside_of_delay computes).stepsOf, stepsOf_asking asked]
                    at announced
                  have retry : AtMostAnnounced .retry
                      ((computed.observe (.logged entry)).announcement call
                        (call.event (.retry interval) (before.attemptsOf call + 1) failure)) :=
                    atMostAnnounced_announcement _ _ rfl
                  rcases steps_of_waiting_error waiting with added | added
                  · refine ⟨_, .skipped interval allowed retry, ?_⟩
                    rw [added, announced]
                    simp
                  · refine ⟨_, .broken interval allowed retry, ?_⟩
                    rw [added, announced]
                    simp

theorem ending_of_onFailure {failure : Option Failure} {before after : World σ} {raised : Failure}
    (ends : environment.onFailure call kind failure before = .error raised after) :
    ∃ steps, Ending call kind failure (before.attemptsOf call + 1) steps ∧
      after.stepsOf call.number = before.stepsOf call.number ++ steps := by
  rw [onFailure_eq] at ends
  rcases WaitKind.error_of_enclose ends with ⟨records, -⟩ | ⟨failed, stopped, records, -, -, rfl⟩
  · exact ending_of_recordAndWait records
  · rw [stepsOf_relinking]
    exact ending_of_recordAndWait records

end Environment

end Reattempt
