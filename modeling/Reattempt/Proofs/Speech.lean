import Reattempt.Proofs.Course
import Reattempt.Proofs.Discreet
import Reattempt.Proofs.Report
import Reattempt.Proofs.Word

/-! What the caller's code says while a failure is reported: whether the failure is worth
another attempt, how long to wait and how the wait ends. If listeners are discreet, this
fixes the exit of the report and how far the call has come. Nothing is left open but the
numbers under which the engine makes failures. -/

namespace Reattempt

variable {σ α : Type}

namespace Wording

def raising (wording : Wording) (failure : Failure) : Failure :=
  match wording with
  | .ok _ => failure
  | .error refusal => refusal.toFailure (.made 0)

def interrupting (wording : Wording) (begun : Bool) (called : WaitEnding) : WaitEnding :=
  match wording with
  | .ok _ => called
  | .error refusal => .unworded begun (refusal.toFailure (.made 0))

end Wording

def WaitEnding.begins : WaitEnding → Bool
  | .skipped | .unworded false _ => false
  | .interrupted _ | .escaped _ | .noticed | .unworded true _ | .elapsed => true

/-- What the caller's code says while a failure is reported. At the end of a wait this is
whether a cancellation is noticed. -/
structure Speech where
  verdict : Word Bool
  interval : Word Scalar
  wait : Word Bool

namespace Speech

variable (speech : Speech)

def waitEnding (kind : WaitKind) (failure : Failure) (cancelled : Bool) : WaitEnding :=
  if cancelled then (Environment.warningAbout none failure).interrupting false .skipped
  else
    match speech.wait.ending with
    | .ok true => (Environment.warningAbout none failure).interrupting true .noticed
    | .ok false => .elapsed
    | .error raised =>
        if kind.interruptedBy raised then
          (Environment.warningAbout (some raised) failure).interrupting true (.interrupted raised)
        else .escaped raised

/-- The exit of the report of a failure. -/
def exit (limit : AttemptLimit) (kind : WaitKind) (failure : Failure) (progress : Progress) :
    Exit :=
  match speech.verdict.ending with
  | .error raised => .unclassified raised
  | .ok false => .rejected (failure.text.raising failure)
  | .ok true =>
      if limit.isReached (progress.attempts + 1) then .exhausted (failure.shown.raising failure)
      else
        match speech.interval.plan with
        | .error raised => .unplanned raised
        | .ok interval =>
            .waited interval (speech.waitEnding kind failure
              (progress.cancelled || (speech.verdict.cancels || speech.interval.cancels)))

def cancels : Exit → Bool
  | .unclassified _ | .rejected _ | .exhausted _ => speech.verdict.cancels
  | .unplanned _ => speech.verdict.cancels || speech.interval.cancels
  | .waited _ ending =>
      speech.verdict.cancels || speech.interval.cancels || (ending.begins && speech.wait.cancels)

def advance (limit : AttemptLimit) (kind : WaitKind) (failure : Failure) (progress : Progress) :
    Progress :=
  let exit := speech.exit limit kind failure progress
  (exit.advance failure limit kind progress).heed (speech.cancels exit)

theorem cancels_unnumbered (exit : Exit) :
    speech.cancels exit.unnumbered = speech.cancels exit := by
  cases exit with
  | waited interval ending =>
      cases ending with
      | unworded begun raised => cases begun <;> rfl
      | _ => rfl
  | _ => rfl

theorem exit_of_classified {limit : AttemptLimit} {speech : Speech} {progress : Progress}
    (classified : speech.verdict.ending = .ok true)
    (allowed : limit.isReached (progress.attempts + 1) = false) (kind : WaitKind)
    (failure : Failure) :
    speech.exit limit kind failure progress =
      match speech.interval.plan with
      | .error raised => .unplanned raised
      | .ok interval =>
          .waited interval (speech.waitEnding kind failure
            (progress.cancelled || (speech.verdict.cancels || speech.interval.cancels))) := by
  simp only [exit, classified, allowed, Bool.false_eq_true, if_false]

end Speech

namespace Environment

open World Reattempt.Action

/-- The caller's code makes this speech while a failure is reported. -/
structure Says (environment : Environment σ) (call : Call) (kind : WaitKind) (failure : Failure)
    (before : World σ) (speech : Speech) : Prop where
  verdict : (environment.isRetryable call.policy.config (some failure)).TellsAlike call.number
    before speech.verdict
  interval : ∀ {judged},
    environment.isRetryable call.policy.config (some failure) before = .ok true judged →
    call.policy.config.limit.isReached (judged.attemptsOf call + 1) = false →
    (environment.delay call.policy.config.interval (judged.attemptsOf call + 1 : Nat)).TellsAlike
      call.number
      ((judged.counting call (some failure)).note call
        (.intervalAsked (judged.attemptsOf call + 1))) speech.interval
  wait : ∀ {interval planned},
    environment.recordFailure call (some failure) before = .ok interval planned →
    (planned.progressOf call.number).cancelled = false →
    (environment.passTime call kind interval).TellsAlike call.number
      (planned.beginning call kind interval) speech.wait

variable {environment : Environment σ} {call : Call} {kind : WaitKind} {failure : Failure}
  {before : World σ}

theorem Says.judged {speech : Speech} (speaks : Says environment call kind failure before speech)
    {verdict : Bool} {judged : World σ}
    (asked : environment.isRetryable call.policy.config (some failure) before =
      .ok verdict judged) :
    speech.verdict.ending = .ok verdict ∧
      judged.progressOf call.number =
        (before.progressOf call.number).heed speech.verdict.cancels ∧
      judged.attemptsOf call = before.attemptsOf call := by
  rcases speaks.verdict.of_ok asked with ⟨said, equal⟩
  exact ⟨said, equal, by rw [attemptsOf, equal, Progress.attempts_heed, attemptsOf]⟩

theorem warningAbout_unnumbered (cause failure : Failure) :
    warningAbout (some cause.unnumbered) failure = warningAbout (some cause) failure := by
  simp only [warningAbout, Failure.warning, Failure.isA_unnumbered, Failure.text_unnumbered]

theorem Interrupted.told {cause? : Option Failure} {begun : Bool} {called ending said : WaitEnding}
    {world : World σ} {result : EStateM.Result Failure (World σ) Unit}
    (ends : Interrupted call failure cause? begun called world ending result)
    (same : called.unnumbered = said.unnumbered) :
    ending.unnumbered = ((warningAbout cause? failure).interrupting begun said).unnumbered := by
  cases ends with
  | raised worded =>
      rw [worded]
      exact same
  | unworded refused new =>
      rw [refused]
      simp only [Wording.interrupting, WaitEnding.unnumbered, Failure.unnumbered_toFailure]

theorem Interrupted.begins_eq {cause? : Option Failure} {begun : Bool}
    {called ending : WaitEnding} {world : World σ}
    {result : EStateM.Result Failure (World σ) Unit}
    (ends : Interrupted call failure cause? begun called world ending result)
    (begins : called.begins = begun) : ending.begins = begun := by
  cases ends with
  | raised worded => exact begins
  | unworded refused new => cases begun <;> rfl

theorem Waits.told {interval : Scalar} {ending : WaitEnding}
    {result : EStateM.Result Failure (World σ) Unit} {speech : Speech}
    (waits : Waits environment call kind failure interval before ending result)
    (tells : (before.progressOf call.number).cancelled = false →
      (environment.passTime call kind interval).TellsAlike call.number
        (before.beginning call kind interval) speech.wait) :
    ending.unnumbered =
        (speech.waitEnding kind failure (before.progressOf call.number).cancelled).unnumbered ∧
      (lastWorld result).progressOf call.number =
        (ending.advance kind (before.progressOf call.number)).heed
          (ending.begins && speech.wait.cancels) := by
  have begun := progressOf_beginning_settle before call kind interval
  cases waits with
  | skipped cancelled ends =>
      refine ⟨?_, ?_⟩
      · rw [cancelled]
        exact ends.told rfl
      · rw [ends.progress, ends.begins_eq rfl]
        cases ends <;> rfl
  | interrupted uncancelled passes interrupts ends =>
      rename_i cause slept
      rcases (tells uncancelled).of_error passes with ⟨⟨raised, said, same⟩, equal⟩
      have interruptsToo : kind.interruptedBy raised = true := by
        rw [← WaitKind.interruptedBy_unnumbered, same, WaitKind.interruptedBy_unnumbered,
          interrupts]
      have about : warningAbout (some raised) failure = warningAbout (some cause) failure := by
        rw [← warningAbout_unnumbered, same, warningAbout_unnumbered]
      refine ⟨?_, ?_⟩
      · have spoken : speech.waitEnding kind failure (before.progressOf call.number).cancelled =
            (warningAbout (some cause) failure).interrupting true (.interrupted raised) := by
          simp only [Speech.waitEnding, uncancelled, said, interruptsToo, about,
            Bool.false_eq_true, if_false, if_true]
        rw [spoken]
        exact ends.told (congrArg WaitEnding.interrupted same.symm)
      · rw [ends.progress, equal, begun, Progress.heed_interrupt, ends.begins_eq rfl]
        cases ends <;> rfl
  | escaped uncancelled passes escapes =>
      rcases (tells uncancelled).of_error passes with ⟨⟨raised, said, same⟩, equal⟩
      have escapesToo : kind.interruptedBy raised = false := by
        rw [← WaitKind.interruptedBy_unnumbered, same, WaitKind.interruptedBy_unnumbered, escapes]
      refine ⟨?_, ?_⟩
      · simp only [Speech.waitEnding, uncancelled, said, escapesToo, Bool.false_eq_true, if_false]
        exact congrArg WaitEnding.escaped same.symm
      · rw [lastWorld, progressOf_leaving, equal, begun, Progress.heed_settle]
        rfl
  | noticed uncancelled passes ends =>
      rcases (tells uncancelled).of_ok passes with ⟨said, equal⟩
      refine ⟨?_, ?_⟩
      · simp only [Speech.waitEnding, uncancelled, said, Bool.false_eq_true, if_false]
        exact ends.told rfl
      · rw [ends.progress, equal, begun, Progress.heed_interrupt, ends.begins_eq rfl]
        cases ends <;> rfl
  | elapsed uncancelled passes =>
      rcases (tells uncancelled).of_ok passes with ⟨said, equal⟩
      refine ⟨?_, ?_⟩
      · simp only [Speech.waitEnding, uncancelled, said, Bool.false_eq_true, if_false]
      · rw [lastWorld, progressOf_changeProgress_self, progressOf_note, equal, begun,
          Progress.heed_resume]
        rfl

section Discreet

variable {calls : Nat → Prop} (discreet : environment.Discreet calls) (member : calls call.number)

include discreet

/-! If listeners are discreet, the plan of a wait ends as the interval is computed. -/

theorem Planning.told_of_error {attempts : Nat} {asking after : World σ} {word : Word Scalar}
    (tells : (environment.delay call.policy.config.interval attempts).TellsAlike call.number asking
      word) {raised : Failure}
    (planning : Planning environment call attempts (some failure) asking (.error raised after)) :
    (∃ said, word.plan = .error said ∧ said.unnumbered = raised.unnumbered) ∧
      after.progressOf call.number = (asking.progressOf call.number).heed word.cancels := by
  cases planning with
  | uncomputed computes =>
      rcases tells.of_error computes with ⟨⟨uttered, said, same⟩, equal⟩
      exact ⟨⟨uttered, by simp only [Word.plan, said], same⟩, equal⟩
  | unwritten computes unwritten =>
      rename_i fault
      rcases tells.of_ok computes with ⟨said, equal⟩
      refine ⟨⟨fault.toFailure (.made 0), ?_, rfl⟩, equal⟩
      simp only [Word.plan, said, unwritten]
  | unannounced computes written announces =>
      rename_i interval computed shown entry
      have known : (EventDetail.retry interval).kind? = some .retry := rfl
      rcases discreet.announces call known attempts (some failure)
        (computed.observe (.logged entry)) with ⟨told, ends, -⟩
      rw [announces] at ends
      cases ends

include member

theorem Planning.told_of_ok {attempts : Nat} {asking planned : World σ} {word : Word Scalar}
    (tells : (environment.delay call.policy.config.interval attempts).TellsAlike call.number asking
      word) {interval : Scalar}
    (planning : Planning environment call attempts (some failure) asking (.ok interval planned)) :
    word.plan = .ok interval ∧
      planned.progressOf call.number = (asking.progressOf call.number).heed word.cancels := by
  cases planning with
  | announced computes written announces =>
      rename_i computed shown entry
      rcases tells.of_ok computes with ⟨said, equal⟩
      have known : (EventDetail.retry interval).kind? = some .retry := rfl
      rcases discreet.announces call known attempts (some failure)
        (computed.observe (.logged entry)) with ⟨told, ends, kept⟩
      rw [announces] at ends
      cases ends
      refine ⟨?_, (kept _ member).trans equal⟩
      simp only [Word.plan, said, written]

omit member in
theorem Discreet.told_of_concludes {detail : EventDetail} {kind : EventKind}
    (known : detail.kind? = some kind) {attempts : Nat} {failure raised : Failure}
    {wording : Wording} {entry : String → LogEntry} {world after : World σ}
    (concludes : environment.conclude (α := α) call detail attempts (some failure) wording entry
      world = .error raised after) :
    raised.unnumbered = (wording.raising failure).unnumbered ∧ SameProgress calls world after := by
  cases written : wording with
  | ok text =>
      rcases discreet.eq_of_concludes known written concludes with ⟨rfl, kept⟩
      exact ⟨rfl, kept⟩
  | error refusal =>
      rw [environment.conclude_of_unwritten call written] at concludes
      cases concludes
      refine ⟨?_, fun _ _ => rfl⟩
      rw [Wording.raising, Failure.unnumbered_toFailure, Failure.unnumbered_toFailure]

/-- If listeners are discreet, a speech fixes the exit of the report and how far the call
comes. -/
theorem Exits.told {exit : Exit} {result : EStateM.Result Failure (World σ) Unit} {speech : Speech}
    (exits : Exits environment call kind failure before exit result)
    (speaks : Says environment call kind failure before speech) :
    exit.unnumbered = (speech.exit call.policy.config.limit kind failure
        (before.progressOf call.number)).unnumbered ∧
      (lastWorld result).progressOf call.number =
        (exit.advance failure call.policy.config.limit kind (before.progressOf call.number)).heed
          (speech.cancels exit) := by
  cases exits with
  | unclassified asked =>
      rcases speaks.verdict.of_error asked with ⟨⟨raised, said, same⟩, equal⟩
      refine ⟨?_, equal⟩
      simp only [Speech.exit, said, Exit.unnumbered, same]
  | rejected asked concludes =>
      rcases speaks.judged asked with ⟨said, equal, -⟩
      rcases discreet.told_of_concludes rfl concludes with ⟨same, kept⟩
      have kept := kept _ member
      refine ⟨?_, ?_⟩
      · simp only [Speech.exit, said, Exit.unnumbered, same]
      · simp [lastWorld, kept, equal, Exit.advance, Speech.cancels]
  | exhausted asked reached concludes =>
      rcases speaks.judged asked with ⟨said, equal, counted⟩
      rcases discreet.told_of_concludes rfl concludes with ⟨same, kept⟩
      have kept := kept _ member
      rw [counted] at reached
      refine ⟨?_, ?_⟩
      · simp only [Speech.exit, said, attemptsOf] at reached ⊢
        rw [if_pos reached]
        exact congrArg Exit.exhausted same
      · simp [lastWorld, kept, equal, Exit.advance, Speech.cancels]
  | unplanned asked allowed planning =>
      rcases speaks.judged asked with ⟨said, equal, counted⟩
      rcases planning.told_of_error discreet (speaks.interval asked allowed) with
        ⟨⟨uttered, plan, same⟩, last⟩
      rw [counted] at allowed
      refine ⟨?_, ?_⟩
      · rw [Speech.exit_of_classified said allowed, plan]
        exact congrArg Exit.unplanned same.symm
      · simp [lastWorld, last, equal, Exit.advance, Speech.cancels]
  | waited asked allowed planning records waits =>
      rcases speaks.judged asked with ⟨said, equal, counted⟩
      rcases planning.told_of_ok discreet member (speaks.interval asked allowed) with ⟨plan, last⟩
      rw [counted] at allowed
      rcases waits.told (speaks.wait records) with ⟨ends, advanced⟩
      rw [progressOf_note, progressOf_counting, equal, Progress.heed_count,
        Progress.heed_heed] at last
      have cancelled := congrArg Progress.cancelled last
      rw [Progress.cancelled_heed, Progress.cancelled_count] at cancelled
      refine ⟨?_, ?_⟩
      · rw [Speech.exit_of_classified said allowed, plan, ← cancelled]
        exact congrArg (Exit.waited _) ends
      · rw [advanced, last, WaitEnding.advance_heed, Progress.heed_heed]
        rfl

end Discreet

/-- If listeners are discreet, a success is reported and nothing else happens. -/
theorem Discreet.succeeds {calls : Nat → Prop} (discreet : environment.Discreet calls)
    (member : calls call.number) {before after : World σ}
    (reports : environment.onSuccess call before = .ok () after) :
    after.progressOf call.number = (before.progressOf call.number).succeed ∧
      after.actsOf call.number = before.actsOf call.number ∧ after.links = before.links := by
  refine ⟨?_, ?_, ((environment.untouched_onSuccess call).of_ok reports).links⟩
  · rcases Nat.eq_zero_or_pos (before.attemptsOf call) with never | retried
    · rw [environment.onSuccess_at_once call never] at reports
      cases reports
      simp
    · rcases environment.onSuccess_after_retry call retried with ⟨entry, announces⟩
      have known : EventDetail.success.kind? = some .success := rfl
      rcases discreet.announces call known (before.attemptsOf call)
        (before.progressOf call.number).lastFailure _ with ⟨told, ends, kept⟩
      rw [announces, ends] at reports
      cases reports
      simpa using kept _ member
  · rcases steps_of_onSuccess environment call before with ⟨announced, once, steps⟩
    rw [after_eq_of_ok reports] at steps
    rw [World.actsOf, steps, List.filter_append, once.filter_isAct, List.append_nil]
    rfl

/-! ## Reports up to numbers -/

theorem Exits.actsOf {exit : Exit} {result : EStateM.Result Failure (World σ) Unit}
    (exits : Exits environment call kind failure before exit result) :
    (lastWorld result).actsOf call.number = before.actsOf call.number ++
      exit.acts failure kind (before.attemptsOf call + 1) := by
  rcases exits.leads with ⟨steps, leads, acts, -⟩
  rw [World.actsOf, leads.steps, List.filter_append, acts]
  rfl

def exitOf (call : Call) (kind : WaitKind) (failure : Failure) (before : World σ)
    (speech : Speech) : Exit :=
  speech.exit call.policy.config.limit kind failure (before.progressOf call.number)

/-- The report is as the speech says, up to the numbers of failures that the engine
makes. -/
structure Reported (call : Call) (kind : WaitKind) (failure : Failure) (before : World σ)
    (speech : Speech) (result : EStateM.Result Failure (World σ) Unit) : Prop where
  outcome : (outcomeOf result).mapError Failure.unnumbered =
    (kind.released ((exitOf call kind failure before speech).outcome failure)).mapError
      Failure.unnumbered
  progress : (lastWorld result).progressOf call.number =
    speech.advance call.policy.config.limit kind failure (before.progressOf call.number)
  acts : (lastWorld result).actsOf call.number = before.actsOf call.number ++
    (exitOf call kind failure before speech).acts failure kind (before.attemptsOf call + 1)
  counters : (lastWorld result).countersOf call.policy.number =
    (before.countersOf call.policy.number).enter (exitOf call kind failure before speech).ledger
  causes : ∃ chain?, (lastWorld result).links = before.links.extend chain? ∧
    chain?.map Chain.unnumbered =
      ((exitOf call kind failure before speech).chain? failure (.interruption (.made 0)
        call.policy.name (before.attemptsOf call + 1 : Nat))).map Chain.unnumbered

namespace Reported

variable {speech : Speech} {after : World σ}

theorem again (reported : Reported call kind failure before speech (.ok () after)) :
    (exitOf call kind failure before speech).isAgain = true := by
  have same := reported.outcome
  rw [← Exit.outcome_eq_ok_iff failure]
  cases said : (exitOf call kind failure before speech).outcome failure with
  | ok value => rfl
  | error raised =>
      rw [said] at same
      cases same

theorem last {raised : Failure}
    (reported : Reported call kind failure before speech (.error raised after)) :
    (exitOf call kind failure before speech).isAgain = false := by
  have same := reported.outcome
  rw [← Bool.not_eq_true, ← Exit.outcome_eq_ok_iff failure]
  intro said
  rw [said] at same
  cases same

end Reported

/-- If listeners are discreet, the report of a failure is as the speech says. -/
theorem reported_onFailure {calls : Nat → Prop} (discreet : environment.Discreet calls)
    (member : calls call.number) {speech : Speech}
    (speaks : Says environment call kind failure before speech) :
    Reported call kind failure before speech
      (environment.onFailure call kind (some failure) before) := by
  rcases exists_exits environment call kind failure before with ⟨exit, exits⟩
  rcases exits.told discreet member speaks with ⟨same, progress⟩
  rcases exits.leads with ⟨_, leads, -⟩
  rcases exits.links with ⟨number, links⟩
  have same : exit.unnumbered = (exitOf call kind failure before speech).unnumbered := same
  rcases kind.after_enclose (environment.recordAndWait call kind (some failure)) before with
    ⟨failures, -, enclosed⟩
  rw [← onFailure_eq] at enclosed
  have last : lastWorld (environment.onFailure call kind (some failure) before) = _ := enclosed
  refine ⟨?_, ?_, ?_, ?_, ?_⟩
  · rw [onFailure_eq, WaitKind.outcomeOf_enclose]
    apply WaitKind.released_congr
    rw [exits.ends, outcomeOf_ending, ← exit.outcome_unnumbered, same, Exit.outcome_unnumbered]
  · rw [last, progressOf_relinking, Action.after, progress, ← exit.advance_unnumbered,
      ← speech.cancels_unnumbered, same, Exit.advance_unnumbered, speech.cancels_unnumbered]
    rfl
  · rw [last]
    refine exits.actsOf.trans ?_
    rw [← exit.acts_unnumbered, same, Exit.acts_unnumbered]
  · rw [last]
    refine leads.counters.trans ?_
    rw [← exit.ledger_unnumbered, same, Exit.ledger_unnumbered]
  · rw [last]
    refine ⟨_, links, ?_⟩
    -- Interruptions that differ in their numbers are the same without them.
    have left := exit.chain?_unnumbered failure
      (.interruption (.made number) call.policy.name (before.attemptsOf call + 1 : Nat))
    have right := (exitOf call kind failure before speech).chain?_unnumbered failure
      (.interruption (.made 0) call.policy.name (before.attemptsOf call + 1 : Nat))
    rw [same] at left
    rw [Failure.unnumbered_interruption] at left right
    exact left.symm.trans right

end Environment

end Reattempt
