import Mathlib.Order.Defs.Unbundled
import Reattempt.Engine.Execution

/-! What an action does to the world. Every action ends in a world, whether it has a
result or a failure, so a relation between worlds can be kept by an action as a
whole. -/

namespace Reattempt

variable {σ α β : Type}

namespace Action

/-! ## Carrying out actions -/

theorem bind_apply (action : Action σ α) (next : α → Action σ β) (world : World σ) :
    (action >>= next) world =
      match action world with
      | .ok value after => next value after
      | .error failure after => .error failure after := by
  change EStateM.bind action next world = _
  unfold EStateM.bind
  cases action world <;> rfl

theorem tryCatch_apply (action : Action σ α) (handle : Failure → Action σ α) (world : World σ) :
    tryCatch action handle world =
      match action world with
      | .ok value after => .ok value after
      | .error failure after => handle failure after := by
  change EStateM.tryCatch action handle world = _
  unfold EStateM.tryCatch
  cases action world <;> rfl

@[simp] theorem pure_apply (value : α) (world : World σ) :
    (pure value : Action σ α) world = .ok value world :=
  rfl

@[simp] theorem throw_apply (failure : Failure) (world : World σ) :
    (throw failure : Action σ α) world = .error failure world :=
  rfl

@[simp] theorem get_apply (world : World σ) :
    (get : Action σ (World σ)) world = .ok world world :=
  rfl

@[simp] theorem modify_apply (change : World σ → World σ) (world : World σ) :
    (modify change : Action σ Unit) world = .ok () (change world) :=
  rfl

@[simp] theorem modifyGet_apply (change : World σ → α × World σ) (world : World σ) :
    (modifyGet change : Action σ α) world = .ok (change world).1 (change world).2 :=
  rfl

@[simp] theorem observe_apply (observation : Observation) (world : World σ) :
    observe observation world = .ok () (world.observe observation) :=
  rfl

@[simp] theorem log_apply (level : LogLevel) (source : LogSource) (message : String)
    (fields : List (String × Value)) (world : World σ) :
    log level source message fields world =
      .ok () (world.observe (.logged { level, source, message, fields })) :=
  rfl

@[simp] theorem progressOf_apply (call : Nat) (world : World σ) :
    progressOf call world = .ok (world.progressOf call) world :=
  rfl

@[simp] theorem changeProgress_apply (call : Nat) (change : Progress → Progress)
    (world : World σ) :
    changeProgress call change world = .ok () (world.changeProgress call change) :=
  rfl

@[simp] theorem changeCounters_apply (policy : Nat) (change : Counters → Counters)
    (world : World σ) :
    changeCounters policy change world = .ok () (world.changeCounters policy change) :=
  rfl

@[simp] theorem calculate_ok (value : α) (world : World σ) :
    (calculate (.ok value) : Action σ α) world = .ok value world :=
  rfl

@[simp] theorem calculate_error (fault : ArithmeticFault) (world : World σ) :
    (calculate (.error fault) : Action σ α) world =
      .error (fault.toFailure (.made world.failures))
        { world with failures := world.failures + 1 } :=
  rfl

@[simp] theorem write_ok (text : String) (world : World σ) :
    (write (.ok text) : Action σ String) world = .ok text world :=
  rfl

@[simp] theorem write_error (refusal : Refusal) (world : World σ) :
    (write (.error refusal) : Action σ String) world =
      .error (refusal.toFailure (.made world.failures))
        { world with failures := world.failures + 1 } :=
  rfl

theorem inCoroutine_apply (body : Action σ α) (world : World σ) :
    inCoroutine body world =
      match body world with
      | .ok value after => .ok value after
      | .error failure after =>
          if failure.isA .stopIteration then
            .error (.ofCoroutine (.made after.failures) failure)
              { after with failures := after.failures + 1 }
          else .error failure after := by
  rw [inCoroutine, tryCatch_apply]
  cases body world with
  | ok value after => rfl
  | error failure after =>
      cases ends : failure.isA .stopIteration with
      | true =>
          simp only [ends, if_true]
          rfl
      | false =>
          simp only [ends, Bool.false_eq_true, if_false]
          rfl

/-! ## The world afterwards -/

def lastWorld : EStateM.Result Failure (World σ) α → World σ
  | .ok _ world => world
  | .error _ world => world

def outcomeOf : EStateM.Result Failure (World σ) α → Except Failure α
  | .ok value _ => .ok value
  | .error failure _ => .error failure

def after (action : Action σ α) (world : World σ) : World σ :=
  lastWorld (action world)

theorem after_eq_of_ok {action : Action σ α} {world next : World σ} {value : α}
    (ends : action world = .ok value next) : action.after world = next := by
  simp only [after, ends, lastWorld]

theorem after_eq_of_error {action : Action σ α} {world next : World σ} {failure : Failure}
    (ends : action world = .error failure next) : action.after world = next := by
  simp only [after, ends, lastWorld]

theorem after_congr {first second : Action σ α} {world other : World σ}
    (equal : first world = second other) : first.after world = second.after other := by
  simp only [after, equal]

/-- The action relates every world to the one in which it ends. -/
def Keeps (relation : World σ → World σ → Prop) (action : Action σ α) : Prop :=
  ∀ world, relation world (action.after world)

section Keeps

variable {relation : World σ → World σ → Prop}

theorem Keeps.of_ok {action : Action σ α} (kept : action.Keeps relation) {world next : World σ}
    {value : α} (ends : action world = .ok value next) : relation world next := by
  rw [← after_eq_of_ok ends]
  exact kept world

theorem Keeps.of_error {action : Action σ α} (kept : action.Keeps relation) {world next : World σ}
    {failure : Failure} (ends : action world = .error failure next) : relation world next := by
  rw [← after_eq_of_error ends]
  exact kept world

theorem keeps_get_bind {next : World σ → Action σ α}
    (rest : ∀ world, (next world).Keeps relation) : (get >>= next).Keeps relation :=
  fun world => rest world world

variable [IsPreorder (World σ) relation]

theorem keeps_pure (value : α) : (pure value : Action σ α).Keeps relation :=
  fun world => refl_of relation world

theorem keeps_throw (failure : Failure) : (throw failure : Action σ α).Keeps relation :=
  fun world => refl_of relation world

theorem keeps_progressOf (call : Nat) : (progressOf call : Action σ Progress).Keeps relation :=
  fun world => refl_of relation world

theorem Keeps.after_bind (action : Action σ α) {next : α → Action σ β}
    (rest : ∀ value, (next value).Keeps relation) (world : World σ) :
    relation (action.after world) ((action >>= next).after world) := by
  simp only [after, bind_apply]
  cases action world with
  | error failure middle => exact refl_of relation middle
  | ok value middle => exact rest value middle

theorem Keeps.bind {action : Action σ α} {next : α → Action σ β} (first : action.Keeps relation)
    (rest : ∀ value, (next value).Keeps relation) : (action >>= next).Keeps relation :=
  fun world => trans_of relation (first world) (Keeps.after_bind action rest world)

theorem Keeps.tryCatch {action : Action σ α} {handle : Failure → Action σ α}
    (first : action.Keeps relation) (handled : ∀ failure, (handle failure).Keeps relation) :
    (tryCatch action handle).Keeps relation := by
  intro world
  have begun := first world
  simp only [after, tryCatch_apply] at begun ⊢
  cases ends : action world with
  | ok value middle =>
      simp only [ends] at begun ⊢
      exact begun
  | error failure middle =>
      simp only [ends] at begun ⊢
      exact trans_of relation begun (handled failure middle)

theorem keeps_calculate
    (fresh : ∀ world : World σ, relation world { world with failures := world.failures + 1 })
    (result : Except ArithmeticFault α) : (calculate result : Action σ α).Keeps relation := by
  cases result with
  | ok value => exact keeps_pure value
  | error fault => exact fresh

theorem keeps_write
    (fresh : ∀ world : World σ, relation world { world with failures := world.failures + 1 })
    (wording : Wording) : (write wording : Action σ String).Keeps relation := by
  cases wording with
  | ok text => exact keeps_pure text
  | error refusal => exact fresh

theorem Keeps.inCoroutine {body : Action σ α} (kept : body.Keeps relation)
    (fresh : ∀ world : World σ, relation world { world with failures := world.failures + 1 }) :
    (inCoroutine body).Keeps relation := by
  apply Keeps.tryCatch kept
  intro failure
  split
  · exact fresh
  · exact keeps_throw failure

theorem keeps_forM {γ : Type} {items : List γ} {action : γ → Action σ Unit}
    (kept : ∀ item ∈ items, (action item).Keeps relation) :
    (items.forM action).Keeps relation := by
  induction items with
  | nil => exact keeps_pure ()
  | cons item rest induction =>
      apply Keeps.bind (kept item (by simp))
      intro _
      exact induction fun other member => kept other (by simp [member])

end Keeps

end Action

/-! ## Calling a listener -/

def Event.complaint (event : Event) (kind : EventKind) (text : String) : LogEntry where
  level := .warning
  source := .publisher
  message := s!"Error in retry '{event.policyName}' {kind.name} listener: {text}"
  fields := []

theorem Environment.notify_apply (environment : Environment σ)
    (deliver : Nat → Event → Action σ Unit) (publisher : Nat) (event : Event) (kind : EventKind)
    (listener : Listener) (world : World σ) :
    environment.notify deliver publisher event kind listener world =
      match (environment.listener publisher listener event).perform deliver
          (world.observe (.delivered publisher listener event world.links)) with
      | .ok _ after => .ok () after
      | .error failure after =>
          if failure.isA .ordinary then
            match failure.text with
            | .ok text => .ok () (after.observe (.logged (event.complaint kind text)))
            | .error refusal =>
                .error (refusal.toFailure (.made after.failures))
                  { after with failures := after.failures + 1 }
          else .error failure after := by
  simp only [notify, Action.bind_apply, Action.get_apply, Action.observe_apply,
    Action.tryCatch_apply]
  cases (environment.listener publisher listener event).perform deliver
      (world.observe (.delivered publisher listener event world.links)) with
  | ok value after => rfl
  | error failure after =>
      cases ordinary : failure.isA .ordinary with
      | true =>
          simp only [ordinary, if_true]
          cases failure.text <;> rfl
      | false =>
          simp only [ordinary, Bool.false_eq_true, if_false]
          rfl

/-- A failure that a publisher can report: it is ordinary, and its message can be written. -/
def Failure.isReportable (failure : Failure) : Bool :=
  failure.isA .ordinary && failure.text.isOk

theorem Failure.isReportable_ofMessage {type : FailureType}
    (ordinary : FailureType.ordinary.covers type = true) (identity : Identity)
    (message : String) : (ofMessage identity type message).isReportable = true := by
  have written : (ofMessage identity type message).text.isOk = true := by
    by_cases missing : FailureType.key.covers type = true
    · simp only [text, ofMessage, isA, missing, if_true]
      rfl
    · simp only [text, ofMessage, isA, missing]
      rfl
  rw [isReportable, written, Bool.and_true]
  exact ordinary

theorem Failure.exists_text_of_isReportable {failure : Failure}
    (reportable : failure.isReportable = true) :
    failure.isA .ordinary = true ∧ ∃ text, failure.text = .ok text := by
  rw [isReportable, Bool.and_eq_true] at reportable
  refine ⟨reportable.1, ?_⟩
  cases written : failure.text with
  | ok text => exact ⟨text, rfl⟩
  | error refusal => cases written ▸ reportable.2

end Reattempt
