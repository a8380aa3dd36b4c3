import Reattempt.Proofs.Effect
import Reattempt.Proofs.Views

/-! What the caller's code can do to a world. Operations, predicates, interval
functions, listeners and waits can cancel calls, register listeners and have events
delivered. They cannot add a step to a call, count anything, attach a cause, forget a
failure object or undo a registration, whatever they do and however they end. -/

namespace Reattempt

variable {σ α : Type}

namespace ListenerTable

theorem prefix_enlist (listeners : List Listener) (listener : Listener) :
    listeners <+: enlist listeners listener := by
  rw [enlist]
  split
  · exact List.prefix_refl listeners
  · exact List.prefix_append listeners [listener]

theorem prefix_registerAll (table : ListenerTable) (kinds : List EventKind)
    (listener : Listener) (kind : EventKind) :
    table.listeners kind <+: (table.registerAll kinds listener).listeners kind := by
  induction kinds generalizing table with
  | nil => exact List.prefix_refl _
  | cons first rest induction =>
      refine List.IsPrefix.trans ?_ (induction (table.register first listener))
      rw [listeners_register]
      split
      · next equal =>
          subst equal
          exact prefix_enlist _ listener
      · exact List.prefix_refl _

theorem count_enlist {listeners : List Listener} {listener : Listener}
    (member : listener ∈ listeners) (other : Listener) :
    (enlist listeners other).count listener = listeners.count listener := by
  rw [enlist]
  split
  · rfl
  · next absent =>
      have different : other ≠ listener := fun equal => absent (equal ▸ member)
      rw [List.count_append, List.count_singleton, if_neg (by simpa using different), Nat.add_zero]

theorem count_registerAll {table : ListenerTable} {kind : EventKind} {listener : Listener}
    (member : listener ∈ table.listeners kind) (kinds : List EventKind) (other : Listener) :
    ((table.registerAll kinds other).listeners kind).count listener =
      (table.listeners kind).count listener := by
  induction kinds generalizing table with
  | nil => rfl
  | cons first rest induction =>
      have kept := (prefix_registerAll table [first] other kind).subset member
      apply (induction kept).trans
      change List.count listener ((table.register first other).listeners kind) = _
      rw [listeners_register]
      split
      · next equal =>
          subst equal
          exact count_enlist member other
      · rfl

end ListenerTable

namespace World

/-- The second world may be left by the caller's code when it starts in the first. -/
structure Outside (before after : World σ) : Prop where
  observed : ∃ later, after.observed = later ++ before.observed ∧
    ∀ observation ∈ later, observation.IsOutside
  progress : ∀ call, after.progressOf call = before.progressOf call ∨
    after.progressOf call = (before.progressOf call).cancel
  known : ∀ call, before.progress.contains call = true → after.progress.contains call = true
  counters : after.counters = before.counters
  links : after.links = before.links
  failures : before.failures ≤ after.failures
  listeners : ∀ publisher kind, (before.listenersOf publisher).listeners kind <+:
    (after.listenersOf publisher).listeners kind
  enlisted : ∀ {publisher kind listener},
    listener ∈ (before.listenersOf publisher).listeners kind →
    ((after.listenersOf publisher).listeners kind).count listener =
      ((before.listenersOf publisher).listeners kind).count listener

namespace Outside

theorem refl (world : World σ) : Outside world world where
  observed := ⟨[], rfl, by simp⟩
  progress _ := .inl rfl
  known _ present := present
  counters := rfl
  links := rfl
  failures := Nat.le_refl _
  listeners _ _ := List.prefix_refl _
  enlisted _ := rfl

theorem trans {first second third : World σ} (begun : Outside first second)
    (ended : Outside second third) : Outside first third where
  observed := by
    rcases begun.observed with ⟨earlier, begunEqual, begunOutside⟩
    rcases ended.observed with ⟨later, endedEqual, endedOutside⟩
    refine ⟨later ++ earlier, by rw [endedEqual, begunEqual, List.append_assoc], ?_⟩
    intro observation member
    rcases List.mem_append.mp member with member | member
    · exact endedOutside observation member
    · exact begunOutside observation member
  progress call := by
    rcases begun.progress call with begunEqual | begunEqual <;>
      rcases ended.progress call with endedEqual | endedEqual <;>
      rw [endedEqual, begunEqual]
    · exact .inl rfl
    · exact .inr rfl
    · exact .inr rfl
    · exact .inr rfl
  known call present := ended.known call (begun.known call present)
  counters := ended.counters.trans begun.counters
  links := ended.links.trans begun.links
  failures := Nat.le_trans begun.failures ended.failures
  listeners publisher kind :=
    (begun.listeners publisher kind).trans (ended.listeners publisher kind)
  enlisted {publisher kind _} member :=
    (ended.enlisted ((begun.listeners publisher kind).subset member)).trans (begun.enlisted member)

instance : IsPreorder (World σ) Outside where
  refl := refl
  trans _ _ _ := trans

/-! ## The changes that are allowed -/

theorem observe (world : World σ) (observation : Observation)
    (outside : observation.IsOutside) : Outside world (world.observe observation) where
  observed := ⟨[observation], rfl, by simpa using outside⟩
  progress _ := .inl rfl
  known _ present := present
  counters := rfl
  links := rfl
  failures := Nat.le_refl _
  listeners _ _ := List.prefix_refl _
  enlisted _ := rfl

theorem cancel (world : World σ) (call : Nat) :
    Outside world (world.changeProgress call .cancel) where
  observed := ⟨[], rfl, by simp⟩
  progress other := by
    by_cases equal : other = call
    · subst equal
      exact .inr (progressOf_changeProgress_self other _ world)
    · exact .inl (progressOf_changeProgress_of_ne equal _ world)
  known other present := OrderedMap.contains_set present
  counters := rfl
  links := rfl
  failures := Nat.le_refl _
  listeners _ _ := List.prefix_refl _
  enlisted _ := rfl

theorem register (world : World σ) (publisher : Nat) (kinds : List EventKind)
    (listener : Listener) : Outside world (world.register publisher kinds listener) where
  observed := ⟨[], rfl, by simp⟩
  progress _ := .inl rfl
  known _ present := present
  counters := rfl
  links := rfl
  failures := Nat.le_refl _
  listeners other kind := by
    by_cases equal : other = publisher
    · subst equal
      rw [listenersOf_register_self]
      exact ListenerTable.prefix_registerAll _ kinds listener kind
    · simp [World.register, listenersOf, equal]
  enlisted {other kind _} member := by
    by_cases equal : other = publisher
    · subst equal
      rw [listenersOf_register_self]
      exact ListenerTable.count_registerAll member kinds listener
    · simp [World.register, listenersOf, equal]

theorem remember (world : World σ) (memory : σ) : Outside world { world with memory } where
  observed := ⟨[], rfl, by simp⟩
  progress _ := .inl rfl
  known _ present := present
  counters := rfl
  links := rfl
  failures := Nat.le_refl _
  listeners _ _ := List.prefix_refl _
  enlisted _ := rfl

theorem newIdentity (world : World σ) :
    Outside world { world with failures := world.failures + 1 } where
  observed := ⟨[], rfl, by simp⟩
  progress _ := .inl rfl
  known _ present := present
  counters := rfl
  links := rfl
  failures := Nat.le_succ world.failures
  listeners _ _ := List.prefix_refl _
  enlisted _ := rfl

/-! ## What stays -/

variable {before after : World σ}

theorem stepsOf (outside : Outside before after) (call : Nat) :
    after.stepsOf call = before.stepsOf call := by
  rcases outside.observed with ⟨later, equal, outsideAll⟩
  have nothing : later.reverse.filterMap (Observation.stepOf? call) = [] := by
    rw [List.filterMap_eq_nil_iff]
    intro observation member
    exact Observation.stepOf?_eq_none (outsideAll observation (List.mem_reverse.mp member)) call
  simp [World.stepsOf, trace, equal, nothing]

theorem countersOf (outside : Outside before after) (policy : Nat) :
    after.countersOf policy = before.countersOf policy := by
  simp [Situation.countersOf, outside.counters]

theorem attempts (outside : Outside before after) (call : Nat) :
    (after.progressOf call).attempts = (before.progressOf call).attempts := by
  rcases outside.progress call with equal | equal
  · rw [equal]
  · rw [equal]
    rfl

theorem stranded (outside : Outside before after) (call : Nat) :
    (after.progressOf call).stranded = (before.progressOf call).stranded := by
  rcases outside.progress call with equal | equal
  · rw [equal]
  · rw [equal]
    rfl

theorem hasListeners (outside : Outside before after) {publisher : Nat} {kind : EventKind}
    (already : (before.listenersOf publisher).hasListeners (some kind) = true) :
    (after.listenersOf publisher).hasListeners (some kind) = true := by
  rcases outside.listeners publisher kind with ⟨added, equal⟩
  simp only [ListenerTable.hasListeners, ← equal, Bool.not_eq_true', List.isEmpty_eq_false_iff]
    at already ⊢
  exact List.append_ne_nil_of_left_ne_nil already added

end Outside

end World

/-! ## Questions -/

namespace Environment

open Reattempt.Action

/-- The relation does not look at what is observed and made while an interval is computed, and
the code that is asked keeps it. -/
structure IgnoresQuestions (environment : Environment σ)
    (relation : World σ → World σ → Prop) : Prop where
  drawn : ∀ world low high, relation world (world.observe (.drawn low high))
  newIdentity : ∀ world, relation world { world with failures := world.failures + 1 }
  predicate : ∀ function failure,
    (environment.run (environment.predicate function failure)).Keeps relation
  interval : ∀ function attempt,
    (environment.run (environment.interval function attempt)).Keeps relation
  draw : ∀ low high, (environment.run (environment.draw low high)).Keeps relation

namespace IgnoresQuestions

variable {environment : Environment σ} {relation : World σ → World σ → Prop}
  [IsPreorder (World σ) relation] (ignores : IgnoresQuestions environment relation)

include ignores

theorem keeps_isRetryable (config : Config) (failure : Option Failure) :
    (environment.isRetryable config failure).Keeps relation := by
  rw [isRetryable]
  split
  · split
    · exact keeps_pure true
    · exact ignores.predicate _ failure
  · exact keeps_pure false

theorem keeps_uniform (low high : Scalar) : (environment.uniform low high).Keeps relation := by
  have drawn : (Action.observe (.drawn low high) : Action σ Unit).Keeps relation :=
    fun world => ignores.drawn world low high
  apply Keeps.bind (ignores.draw low high)
  intro draw
  apply Keeps.bind drawn
  intro _
  apply Keeps.bind (keeps_calculate ignores.newIdentity _)
  intro width
  apply Keeps.bind (keeps_calculate ignores.newIdentity _)
  intro shift
  exact keeps_calculate ignores.newIdentity _

theorem keeps_jitter (factor delay : Scalar) :
    (environment.jitter factor delay).Keeps relation := by
  apply Keeps.bind (keeps_calculate ignores.newIdentity _)
  intro spread
  apply Keeps.bind (keeps_calculate ignores.newIdentity _)
  intro low
  apply Keeps.bind (keeps_calculate ignores.newIdentity _)
  intro high
  apply Keeps.bind (ignores.keeps_uniform low high)
  intro value
  exact keeps_pure _

theorem keeps_delay (backoff : Backoff) (attempt : Int) :
    (environment.delay backoff attempt).Keeps relation := by
  induction backoff with
  | constant delay => exact keeps_pure delay
  | linear base cap => exact keeps_calculate ignores.newIdentity _
  | exponential base multiplier cap => exact keeps_calculate ignores.newIdentity _
  | fibonacci base cap => exact keeps_calculate ignores.newIdentity _
  | randomized inner factor induction =>
      exact Keeps.bind induction fun delay => ignores.keeps_jitter factor delay
  | custom function => exact ignores.interval function attempt

end IgnoresQuestions

end Environment

/-! ## The caller's code -/

namespace World

/-- The relation tolerates whatever the caller's code does while no number is drawn. -/
structure ToleratesCode (relation : World σ → World σ → Prop) : Prop where
  observe : ∀ world observation, observation.IsFromCode →
    relation world (world.observe observation)
  cancel : ∀ world call, relation world (world.changeProgress call .cancel)
  register : ∀ world publisher kinds listener,
    relation world (world.register publisher kinds listener)
  remember : ∀ (world : World σ) memory, relation world { world with memory }
  newIdentity : ∀ world : World σ, relation world { world with failures := world.failures + 1 }

namespace ToleratesCode

open Reattempt.Action

variable {relation : World σ → World σ → Prop} (tolerates : ToleratesCode relation)

include tolerates

theorem keeps_observe (observation : Observation) (fromCode : observation.IsFromCode) :
    (Action.observe observation : Action σ Unit).Keeps relation :=
  fun world => tolerates.observe world observation fromCode

theorem keeps_log (level : LogLevel) (source : LogSource) (message : String)
    (fields : List (String × Value)) :
    (log level source message fields : Action σ Unit).Keeps relation :=
  fun world => tolerates.observe world (.logged _) trivial

theorem keeps_fail (type : FailureType) (message : String) :
    (fail type message : Action σ α).Keeps relation :=
  fun world => tolerates.newIdentity world

variable [IsPreorder (World σ) relation]

theorem keeps_cancel (call : Nat) : (Action.cancel call : Action σ Unit).Keeps relation := by
  have cancelled : (Action.changeProgress call .cancel : Action σ Unit).Keeps relation :=
    fun world => tolerates.cancel world call
  apply Keeps.bind cancelled
  intro _
  refine Keeps.bind (keeps_progressOf call) fun progress => ?_
  split
  · exact tolerates.keeps_fail _ _
  · exact keeps_pure ()

theorem keeps_perform {deliver : Nat → Event → Action σ Unit}
    (delivers : ∀ publisher event, (deliver publisher event).Keeps relation)
    (behaviour : Behaviour σ α) : (behaviour.perform deliver).Keeps relation := by
  induction behaviour with
  | answer value => exact keeps_pure value
  | raise failure => exact keeps_throw failure
  | look next induction =>
      intro world
      exact induction world.toSituation world.memory world
  | remember memory next induction =>
      exact Keeps.bind (fun world => tolerates.remember world memory) fun _ => induction
  | cancel call next induction =>
      exact Keeps.bind (tolerates.keeps_cancel call) fun _ => induction
  | listen publisher kinds listener next induction =>
      exact Keeps.bind (fun world => tolerates.register world publisher kinds listener)
        fun _ => induction
  | publish publisher event next induction =>
      exact Keeps.bind (delivers publisher event) fun _ => induction
  | note remark next induction =>
      exact Keeps.bind (tolerates.keeps_observe (.remarked remark) trivial) fun _ => induction

variable (environment : Environment σ)

theorem keeps_notify {deliver : Nat → Event → Action σ Unit}
    (delivers : ∀ publisher event, (deliver publisher event).Keeps relation) (publisher : Nat)
    (event : Event) (kind : EventKind) (listener : Listener) :
    (environment.notify deliver publisher event kind listener).Keeps relation := by
  apply keeps_get_bind
  intro world
  apply Keeps.bind
    (tolerates.keeps_observe (.delivered publisher listener event world.links) trivial)
  intro _
  apply Keeps.tryCatch (tolerates.keeps_perform delivers _)
  intro failure
  split
  · exact Keeps.bind (keeps_write tolerates.newIdentity _) fun text =>
      tolerates.keeps_log _ _ _ _
  · exact keeps_throw failure

theorem keeps_deliverWithin (depth publisher : Nat) (event : Event) :
    (environment.deliverWithin depth publisher event).Keeps relation := by
  induction depth generalizing publisher event with
  | zero => exact tolerates.keeps_fail _ _
  | succ depth induction =>
      unfold Environment.deliverWithin
      split
      · exact tolerates.keeps_fail _ _
      · next kind _ =>
          apply keeps_get_bind
          intro world
          exact keeps_forM fun listener _ =>
            tolerates.keeps_notify environment induction publisher event kind listener

theorem keeps_publish (publisher : Nat) (event : Event) :
    (environment.publish publisher event).Keeps relation :=
  tolerates.keeps_deliverWithin environment _ publisher event

theorem keeps_run (behaviour : Behaviour σ α) : (environment.run behaviour).Keeps relation :=
  tolerates.keeps_perform (tolerates.keeps_publish environment) behaviour

end ToleratesCode

/-- The relation tolerates whatever the caller's code does by itself. -/
structure IgnoresCode (relation : World σ → World σ → Prop) : Prop where
  observe : ∀ world observation, observation.IsOutside →
    relation world (world.observe observation)
  cancel : ∀ world call, relation world (world.changeProgress call .cancel)
  register : ∀ world publisher kinds listener,
    relation world (world.register publisher kinds listener)
  remember : ∀ (world : World σ) memory, relation world { world with memory }
  newIdentity : ∀ world : World σ, relation world { world with failures := world.failures + 1 }

namespace IgnoresCode

open Reattempt.Action

variable {relation : World σ → World σ → Prop} (ignores : IgnoresCode relation)

include ignores

theorem toleratesCode : ToleratesCode relation where
  observe world observation fromCode := ignores.observe world observation fromCode.isOutside
  cancel := ignores.cancel
  register := ignores.register
  remember := ignores.remember
  newIdentity := ignores.newIdentity

variable [IsPreorder (World σ) relation] (environment : Environment σ)

theorem keeps_publish (publisher : Nat) (event : Event) :
    (environment.publish publisher event).Keeps relation :=
  ignores.toleratesCode.keeps_publish environment publisher event

theorem keeps_run (behaviour : Behaviour σ α) : (environment.run behaviour).Keeps relation :=
  ignores.toleratesCode.keeps_run environment behaviour

theorem questions : environment.IgnoresQuestions relation where
  drawn world _ _ := ignores.observe world _ trivial
  newIdentity := ignores.newIdentity
  predicate _ _ := ignores.keeps_run environment _
  interval _ _ := ignores.keeps_run environment _
  draw _ _ := ignores.keeps_run environment _

end IgnoresCode

theorem ignoresCode_outside : IgnoresCode (σ := σ) Outside where
  observe := Outside.observe
  cancel := Outside.cancel
  register := Outside.register
  remember := Outside.remember
  newIdentity := Outside.newIdentity

end World

open World

theorem Action.keeps_raise (failure : Option Failure) :
    (raise failure : Action σ α).Keeps Outside := by
  cases failure with
  | none => exact ignoresCode_outside.toleratesCode.keeps_fail _ _
  | some failure => exact keeps_throw failure

theorem Action.keeps_cancel (call : Nat) : (cancel call : Action σ Unit).Keeps Outside :=
  ignoresCode_outside.toleratesCode.keeps_cancel call

theorem Behaviour.keeps_perform {deliver : Nat → Event → Action σ Unit}
    (delivers : ∀ publisher event, (deliver publisher event).Keeps Outside)
    (behaviour : Behaviour σ α) : (behaviour.perform deliver).Keeps Outside :=
  ignoresCode_outside.toleratesCode.keeps_perform delivers behaviour

namespace Environment

variable (environment : Environment σ)

theorem keeps_deliverWithin (depth publisher : Nat) (event : Event) :
    (environment.deliverWithin depth publisher event).Keeps Outside :=
  ignoresCode_outside.toleratesCode.keeps_deliverWithin environment depth publisher event

theorem keeps_publish (publisher : Nat) (event : Event) :
    (environment.publish publisher event).Keeps Outside :=
  ignoresCode_outside.keeps_publish environment publisher event

theorem keeps_run (behaviour : Behaviour σ α) : (environment.run behaviour).Keeps Outside :=
  ignoresCode_outside.keeps_run environment behaviour

theorem keeps_isRetryable (config : Config) (failure : Option Failure) :
    (environment.isRetryable config failure).Keeps Outside :=
  (ignoresCode_outside.questions environment).keeps_isRetryable config failure

theorem keeps_delay (backoff : Backoff) (attempt : Int) :
    (environment.delay backoff attempt).Keeps Outside :=
  (ignoresCode_outside.questions environment).keeps_delay backoff attempt

end Environment

end Reattempt
