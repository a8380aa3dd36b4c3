import Reattempt.Proofs.Effect

/-! Two worlds that differ at most in how calls waited. The kinds of waits may differ,
and where one wait was interrupted by a failure of its kind, the causes recorded for
that may. The caller's code cannot tell such worlds apart, so it does the same in both
of them. -/

namespace Reattempt

variable {σ α β : Type}

/-- A blocking sleep and a suspended task are interrupted from outside by failures of
their own, and neither of these says by itself that a wait was interrupted. -/
structure FromOutside (blocking suspended : Failure) : Prop where
  interrupted : blocking.isA .interrupted = true
  cancelled : suspended.isA .cancelled = true
  blockingNew : blocking.isA .waitInterrupted = false
  suspendedNew : suspended.isA .waitInterrupted = false

def CausesAlike (left right : Option Failure) : Prop :=
  left = right ∨ ∃ blocking suspended, FromOutside blocking suspended ∧
    left = some blocking ∧ right = some suspended

namespace CallStep

def withoutKind : CallStep → CallStep
  | .waitSkipped _ interval => .waitSkipped .blocking interval
  | .waitBegun _ interval => .waitBegun .blocking interval
  | .waitOver _ interval => .waitOver .blocking interval
  | step => step

end CallStep

namespace Observation

def withoutKind : Observation → Observation
  | .ofCall call step => .ofCall call step.withoutKind
  | .delivered publisher listener event _ => .delivered publisher listener event .empty
  | observation => observation

end Observation

namespace World

structure Alike (left right : World σ) : Prop where
  situation : left.toSituation = right.toSituation
  memory : left.memory = right.memory
  tables : left.tables = right.tables
  policies : left.policies = right.policies
  publishers : left.publishers = right.publishers
  configs : left.configs = right.configs
  failures : left.failures = right.failures
  observed : left.observed.map Observation.withoutKind = right.observed.map Observation.withoutKind
  links : ∀ identity, CausesAlike (left.links.find? identity) (right.links.find? identity)

namespace Alike

theorem refl (world : World σ) : Alike world world where
  situation := rfl
  memory := rfl
  tables := rfl
  policies := rfl
  publishers := rfl
  configs := rfl
  failures := rfl
  observed := rfl
  links _ := .inl rfl

variable {left right : World σ} (alike : Alike left right)

include alike

theorem progressOf (call : Nat) : left.progressOf call = right.progressOf call := by
  rw [alike.situation]

theorem listenersOf (publisher : Nat) :
    left.listenersOf publisher = right.listenersOf publisher := by
  simp only [World.listenersOf, alike.tables]

/-! ## Changes made to both -/

theorem observe {first second : Observation} (same : first.withoutKind = second.withoutKind) :
    Alike (left.observe first) (right.observe second) :=
  { alike with
    observed := by simp only [World.observe, List.map_cons, same, alike.observed] }

theorem changeProgress (call : Nat) (change : Progress → Progress) :
    Alike (left.changeProgress call change) (right.changeProgress call change) :=
  { alike with
    situation := by simp only [World.changeProgress, alike.situation] }

theorem changeCounters (policy : Nat) (change : Counters → Counters) :
    Alike (left.changeCounters policy change) (right.changeCounters policy change) :=
  { alike with
    situation := by simp only [World.changeCounters, alike.situation] }

theorem register (publisher : Nat) (kinds : List EventKind) (listener : Listener) :
    Alike (left.register publisher kinds listener) (right.register publisher kinds listener) :=
  { alike with
    tables := by simp only [World.register, World.listenersOf, alike.tables] }

theorem remember (memory : σ) : Alike { left with memory } { right with memory } :=
  { alike with memory := rfl }

theorem newIdentity :
    Alike { left with failures := left.failures + 1 }
      { right with failures := right.failures + 1 } :=
  { alike with failures := by simp only [alike.failures] }

theorem link (failure : Failure) {first second : Failure}
    (causes : CausesAlike (some first) (some second)) :
    Alike (left.link failure first) (right.link failure second) :=
  { alike with
    links := by
      intro identity
      simp only [World.link, OrderedMap.find?_set]
      split
      · exact causes
      · exact alike.links identity }

end Alike

end World

end Reattempt
