import Reattempt.Engine.Execution

/-! A registry of policies by name. Asking for a name creates its policy once; later
requests get the same policy, whatever configuration they bring. -/

namespace Reattempt

structure Registry where
  default : SharedConfig
  policies : OrderedMap String Policy

namespace Registry

variable {σ : Type}

def create (default? : Option SharedConfig) : Action σ Registry := do
  let default ← match default? with
    | some shared => pure shared
    | none => Action.share .default
  return { default, policies := .empty }

def contains (registry : Registry) (name : String) : Bool :=
  registry.policies.contains name

def size (registry : Registry) : Nat :=
  registry.policies.size

def find? (registry : Registry) (name : String) : Option Policy :=
  registry.policies.find? name

def remove (registry : Registry) (name : String) : Registry :=
  { registry with policies := registry.policies.erase name }

def all (registry : Registry) : List Policy :=
  registry.policies.values

def obtain (registry : Registry) (name : String) (shared? : Option SharedConfig) :
    Action σ (Policy × Registry) := do
  match registry.find? name with
  | none =>
      let policy ← Action.newPolicy name (some (shared?.getD registry.default)) false
      Action.log .debug .registry s!"Registered retry '{name}'"
      return (policy, { registry with policies := registry.policies.set name policy })
  | some policy =>
      match shared? with
      | some shared =>
          if shared.number ≠ policy.shared.number then
            Action.log .debug .registry
              s!"Retry '{name}' already registered, ignoring the given config"
      | none => pure ()
      return (policy, registry)

end Registry

end Reattempt
