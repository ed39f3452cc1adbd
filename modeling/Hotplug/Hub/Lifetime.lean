import Hotplug.Hub.Query

/-!
# The life of a registry

A context makes its registry when it is first asked for it, and asks a factory
for the backends. A factory that fails is asked again the next time. Once a
context is torn down, it stays so.
-/

namespace Hotplug

inductive Phase where
  | uninitialized
  | ready
  | tornDown
  deriving DecidableEq, Repr

/-- Why a context has no registry to give. -/
inductive OpenError where
  | tornDown
  /-- The factory did not make the backends. -/
  | backendFactory (reason : String)
  deriving DecidableEq, Repr

namespace OpenError

def message : OpenError → String
  | tornDown => "Registry context has been torn down"
  | backendFactory reason => "Backend factory failed: " ++ reason

end OpenError

namespace Phase

def name : Phase → String
  | uninitialized => "uninitialized"
  | ready => "ready"
  | tornDown => "torn down"

def describe (phase : Phase) : String :=
  "RegistryContext \x7b state: \"" ++ phase.name ++ "\" \x7d"

end Phase

namespace Hub

variable {n : Nat} {β ο κ ω : Type}

/-- Start a registry afresh over some of the backends. -/
def attach (roster : List (Fin n)) (hub : Hub n β ο κ ω) : Hub n β ο κ ω :=
  { hub with registry := { roster := roster } }

/-- Release the backends and the subscribers. Handles that are still around
become invalid. -/
def shutDown (hub : Hub n β ο κ ω) : Hub n β ο κ ω :=
  { hub with
    registry :=
      { roster := []
        slots := hub.registry.slots.detachAll
        audience := hub.registry.audience.clear } }

variable [Backend β ο]

/-- Ask a context for its registry. The factory answers the backends to
attach. -/
def openRegistry
    (factory : Run (Hub n β ο κ ω) (Except OpenError (List (Fin n)))) :
    Phase → Run (Hub n β ο κ ω) (Phase × Except OpenError Unit)
  | .ready => return (.ready, .ok ())
  | .tornDown => return (.tornDown, .error .tornDown)
  | .uninitialized => do
      match ← factory with
      | .error error => return (.uninitialized, .error error)
      | .ok roster =>
          modify (attach roster)
          let _ ← reload
          return (.ready, .ok ())

/-- Tear a context down, and its registry if there is one. -/
def close : Phase → Run (Hub n β ο κ ω) Phase
  | .ready => do
      modify shutDown
      return .tornDown
  | _ => return .tornDown

end Hub

end Hotplug
