import Hotplug.Backend
import Hotplug.Device.View
import Hotplug.Hub.HandleTable
import Hotplug.Hub.Audience

/-!
# The hub of all devices

A hub joins a fixed number of backends. Its registry routes each identifier to
the first attached backend whose prefix the identifier starts with, and hands
out counted handles that share one slot for each identifier.
-/

namespace Hotplug

/-- A reference to an object of one of `n` backends, which does not keep it
alive. -/
structure ObjectRef (n : Nat) (ο : Type) where
  backend : Fin n
  kept : Kept ο

namespace ObjectRef

def sameObject {n : Nat} {ο : Type} (left right : ObjectRef n ο) : Bool :=
  left.backend == right.backend && left.kept.serial == right.kept.serial

end ObjectRef

/-- What a registry keeps for its handles and subscribers. -/
structure Registry (n : Nat) (ο κ : Type) where
  /-- The attached backends in order of registration. -/
  roster : List (Fin n) := []
  slots : HandleTable (ObjectRef n ο) := ∅
  audience : Audience κ := {}

/-- Backends with states of type `β` and objects of type `ο`, and their
registry, whose subscribers have callbacks of type `κ`. What the subscribers
themselves keep is of type `ω`. -/
structure Hub (n : Nat) (β ο κ ω : Type) where
  backends : Vector β n
  registry : Registry n ο κ := {}
  /-- References of users who keep the objects alive by themselves. -/
  held : List (ObjectRef n ο) := []
  client : ω

/-- A counted reference to the device of an identifier, present or not. -/
structure Handle where
  udi : String
  /-- Whether the handle takes part in a registry. Only the null handle does
  not. -/
  bound : Bool
  deriving DecidableEq, Repr

namespace Handle

/-- The handle of the empty identifier. -/
def null : Handle := ⟨"", false⟩

/-- Whether two handles of one registry are for the same device. -/
def sameDevice (left right : Handle) : Bool := left == right

end Handle

namespace Hub

variable {n : Nat} {α β ο κ ω : Type}

def backendAt (i : Fin n) (hub : Hub n β ο κ ω) : β := hub.backends[i]

def withBackend (i : Fin n) (backend : β) (hub : Hub n β ο κ ω) :
    Hub n β ο κ ω :=
  { hub with backends := hub.backends.set i backend }

def atBackend (i : Fin n) (step : Run β α) : Run (Hub n β ο κ ω) α :=
  step.zoom (backendAt i) (withBackend i)

def onSlots (change : HandleTable (ObjectRef n ο) → HandleTable (ObjectRef n ο))
    (hub : Hub n β ο κ ω) : Hub n β ο κ ω :=
  { hub with registry := { hub.registry with
    slots := change hub.registry.slots } }

def onAudience (change : Audience κ → Audience κ) (hub : Hub n β ο κ ω) :
    Hub n β ο κ ω :=
  { hub with registry := { hub.registry with
    audience := change hub.registry.audience } }

/-- A change of the audience that has an answer. -/
def modifyAudience (change : Audience κ → α × Audience κ) :
    Run (Hub n β ο κ ω) α :=
  modifyGet fun hub =>
    let (answer, audience) := change hub.registry.audience
    (answer, hub.onAudience fun _ => audience)

/-- Count one more handle of a handle's slot. -/
def clone (handle : Handle) (hub : Hub n β ο κ ω) : Hub n β ο κ ω :=
  if handle.bound then hub.onSlots
    fun slots => (slots.acquire? handle.udi).getD slots else hub

def sharers (handle : Handle) (hub : Hub n β ο κ ω) : Nat :=
  if handle.bound then hub.registry.slots.sharers handle.udi else 0

def slotCount (hub : Hub n β ο κ ω) : Nat := hub.registry.slots.size

def hold (ref : ObjectRef n ο) (hub : Hub n β ο κ ω) : Hub n β ο κ ω :=
  { hub with held := ref :: hub.held }

/-- Keep an object alive no longer, as far as one earlier wish is concerned. -/
def letGo (ref : ObjectRef n ο) (hub : Hub n β ο κ ω) : Hub n β ο κ ω :=
  { hub with held := hub.held.eraseP ref.sameObject }

variable [Backend β ο]

/-- Whether an object is kept by its backend or held by a user. -/
def isAlive (hub : Hub n β ο κ ω) (ref : ObjectRef n ο) : Bool :=
  Backend.keeps (hub.backendAt ref.backend) ref.kept.serial ||
    hub.held.any ref.sameObject

def release (handle : Handle) (hub : Hub n β ο κ ω) : Hub n β ο κ ω :=
  if handle.bound then hub.onSlots (HandleTable.release hub.isAlive handle.udi)
    else hub

def releaseAll (handles : List Handle) (hub : Hub n β ο κ ω) : Hub n β ο κ ω :=
  handles.foldl (fun left handle => left.release handle) hub

def object? (handle : Handle) (hub : Hub n β ο κ ω) : Option (ObjectRef n ο) :=
  if handle.bound then hub.registry.slots.object? hub.isAlive handle.udi
    else none

def isValid (handle : Handle) (hub : Hub n β ο κ ω) : Bool :=
  (hub.object? handle).isSome

def descriptorAt (i : Fin n) (hub : Hub n β ο κ ω) : Descriptor :=
  Backend.descriptor (hub.backendAt i)

/-- The first attached backend that an identifier belongs to. -/
def route? (udi : String) (hub : Hub n β ο κ ω) : Option (Fin n) :=
  hub.registry.roster.find? fun i => (hub.descriptorAt i).owns udi

/-- A reference to the object of an identifier, which its backend makes if need
be. -/
def makeObject (udi : String) :
    Run (Hub n β ο κ ω) (Option (ObjectRef n ο)) := do
  match (← get).route? udi with
  | none => return none
  | some i =>
      return (← atBackend i (Backend.objectOf udi)).map fun kept => ⟨i, kept⟩

/-- The handle of an identifier. A slot that is there is used as it is. -/
def find (udi : String) : Run (Hub n β ο κ ω) Handle := do
  if udi = "" then return .null
  else
    match (← get).registry.slots.acquire? udi with
    | some slots => modify (onSlots fun _ => slots)
    | none =>
        let object ← makeObject udi
        modify fun hub => hub.onSlots
          (HandleTable.acquireWith hub.isAlive udi object)
    return ⟨udi, true⟩

def deviceAt (ref : ObjectRef n ο) : Device (Run (Hub n β ο κ ω)) :=
  (Backend.device ref.kept.object).within (atBackend ref.backend)
    (atBackend ref.backend) (atBackend ref.backend) (atBackend ref.backend)

/-- Ask the device behind a handle, or answer `absent` without one. -/
def ask (handle : Handle) (absent : α)
    (question : Device (Run (Hub n β ο κ ω)) → Run (Hub n β ο κ ω) α) :
    Run (Hub n β ο κ ω) α := do
  match (← get).object? handle with
  | none => return absent
  | some ref => question (deviceAt ref)

def capabilities (handle : Handle) : Run (Hub n β ο κ ω) (List Capability) :=
  ask handle [] fun device => device.capabilities

def reports (handle : Handle) (capability : Capability) :
    Run (Hub n β ο κ ω) Bool :=
  ask handle false fun device => device.reports capability

def property (handle : Handle) (capability : Capability) (name : String) :
    Run (Hub n β ο κ ω) (Option Value) :=
  ask handle none fun device => device.property capability name .fetched

def parentUdi (handle : Handle) : Run (Hub n β ο κ ω) (Option String) :=
  ask handle none fun device => device.parent

def vendor (handle : Handle) : Run (Hub n β ο κ ω) String :=
  ask handle "" fun device => device.vendor

def product (handle : Handle) : Run (Hub n β ο κ ω) String :=
  ask handle "" fun device => device.product

def description (handle : Handle) : Run (Hub n β ο κ ω) String :=
  ask handle "" fun device => device.description

def icon (handle : Handle) : Run (Hub n β ο κ ω) String :=
  ask handle "" fun device => device.icon

/-- A handle as a device, which answers nothing as long as there is no object
behind it. -/
def asDevice (handle : Handle) : Device (Run (Hub n β ο κ ω)) where
  udi := handle.udi
  parent := parentUdi handle
  vendor := vendor handle
  product := product handle
  description := description handle
  icon := icon handle
  capabilities := capabilities handle
  property capability name reach :=
    ask handle none fun device => device.property capability name reach

def parent (handle : Handle) : Run (Hub n β ο κ ω) Handle := do
  match ← parentUdi handle with
  | some udi => find udi
  | none => return .null

def storage? (handle : Handle) :
    Run (Hub n β ο κ ω) (Option (StorageView (Run (Hub n β ο κ ω)))) :=
  ask handle none fun device => device.storage?

def disc? (handle : Handle) :
    Run (Hub n β ο κ ω) (Option (DiscView (Run (Hub n β ο κ ω)))) :=
  ask handle none fun device => device.disc?

def describeHandle (handle : Handle) (hub : Hub n β ο κ ω) : String :=
  "DeviceHandle \x7b udi: " ++ Text.quoted handle.udi ++ ", valid: "
    ++ (if hub.isValid handle then "true" else "false") ++ " \x7d"

def attachedPrefixes (hub : Hub n β ο κ ω) : List String :=
  hub.registry.roster.map fun i => (hub.descriptorAt i).identifierPrefix

def describe (hub : Hub n β ο κ ω) : String :=
  "Registry \x7b backends: [" ++
    String.intercalate ", " (hub.attachedPrefixes.map Text.quoted)
    ++ "], handles: " ++ toString hub.slotCount ++ " \x7d"

end Hub

end Hotplug
