import Hotplug.Backend

/-!
# Backends of fixed devices

A table of devices that never change. Identifiers that are listed need not be in
the table, and events are those that were queued by hand.
-/

namespace Hotplug

/-- Fixed devices by identifier. -/
structure TableBackend where
  descriptor : Descriptor
  devices : Named (Kept FixedDevice) := ∅
  /-- Identifiers that are listed after those of the table in every listing. -/
  extraIds : List String := []
  queue : List DeviceEvent := []
  /-- Whether events are kept back for ever. -/
  silent : Bool := false
  nextSerial : Nat := 0

namespace TableBackend

/-- Put a device in place of whatever has its identifier. -/
def insert (backend : TableBackend) (fixed : FixedDevice) : TableBackend :=
  { backend with
    devices := backend.devices.insert fixed.udi ⟨backend.nextSerial, fixed⟩
    nextSerial := backend.nextSerial + 1 }

def erase (backend : TableBackend) (udi : String) : TableBackend :=
  { backend with devices := backend.devices.erase udi }

def enqueue (backend : TableBackend) (event : DeviceEvent) : TableBackend :=
  { backend with queue := backend.queue ++ [event] }

def hasParent (fixed : FixedDevice) : Option String → Bool
  | none => true
  | some parent => fixed.parent == some parent

def hasCapability (fixed : FixedDevice) : Option Capability → Bool
  | none => true
  | some capability => fixed.capabilities.contains capability

/-- The listed identifiers under a parent and with a capability. -/
def select (backend : TableBackend) (parent : Option String)
    (capability : Option Capability) :
    List String :=
  (backend.devices.toList.filter fun entry =>
    hasParent entry.2.object parent &&
      hasCapability entry.2.object capability).map (·.1) ++ backend.extraIds

end TableBackend

instance : Backend TableBackend FixedDevice where
  descriptor backend := backend.descriptor
  reload := do return (← get).select none none
  objectOf udi := do return (← get).devices[udi]?
  list parent capability := do return (← get).select parent capability
  drain := do
    let backend ← get
    if backend.silent then return []
    else
      set { backend with queue := [] }
      return backend.queue
  keeps backend serial := backend.devices.values.any
    fun kept => kept.serial == serial
  device fixed := fixed.device fun _ => pure ()

end Hotplug
