import Hotplug.Capability
import Hotplug.Value

/-!
# Devices

A device answers questions about itself by steps of some monad `m`, since an
answer may have to be fetched from a service. It reports its capabilities, and
its properties are asked for by capability and name.
-/

namespace Hotplug

inductive Reach where
  /-- Only what is known already. -/
  | known
  /-- The service is asked when the value is not known. -/
  | fetched
  deriving DecidableEq, Repr

/-- A device, by its answers. -/
structure Device (m : Type → Type) where
  udi : String
  parent : m (Option String)
  vendor : m String
  product : m String
  description : m String
  icon : m String
  /-- The set of capabilities that the device has now. -/
  capabilities : m (List Capability)
  property : Capability → String → Reach → m (Option Value)

namespace Device

variable {m n : Type → Type} [Monad m]

/-- Whether the device has a capability. -/
def reports (device : Device m) (capability : Capability) : m Bool := do
  return (← device.capabilities).contains capability

/-- The device as it answers within another monad, given how answers of each
type are taken there. -/
def within (device : Device m) (onText : m String → n String)
    (onParent : m (Option String) → n (Option String))
    (onSet : m (List Capability) → n (List Capability))
    (onValue : m (Option Value) → n (Option Value)) : Device n where
  udi := device.udi
  parent := onParent device.parent
  vendor := onText device.vendor
  product := onText device.product
  description := onText device.description
  icon := onText device.icon
  capabilities := onSet device.capabilities
  property capability name reach :=
    onValue (device.property capability name reach)

end Device

/-- One property that was asked for. -/
structure PropertyRead where
  capability : Capability
  property : String
  reach : Reach
  deriving DecidableEq, Repr

/-- A device whose answers never change. It answers properties from its table
whether or not it reports their capability. -/
structure FixedDevice where
  udi : String
  parent : Option String
  vendor : String
  capabilities : List Capability
  /-- Later entries win over earlier ones. -/
  properties : List (Capability × String × Value)
  deriving DecidableEq, Repr

namespace FixedDevice

def lookup (fixed : FixedDevice) (capability : Capability) (name : String) :
    Option Value :=
  (fixed.properties.reverse.find? fun entry =>
    entry.1 == capability && entry.2.1 == name).map (·.2.2)

/-- The device, with a note taken of every property it is asked for. -/
def device {m : Type → Type} [Monad m] (fixed : FixedDevice)
    (note : PropertyRead → m Unit) :
    Device m where
  udi := fixed.udi
  parent := pure fixed.parent
  vendor := pure fixed.vendor
  product := pure ""
  description := pure ""
  icon := pure ""
  capabilities := pure fixed.capabilities
  property capability name reach := do
    note ⟨capability, name, reach⟩
    return fixed.lookup capability name

/-- The device in a monad whose state is the list of its reads, oldest first. -/
def observed (fixed : FixedDevice) : Device (StateM (List PropertyRead)) :=
  fixed.device fun read => modify fun reads => reads ++ [read]

end FixedDevice

end Hotplug
