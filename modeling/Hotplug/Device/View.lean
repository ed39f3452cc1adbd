import Hotplug.Device
import Hotplug.Text.Quoted

/-!
# Typed views of devices

A view reads the properties of one capability under their own types. It can be
had only of a device that reports the capability.
-/

namespace Hotplug

/-- Mountable storage. -/
structure StorageView (m : Type → Type) where
  device : Device m

/-- The medium in an optical drive. -/
structure DiscView (m : Type → Type) where
  device : Device m

namespace StorageView

variable {m : Type → Type} [Monad m]

def mountPathProperty : String := "FilePath"

def accessibleProperty : String := "Accessible"

def ignoredProperty : String := "Ignored"

def read (view : StorageView m) (name : String) : m (Option Value) :=
  view.device.property .storageAccess name .fetched

/-- Where the storage is mounted, or the empty text. -/
def mountPath (view : StorageView m) : m String := do
  return ((← view.read mountPathProperty).bind Value.toText?).getD ""

def accessible (view : StorageView m) : m Bool := do
  return ((← view.read accessibleProperty).bind Value.toBool?).getD false

/-- Whether user interfaces should hide the storage. -/
def ignored (view : StorageView m) : m Bool := do
  return ((← view.read ignoredProperty).bind Value.toBool?).getD false

end StorageView

namespace DiscView

variable {m : Type → Type} [Monad m]

def read (view : DiscView m) (name : String) : m (Option Value) :=
  view.device.property .opticalDisc name .fetched

def flag (view : DiscView m) (name : String) : m Bool := do
  return ((← view.read name).bind Value.toBool?).getD false

def kind (view : DiscView m) : m (Option String) := do
  return (← view.read "DiscType").bind Value.toText?

/-- The kinds of content on the disc; a single text stands for a list of one. -/
def contents (view : DiscView m) : m (List String) := do
  match ← view.read "AvailableContent" with
  | some (.texts items) => return items
  | some (.text single) => return (if single = "" then [] else [single])
  | _ => return []

def appendable (view : DiscView m) : m Bool := view.flag "Appendable"

def blank (view : DiscView m) : m Bool := view.flag "Blank"

def rewritable (view : DiscView m) : m Bool := view.flag "Rewritable"

/-- The capacity in bytes, or zero. -/
def capacity (view : DiscView m) : m UInt64 := do
  return ((← view.read "Capacity").bind Value.toUInt64?).getD 0

end DiscView

namespace Device

variable {m : Type → Type} [Monad m]

def storage? (device : Device m) : m (Option (StorageView m)) := do
  return if ← device.reports .storageAccess then some ⟨device⟩ else none

def disc? (device : Device m) : m (Option (DiscView m)) := do
  return if ← device.reports .opticalDisc then some ⟨device⟩ else none

/-- The identifier and capabilities of a device for diagnostics. -/
def describe (device : Device m) : m String := do
  let names := (← device.capabilities).map Capability.name
  return "DeviceObject \x7b udi: " ++ Text.quoted device.udi ++
    ", interfaces: \x7b" ++ String.intercalate ", " names ++ "\x7d \x7d"

end Device

end Hotplug
