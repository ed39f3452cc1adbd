import Hotplug.Named
import Hotplug.Text.Case

/-!
# Capabilities

What a device can do for its user. Capabilities are ordered as they are
declared, and a set of them is the list of its members in that order.
-/

namespace Hotplug

/-- A typed interface that a device may report. -/
inductive Capability where
  | unknown
  | genericInterface
  | processor
  | block
  | storageAccess
  | storageDrive
  | opticalDrive
  | storageVolume
  | opticalDisc
  | camera
  | portableMediaPlayer
  | battery
  | networkShare
  deriving DecidableEq, Repr

/-- A name that no capability has. -/
structure UnknownCapability where
  name : String
  deriving DecidableEq, Repr

namespace UnknownCapability

def message (error : UnknownCapability) : String :=
  "Unknown interface type: " ++ error.name

end UnknownCapability

namespace Capability

def name : Capability → String
  | unknown => "Unknown"
  | genericInterface => "GenericInterface"
  | processor => "Processor"
  | block => "Block"
  | storageAccess => "StorageAccess"
  | storageDrive => "StorageDrive"
  | opticalDrive => "OpticalDrive"
  | storageVolume => "StorageVolume"
  | opticalDisc => "OpticalDisc"
  | camera => "Camera"
  | portableMediaPlayer => "PortableMediaPlayer"
  | battery => "Battery"
  | networkShare => "NetworkShare"

/-- Every capability that a device can be known to have, in order. -/
def known : List Capability :=
  [genericInterface, processor, block, storageAccess,
    storageDrive, opticalDrive,
    storageVolume, opticalDisc, camera, portableMediaPlayer,
      battery, networkShare]

/-- Every capability in order. -/
def every : List Capability := unknown :: known

def rank (capability : Capability) : Nat := every.idxOf capability

/-- Every capability in order, after its name in lower case. -/
def byLoweredName : List (List Char × Capability) :=
  every.map fun capability => (Text.lowered capability.name, capability)

/-- The capability of a name in any case. -/
def ofName (text : String) : Except UnknownCapability Capability :=
  match byLoweredName.lookup (Text.lowered text) with
  | some capability => .ok capability
  | none => .error ⟨text⟩

/-- The set of the capabilities with a property. -/
def collect (member : Capability → Bool) : List Capability :=
  every.filter member

def toSet (capabilities : List Capability) : List Capability :=
  collect fun capability => capabilities.contains capability

/-- The capabilities of a list in order, with their repetitions. -/
def sort (capabilities : List Capability) : List Capability :=
  every.flatMap fun capability => capabilities.filter (· == capability)

theorem mem_every (capability : Capability) : capability ∈ every := by
  cases capability <;> decide

@[simp] theorem mem_collect {member : Capability → Bool}
    {capability : Capability} :
    capability ∈ collect member ↔ member capability = true := by
  simp [collect, mem_every]

@[simp] theorem mem_toSet {capabilities : List Capability}
    {capability : Capability} :
    capability ∈ toSet capabilities ↔ capability ∈ capabilities := by
  simp [toSet]

end Capability

end Hotplug
