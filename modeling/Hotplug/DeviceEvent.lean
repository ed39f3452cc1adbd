import Hotplug.Named

/-!
# Device events

What subscribers are told: a device has appeared, has disappeared, or some of
its properties have changed.
-/

namespace Hotplug

inductive Change where
  | modified
  | added
  | removed
  deriving DecidableEq, Repr

abbrev Changes := Named Change

/-- A device that changes its composition is removed and added again. -/
inductive DeviceEvent where
  | added (udi : String)
  | removed (udi : String)
  | changed (udi : String) (changes : Changes)
  deriving DecidableEq

namespace DeviceEvent

def udi : DeviceEvent → String
  | added udi => udi
  | removed udi => udi
  | changed udi _ => udi

/-- The changes that an event carries, if it is of the kind that carries any. -/
def changes? : DeviceEvent → Option Changes
  | changed _ changes => some changes
  | _ => none

def applyTo (tracked : String → Bool) : DeviceEvent → String → Bool
  | added udi => fun other => other == udi || tracked other
  | removed udi => fun other => other != udi && tracked other
  | changed _ _ => tracked

def replay (tracked : String → Bool) (events : List DeviceEvent) :
    String → Bool :=
  events.foldl applyTo tracked

end DeviceEvent

end Hotplug
