import Hotplug.Cache
import Hotplug.Device

/-!
# Fetching properties

A property that is not known is fetched from the service at most once: the
answer is kept, and so is a failure. While a property is being fetched it is
claimed, so that others who ask for it wait for the answer. The claim is given
up when the service has answered, and also when it has crashed.
-/

namespace Hotplug

namespace Cache

variable {σ : Type}

/-- What a reader learns when it first looks. -/
inductive Glance where
  /-- There is an answer, and nothing to fetch. -/
  | settled (answer : Option Value)
  /-- Another reader is fetching the property. -/
  | busy
  /-- The reader has to fetch the property. -/
  | free
  deriving DecidableEq, Repr

/-- Look at one property. Devices that are not tracked, and interfaces that a
device does not have, are not asked for. -/
def glance (cache : Cache σ) (key : PropertyKey) (reach : Reach) : Glance :=
  match cache.devices[key.udi]? with
  | none => .settled none
  | some snapshot =>
      if snapshot.hasInterface key.interface then
        match snapshot.slot? key.interface key.property with
        | some (.resolved value) => .settled (some value)
        | some .absent => .settled none
        | _ =>
            if reach = .known then .settled none
            else if cache.inflight.contains key then .busy
            else .free
      else .settled none

def claim (key : PropertyKey) (cache : Cache σ) : Cache σ :=
  { cache with inflight := key :: cache.inflight }

def release (key : PropertyKey) (cache : Cache σ) : Cache σ :=
  { cache with inflight := cache.inflight.erase key }

/-- Keep the answer of the service, if the interface is still there. -/
def storeSlot (key : PropertyKey) (slot : Slot) (cache : Cache σ) : Cache σ :=
  cache.onDevice key.udi fun snapshot => snapshot.update key.interface
    key.property slot

/-- What an answer of the service leaves to be known. -/
def slotOf : Except ServiceError Value → Slot
  | .ok value => .resolved value.plain
  | .error _ => .absent

variable [Service σ]

/-- Ask the service for a claimed property and keep its answer. -/
def fetchClaimed (key : PropertyKey) : Run (Cache σ) (Option Value) := do
  let slot := slotOf (← call (Service.getProperty key))
  modify (storeSlot key slot)
  return slot.value?

/-- Read one property. A single reader never finds its property busy, for every
claim is given up before the reader that made it returns. -/
def read (key : PropertyKey) (reach : Reach) :
    Run (Cache σ) (Option Value) := do
  match (← get).glance key reach with
  | .settled answer => return answer
  | .busy => return none
  | .free =>
      modify (claim key)
      (fetchClaimed key).ensuring (release key)

/-- Read a property from the first interface that has a slot for it. -/
def readAnywhere (udi property : String) (reach : Reach) :
    Run (Cache σ) (Option Value) := do
  match (← get).devices[udi]?.bind
      fun snapshot => snapshot.carrier? property with
  | none => return none
  | some interface => read ⟨udi, interface, property⟩ reach

end Cache

end Hotplug
