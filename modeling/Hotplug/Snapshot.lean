import Hotplug.Value

/-!
# Snapshots of devices

What is cached of one device: its interfaces by name, and for each of them what
is known of its properties.
-/

namespace Hotplug

/-- What is known of one property. -/
inductive Slot where
  | resolved (value : Value)
  /-- It exists, but has to be fetched before use. -/
  | unresolved
  /-- It does not exist, or could not be fetched; it is not asked for again. -/
  | absent
  deriving DecidableEq, Repr

namespace Slot

def value? : Slot → Option Value
  | resolved value => some value
  | _ => none

def isUnresolved : Slot → Bool
  | unresolved => true
  | _ => false

end Slot

/-- The cached interfaces of one device. -/
structure Snapshot where
  interfaces : Named (Named Slot) := ∅
  deriving DecidableEq

namespace Snapshot

def empty : Snapshot := {}

/-- Properties whose values are all known. -/
def resolvedSlots (properties : Properties) : Named Slot :=
  properties.map fun _ value => Slot.resolved value

/-- Put an interface in place of whatever has its name. -/
def put (snapshot : Snapshot) (interface : String) (properties : Properties) :
    Snapshot :=
  ⟨snapshot.interfaces.insert interface (resolvedSlots properties)⟩

def ofInterfaces (interfaces : Interfaces) : Snapshot :=
  ⟨interfaces.map fun _ properties => resolvedSlots properties⟩

def hasInterface (snapshot : Snapshot) (interface : String) : Bool :=
  snapshot.interfaces.contains interface

def drop (snapshot : Snapshot) (interface : String) : Snapshot :=
  ⟨snapshot.interfaces.erase interface⟩

/-- Store a slot, with the interface if it is missing. -/
def set (snapshot : Snapshot) (interface property : String) (slot : Slot) :
    Snapshot :=
  ⟨snapshot.interfaces.insert interface
    ((snapshot.interfaces[interface]?.getD ∅).insert property slot)⟩

/-- Store a slot if the interface is there. -/
def update (snapshot : Snapshot) (interface property : String) (slot : Slot) :
    Snapshot :=
  ⟨snapshot.interfaces.modify interface fun slots => slots.insert property slot⟩

def slot? (snapshot : Snapshot) (interface property : String) :
    Option Slot := do
  (← snapshot.interfaces[interface]?)[property]?

/-- The first interface in name order that has a slot for a property. -/
def carrier? (snapshot : Snapshot) (property : String) : Option String :=
  (snapshot.interfaces.toList.find? fun entry => entry.2.contains property).map
    (·.1)

def names (snapshot : Snapshot) : List String := snapshot.interfaces.keys

def size (snapshot : Snapshot) : Nat := snapshot.interfaces.size

def isEmpty (snapshot : Snapshot) : Bool := snapshot.interfaces.isEmpty

/-- The known values alone. -/
def values (snapshot : Snapshot) : Interfaces :=
  snapshot.interfaces.map fun _ slots => slots.filterMap
    fun _ slot => slot.value?

end Snapshot

end Hotplug
