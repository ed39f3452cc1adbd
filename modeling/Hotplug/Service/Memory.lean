import Hotplug.Config
import Hotplug.Service

/-!
# A service in memory

It holds its objects, records the calls made to it, and can be told to refuse
some of them. Each change of its objects comes with the signal that announces
it.
-/

namespace Hotplug

structure MemoryService where
  objects : Objects := ∅
  /-- Properties that cannot be asked for one by one. -/
  hidden : List PropertyKey := []
  /-- Interfaces whose properties cannot be asked for all at once. -/
  failingInterfaces : List String := []
  /-- The calls so far, oldest first. -/
  calls : List ServiceCall := []

namespace MemoryService

def record (service : MemoryService) (call : ServiceCall) : MemoryService :=
  { service with calls := service.calls ++ [call] }

/-- Put an object in place of whatever has its identifier, without a signal. -/
def put (service : MemoryService) (udi : String) (interfaces : Interfaces) :
    MemoryService :=
  { service with objects := service.objects.insert udi interfaces }

/-- Add interfaces to an object, which is made if there is none, or replace
them. -/
def add (service : MemoryService) (udi : String) (interfaces : Interfaces) :
    Signal × MemoryService :=
  let present := service.objects[udi]?.getD ∅
  (.interfacesAdded udi interfaces,
    service.put udi
      (interfaces.toList.foldl
        (fun merged entry => merged.insert entry.1 entry.2) present))

/-- Take interfaces from an object. An object without interfaces is gone. -/
def remove (service : MemoryService) (udi : String) (interfaces : List String) :
    Signal × MemoryService :=
  let left : MemoryService :=
    match service.objects[udi]? with
    | none => service
    | some present =>
        let remaining := interfaces.foldl
          (fun rest interface => rest.erase interface) present
        if remaining.isEmpty then
          { service with objects := service.objects.erase udi }
        else service.put udi remaining
  (.interfacesRemoved udi interfaces, left)

/-- Store a property, with the object and the interface if they are missing. -/
def store (service : MemoryService) (key : PropertyKey) (value : Value) :
    MemoryService :=
  let interfaces := service.objects[key.udi]?.getD ∅
  let properties := interfaces[key.interface]?.getD ∅
  service.put key.udi
    (interfaces.insert key.interface (properties.insert key.property value))

/-- Change a property and announce its value. -/
def change (service : MemoryService) (key : PropertyKey) (value : Value) :
    Signal × MemoryService :=
  (.propertiesChanged key.udi key.interface
    ((∅ : Properties).insert key.property value) [], service.store key value)

/-- Change a property and announce only that it has changed. -/
def changeQuietly (service : MemoryService) (key : PropertyKey)
    (value : Value) :
    Signal × MemoryService :=
  (.propertiesChanged key.udi key.interface ∅ [key.property],
    service.store key value)

def hide (service : MemoryService) (key : PropertyKey) : MemoryService :=
  { service with hidden := key :: service.hidden }

def refuseInterface (service : MemoryService) (interface : String) :
    MemoryService :=
  { service with failingInterfaces := interface :: service.failingInterfaces }

def forgetCalls (service : MemoryService) : MemoryService :=
  { service with calls := [] }

def fetchCount (service : MemoryService) (key : PropertyKey) : Nat :=
  service.calls.count (.getProperty key)

/-- The properties of an interface of an object. -/
def propertiesOf (service : MemoryService) (udi interface : String) :
    Except ServiceError Properties :=
  match service.objects[udi]? with
  | none => .error (.unknownObject udi)
  | some interfaces =>
      match interfaces[interface]? with
      | none => .error (.unknownInterface udi interface)
      | some properties => .ok properties

def answerProperty (service : MemoryService) (key : PropertyKey) :
    Except ServiceError Value := do
  let properties ← service.propertiesOf key.udi key.interface
  let missing := ServiceError.unknownProperty key.udi key.interface key.property
  if service.hidden.contains key then .error missing
  else
    match properties[key.property]? with
    | some value => .ok value
    | none => .error missing

/-- The answer to a question for all properties of an interface. -/
def answerAll (service : MemoryService) (udi interface : String) :
    Except ServiceError Properties :=
  if service.failingInterfaces.contains interface then
    .error (.transport ("GetAll(" ++ interface ++ ") failed"))
  else service.propertiesOf udi interface

end MemoryService

instance : Service MemoryService where
  managedObjects := do
    modify fun service => service.record .managedObjects
    return .ok (← get).objects
  getProperty key := do
    modify fun service => service.record (.getProperty key)
    return (← get).answerProperty key
  getAll udi interface := do
    modify fun service => service.record (.getAll udi interface)
    return (← get).answerAll udi interface

/-- A storage service whose names are short, for services that are made up. -/
def Config.compact : Config where
  identifierPrefix := "/s"
  trackedRoots := ["/s/b", "/s/d"]
  ignoredPrefixes := ["/s/j"]
  interfaceNamespace := some "s."
  baselineInterface := "s.Block"
  readinessInterface := "s.Filesystem"
  meanings := Std.ExtTreeMap.ofList [
    ("s.Block", Capability.block),
    ("s.Filesystem", Capability.storageAccess),
    ("s.Drive", Capability.storageDrive),
    ("s.Partition", Capability.storageVolume)]
  removableMedia := { driveInterface := "s.Drive" }

end Hotplug
