import Hotplug.Cache
import Hotplug.Service.Memory

/-!
# A service with rehearsed failures

A service in memory that can be told to fail or crash at chosen calls. A call is
recorded before it fails.
-/

namespace Hotplug

/-- A question about removable media: the device, the interface, and whether
what is cached of the device was shown. -/
structure Consultation where
  udi : String
  interface : String
  cachedShown : Bool
  deriving DecidableEq, Repr

/-- A service in memory and the failures planned for it. -/
structure RehearsedService where
  memory : MemoryService := {}
  failingObjects : Bool := false
  failingProperties : List PropertyKey := []
  /-- The next question for one property crashes the service, once. -/
  crashNext : Bool := false
  /-- What was asked about removable media, oldest first. -/
  consultations : List Consultation := []

namespace RehearsedService

def onMemory (change : MemoryService → MemoryService)
    (service : RehearsedService) :
    RehearsedService :=
  { service with memory := change service.memory }

/-- A judge that gives the same verdict on every device, and notes what it is
asked. -/
def noting (verdict : Bool) : MediaJudge RehearsedService :=
  fun udi interface cached => do
  modify fun service => { service with
    consultations := service.consultations ++
      [⟨udi, interface, cached.isSome⟩] }
  return verdict

end RehearsedService

instance : Service RehearsedService where
  managedObjects := do
    modify (RehearsedService.onMemory
      fun memory => memory.record .managedObjects)
    let service ← get
    if service.failingObjects then return .error (.transport "managed")
    else return .ok service.memory.objects
  getProperty key := do
    modify (RehearsedService.onMemory
      fun memory => memory.record (.getProperty key))
    let service ← get
    if service.crashNext then
      set { service with crashNext := false }
      Run.crash "service crashed"
    else if service.failingProperties.contains key then
      return .error (.transport "get")
    else return service.memory.answerProperty key
  getAll udi interface := do
    modify (RehearsedService.onMemory
      fun memory => memory.record (.getAll udi interface))
    return (← get).memory.answerAll udi interface

end Hotplug
