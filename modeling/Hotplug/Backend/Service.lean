import Hotplug.Backend
import Hotplug.Cache.Fetch
import Hotplug.Cache.Signals
import Hotplug.Device.View

/-!
# Backends on a cache

Every tracked identifier is a device, and the prefix of the identifiers is one
more, which stands for the service itself. An object lives as long as its
identifier is tracked.
-/

namespace Hotplug

inductive ServiceObject where
  /-- The service itself. -/
  | root (udi : String)
  | tracked (udi : String)
  deriving DecidableEq, Repr

/-- A cache, the objects made for its devices, and the events not yet taken. -/
structure ServiceBackend (σ : Type) where
  settings : CacheSettings σ
  cache : Cache σ
  objects : Named (Kept ServiceObject) := ∅
  queue : List DeviceEvent := []
  nextSerial : Nat := 0

namespace ServiceBackend

variable {σ α : Type}

def config (backend : ServiceBackend σ) : Config := backend.settings.config

def onCache (step : CacheSettings σ → Run (Cache σ) α) :
    Run (ServiceBackend σ) α := do
  (step (← get).settings).zoom (fun backend => backend.cache)
    (fun cache backend => { backend with cache := cache })

/-- Let go of the objects of an identifier that is no longer tracked. -/
def releaseRemoved (backend : ServiceBackend σ) : DeviceEvent → ServiceBackend σ
  | .removed udi =>
      if backend.cache.tracks udi then backend
      else { backend with objects := backend.objects.erase udi }
  | _ => backend

/-- Let go of every object whose identifier is neither the prefix nor
tracked. -/
def retainTracked (backend : ServiceBackend σ) : ServiceBackend σ :=
  { backend with
    objects := backend.objects.filter fun udi _ =>
      udi == backend.config.identifierPrefix || backend.cache.tracks udi }

def keep (backend : ServiceBackend σ) (udi : String) (object : ServiceObject) :
    Kept ServiceObject × ServiceBackend σ :=
  let kept : Kept ServiceObject := ⟨backend.nextSerial, object⟩
  (kept, { backend with
    objects := backend.objects.insert udi kept
    nextSerial := backend.nextSerial + 1 })

/-- The texts in concatenated byte strings, each ended by a zero byte. -/
def splitAtZeros (content : List UInt8) : List String :=
  ((content.splitOn 0).filter fun chunk => !chunk.isEmpty).map Text.decodeLossy

/-- The mount points in a value, if it can hold any. -/
def mountPointsIn : Value → Option (List String)
  | .texts points => some points
  | .text point => some [point]
  | .bytes content => some (splitAtZeros content)
  | _ => none

def lastSegment (udi : String) : String :=
  String.ofList (udi.toList.reverse.takeWhile (· != '/')).reverse

/-- The icon of a device with certain capabilities. -/
def iconOf (capabilities : List Capability) : String :=
  if capabilities.contains .opticalDisc then "media-optical"
  else if capabilities.contains .opticalDrive then "drive-optical"
  else if capabilities.contains .storageDrive ||
    capabilities.contains .storageVolume
      || capabilities.contains .storageAccess then "drive-harddisk"
  else ""

variable [Service σ]

/-- The first answer among interfaces of a device that are there. -/
def firstRead (udi property : String) (reach : Reach) :
    List String → Run (ServiceBackend σ) (Option Value)
  | [] => return none
  | interface :: rest => do
      if (← get).cache.hasInterface udi interface then
        match ← onCache fun _ => Cache.read ⟨udi, interface,
            property⟩ reach with
        | some value => return some value
        | none => firstRead udi property reach rest
      else firstRead udi property reach rest

/-- Fold a signal into the cache, let go of objects, and queue the events. The
number of events is answered. -/
def absorb (signal : Signal) : Run (ServiceBackend σ) Nat := do
  let events ← onCache fun settings => Cache.absorb settings signal
  modify fun backend => events.foldl releaseRemoved backend
  modify fun backend => { backend with queue := backend.queue ++ events }
  return events.length

/-- A property of any interface that means a capability. -/
def capabilityProperty (udi : String) (capability : Capability) (name : String)
    (reach : Reach) : Run (ServiceBackend σ) (Option Value) := do
  firstRead udi name reach ((← get).config.interfacesOf capability)

/-- Where a device is mounted, if the service reports mount points. -/
def mountPoints (udi : String) (reach : Reach) :
    Run (ServiceBackend σ) (Option (List String)) := do
  match (← get).config.mountPointsProperty with
  | none => return none
  | some property =>
      let value ← capabilityProperty udi .storageAccess property reach
      return (value.bind mountPointsIn).map
        fun points => points.filter (· != "")

/-- What mount points say of a storage property that is not reported itself. -/
def derivedProperty (udi name : String) (reach : Reach) :
    Run (ServiceBackend σ) (Option Value) := do
  if name = StorageView.mountPathProperty then
    return (← mountPoints udi reach).map
      fun points => .text (points.head?.getD "")
  else if name = StorageView.accessibleProperty then
    return (← mountPoints udi reach).map fun points => .bool (!points.isEmpty)
  else return none

/-- A property of a tracked device. The generic capability has every
property. -/
def property (udi : String) (capability : Capability) (name : String)
    (reach : Reach) : Run (ServiceBackend σ) (Option Value) := do
  if capability = .genericInterface then
    onCache fun _ => Cache.readAnywhere udi name reach
  else
    match ← capabilityProperty udi capability name reach with
    | some value => return some value
    | none =>
        if capability = .storageAccess then derivedProperty udi name reach
          else return none

/-- The set of capabilities that the interfaces of a device mean. -/
def capabilitiesOf (backend : ServiceBackend σ) (udi : String) :
    List Capability :=
  let meant := (backend.cache.interfacesOf udi).filterMap
    backend.config.meaning?
  Capability.collect fun capability =>
    capability == .genericInterface || meant.contains capability

/-- A text that some interface of a device reports, unless it is empty. -/
def reportedText (udi name : String) :
    Run (ServiceBackend σ) (Option String) := do
  let value ← onCache fun _ => Cache.readAnywhere udi name .fetched
  return (value.bind Value.toText?).filter (· != "")

/-- The device that the baseline interface names as parent, or the service. -/
def parentOf (udi : String) : Run (ServiceBackend σ) String := do
  let config := (← get).config
  match config.parentProperty with
  | none => return config.identifierPrefix
  | some name =>
      let value ← onCache fun _ =>
        Cache.read ⟨udi, config.baselineInterface, name⟩ .fetched
      let named := (value.bind Value.toText?).filter fun path => path !=
        "" && path != "/"
      return named.getD config.identifierPrefix

def descriptionOf (udi : String) : Run (ServiceBackend σ) String := do
  match ← reportedText udi "IdLabel" with
  | some label => return label
  | none => return (← reportedText udi "Model").getD (lastSegment udi)

/-- A tracked device, as the cache knows it at each moment. -/
def trackedDevice (udi : String) : Device (Run (ServiceBackend σ)) where
  udi := udi
  parent := do return some (← parentOf udi)
  vendor := do return (← reportedText udi "Vendor").getD ""
  product := do return (← reportedText udi "Model").getD ""
  description := descriptionOf udi
  icon := do return iconOf ((← get).capabilitiesOf udi)
  capabilities := do return (← get).capabilitiesOf udi
  property := property udi

/-- The service as a device. -/
def rootDevice (udi : String) : Device (Run (ServiceBackend σ)) where
  udi := udi
  parent := pure none
  vendor := pure ""
  product := do return (← get).config.root.product
  description := do return (← get).config.root.description
  icon := do return (← get).config.root.icon
  capabilities := pure [.genericInterface]
  property _ _ _ := pure none

def deviceOf : ServiceObject → Device (Run (ServiceBackend σ))
  | .root udi => rootDevice udi
  | .tracked udi => trackedDevice udi

/-- The object of an identifier: the one there is, or a new one. -/
def objectOf (udi : String) :
    Run (ServiceBackend σ) (Option (Kept ServiceObject)) := do
  let backend ← get
  match backend.objects[udi]? with
  | some kept => return some kept
  | none =>
      if udi = backend.config.identifierPrefix then
        return some (← modifyGet fun backend => backend.keep udi (.root udi))
      else if ← onCache fun settings => Cache.contains settings udi then
        return some (← modifyGet fun backend => backend.keep udi (.tracked udi))
      else return none

/-- Whether a tracked device has a capability, where one is asked for. -/
def reports (udi : String) : Option Capability → Run (ServiceBackend σ) Bool
  | none => return true
  | some capability => (trackedDevice udi).reports capability

/-- Whether a tracked device has a parent, where one is asked for. -/
def isUnder (udi : String) : Option String → Run (ServiceBackend σ) Bool
  | none => return true
  | some parent => return (← parentOf udi) == parent

/-- The tracked identifiers under a parent and with a capability, in order. The
parent is asked for only of devices that have the capability. -/
def list (parent : Option String) (capability : Option Capability) :
    Run (ServiceBackend σ) (List String) := do
  let ids ← onCache Cache.identifiers
  ids.filterM fun udi => do
    if ← reports udi capability then isUnder udi parent else return false

end ServiceBackend

instance {σ : Type} [Service σ] : Backend (ServiceBackend σ) ServiceObject where
  descriptor backend := backend.config.descriptor
  reload := do
    let ids ← ServiceBackend.onCache Cache.reload
    modify ServiceBackend.retainTracked
    return ids
  objectOf := ServiceBackend.objectOf
  list := ServiceBackend.list
  drain := do
    let backend ← get
    set { backend with queue := [] }
    return backend.queue
  keeps backend serial := backend.objects.values.any
    fun kept => kept.serial == serial
  device := ServiceBackend.deviceOf

end Hotplug
