import Hotplug.Cache

/-!
# Keeping a cache current

Each signal of the service changes the cache, and is answered by the events that
subscribers are to be told, in order.
-/

namespace Hotplug

namespace Snapshot

/-- Take in announced interfaces that lie in the namespace. -/
def announce (config : Config) (interfaces : Interfaces) (snapshot : Snapshot) :
    Snapshot :=
  (interfaces.toList.filter fun entry => config.admitsInterface entry.1).foldl
    (fun merged entry => merged.put entry.1 (Properties.plain entry.2)) snapshot

/-- Drop the values that are no longer valid, then store the new ones. -/
def applyChanges (interface : String) (changed : Properties)
    (invalidated : List String) (snapshot : Snapshot) :
    Snapshot :=
  let dropped := invalidated.foldl
    (fun left name => left.set interface name .unresolved) snapshot
  changed.toList.foldl (fun left entry => left.set interface entry.1
    (.resolved entry.2)) dropped

end Snapshot

/-- The changes that an event names: every property, once. -/
def modifications (changed : Properties) (invalidated : List String) :
    Changes :=
  (invalidated ++ changed.keys).foldl
    (fun changes name => changes.insert name .modified) ∅

namespace Cache

variable {σ : Type} [Service σ]

/-- Load an interface again. If the service fails, the old data is kept. -/
def refetch (udi interface : String) : Run (Cache σ) Unit := do
  match ← call (Service.getAll udi interface) with
  | .ok properties =>
      modify (onDevice udi fun snapshot =>
        snapshot.put interface (Properties.plain properties))
  | .error _ => return ()

/-- Interfaces were added to an object. The interfaces that were known before,
but for the baseline, are loaded again, so that all of them are current when the
device is said to be added. -/
def absorbAdded (settings : CacheSettings σ) (udi : String)
    (interfaces : Interfaces) : Run (Cache σ) (List DeviceEvent) := do
  let config := settings.config
  if udi = "" ∨ config.leavesOut udi then return []
  else
    let before ← get
    let known := before.devices[udi]?.getD .empty
    modify fun cache =>
      { cache with devices := cache.devices.insert udi (known.announce
        config interfaces) }
    (known.names.filter (· != config.baselineInterface)).forM (refetch udi)
    let ready := interfaces.contains config.readinessInterface
    return if !before.tracks udi || ready then [.added udi] else []

/-- Interfaces were taken from an object. A device that keeps some of them is
removed and added, for what matched it before may match it no longer. -/
def absorbRemoved (settings : CacheSettings σ) (udi : String)
    (interfaces : List String) : Run (Cache σ) (List DeviceEvent) := do
  if udi = "" ∨ settings.config.leavesOut udi then return []
  else
    match (← get).devices[udi]? with
    | none => return []
    | some snapshot =>
        let left := interfaces.foldl Snapshot.drop snapshot
        if left.isEmpty then
          modify fun cache => { cache with devices := cache.devices.erase udi }
          return [.removed udi]
        else
          modify fun cache => { cache with
            devices := cache.devices.insert udi left }
          return [.removed udi, .added udi]

/-- A medium was put in or taken out, as the size of a device tells. The judge
is asked only if one of the two is possible. -/
def absorbMedia (settings : CacheSettings σ) (udi : String) (known : Bool)
    (size : UInt64) (changed : Properties) :
    Run (Cache σ) (List DeviceEvent) := do
  let baseline := settings.config.baselineInterface
  let inserted := !known && decide (0 < size)
  let removed := known && size == 0
  if !inserted && !removed then return []
  else
    let devices := (← get).devices
    let cached := if known then devices[udi]? else none
    if ← call (settings.judge udi baseline cached) then
      let tracked := (← get).tracks udi
      if inserted && !tracked then
        modify fun cache =>
          { cache with
            devices := cache.devices.insert udi
              (Snapshot.empty.put baseline changed) }
        return [.added udi]
      else if removed && tracked then
        modify fun cache => { cache with devices := cache.devices.erase udi }
        return [.removed udi]
      else return []
    else return []

/-- Properties of an interface were changed or lost their validity. -/
def absorbChanged (settings : CacheSettings σ) (udi interface : String)
    (changed : Properties) (invalidated : List String) :
    Run (Cache σ) (List DeviceEvent) := do
  let config := settings.config
  if udi = "" ∨ ¬Text.startsBy udi config.identifierPrefix ∨
    config.leavesOut udi then return []
  else
    let plain := Properties.plain changed
    let known := (← get).tracks udi
    let changes := modifications plain invalidated
    if known then
      modify (onDevice udi fun snapshot => snapshot.applyChanges interface
        plain invalidated)
    let reported := if known && !changes.isEmpty then
      [DeviceEvent.changed udi changes] else []
    match if interface = config.baselineInterface then
        plain[config.sizeProperty]? else none with
    | some size =>
        return reported ++ (← absorbMedia settings udi known
          (size.toUInt64?.getD 0) plain)
    | none => return reported

def absorb (settings : CacheSettings σ) :
    Signal → Run (Cache σ) (List DeviceEvent)
  | .interfacesAdded udi interfaces => absorbAdded settings udi interfaces
  | .interfacesRemoved udi interfaces => absorbRemoved settings udi interfaces
  | .propertiesChanged udi interface changed invalidated =>
      absorbChanged settings udi interface changed invalidated

end Cache

end Hotplug
