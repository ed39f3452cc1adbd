import Hotplug.Config
import Hotplug.DeviceEvent
import Hotplug.Service
import Hotplug.Snapshot
import Hotplug.Text.Quoted

/-!
# Caches

A cache keeps what one service says of the objects that a configuration admits.
It is loaded when something is asked of it while it is empty, and at any time on
demand. This module holds the state, reloading, and the questions that fetch
nothing.
-/

namespace Hotplug

/-- A judgement whether a device may hold removable media, from its identifier,
the baseline interface, and what is cached of it. -/
abbrev MediaJudge (σ : Type) : Type :=
  String → String → Option Snapshot → Run σ Bool

/-- What a cache is told once and for all. -/
structure CacheSettings (σ : Type) where
  config : Config
  judge : MediaJudge σ

/-- The state of a cache and of the service behind it. -/
structure Cache (σ : Type) where
  service : σ
  devices : Named Snapshot := ∅
  /-- The properties that are being fetched now. -/
  inflight : List PropertyKey := []

namespace Cache

variable {σ α : Type}

def call (step : Run σ α) : Run (Cache σ) α :=
  step.zoom (fun cache => cache.service)
    (fun service cache => { cache with service := service })

/-- The objects that a configuration admits, with their values made plain. -/
def admitted (config : Config) (objects : Objects) : Named Snapshot :=
  (objects.filter fun udi _ => config.isUnderRoot udi &&
    !config.leavesOut udi).map
    fun _ interfaces => Snapshot.ofInterfaces (Interfaces.plain interfaces)

def tracks (cache : Cache σ) (udi : String) : Bool := cache.devices.contains udi

def size (cache : Cache σ) : Nat := cache.devices.size

/-- The interface names of a device, in order. -/
def interfacesOf (cache : Cache σ) (udi : String) : List String :=
  match cache.devices[udi]? with
  | some snapshot => snapshot.names
  | none => []

def hasInterface (cache : Cache σ) (udi interface : String) : Bool :=
  match cache.devices[udi]? with
  | some snapshot => snapshot.hasInterface interface
  | none => false

/-- Change what is cached of a device, if it is tracked. -/
def onDevice (udi : String) (change : Snapshot → Snapshot) (cache : Cache σ) :
    Cache σ :=
  { cache with devices := cache.devices.modify udi change }

variable [Service σ]

/-- Forget everything and load it again. A service that fails leaves the cache
empty. -/
def reload (settings : CacheSettings σ) : Run (Cache σ) (List String) := do
  let reply ← call Service.managedObjects
  let objects := reply.toOption.getD ∅
  modify fun cache => { cache with devices := admitted settings.config objects }
  return (← get).devices.keys

/-- Load a cache that is empty. -/
def loadIfEmpty (settings : CacheSettings σ) : Run (Cache σ) Unit := do
  if (← get).devices.isEmpty then
    let _ ← reload settings

def identifiers (settings : CacheSettings σ) : Run (Cache σ) (List String) := do
  loadIfEmpty settings
  return (← get).devices.keys

def contains (settings : CacheSettings σ) (udi : String) :
    Run (Cache σ) Bool := do
  loadIfEmpty settings
  return (← get).tracks udi

def snapshot? (settings : CacheSettings σ) (udi : String) :
    Run (Cache σ) (Option Snapshot) := do
  loadIfEmpty settings
  return (← get).devices[udi]?

def describe (settings : CacheSettings σ) (cache : Cache σ) : String :=
  "PropertyCache \x7b prefix: " ++ Text.quoted settings.config.identifierPrefix
    ++ ", tracked: " ++ toString cache.size ++ " \x7d"

end Cache

end Hotplug
