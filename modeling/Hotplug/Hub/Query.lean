import Hotplug.Hub
import Hotplug.Predicate.Grammar
import Hotplug.Predicate.Selection

/-!
# Queries

Queries answer handles, in the order of the attached backends. The handles of
devices that are not selected are given up at once; when a service crashes, so
are all the handles that the query had got so far.
-/

namespace Hotplug

namespace Hub

variable {n : Nat} {α β ο κ ω : Type} [Backend β ο]

/-- A step of a query that has found some handles already. -/
def whileHolding (found : List Handle) (step : Run (Hub n β ο κ ω) α) :
    Run (Hub n β ο κ ω) α :=
  step.onCrash (releaseAll found)

/-- Add the handles of identifiers to those found before. -/
def findAll (found : List Handle) (ids : List String) :
    Run (Hub n β ο κ ω) (List Handle) :=
  ids.foldlM (fun found udi => do
    return found ++ [← whileHolding found (find udi)]) found

/-- The devices of every attached backend, after loading all of them again. -/
def everyDevice : Run (Hub n β ο κ ω) (List Handle) := do
  (← get).registry.roster.foldlM
    (fun found i => do
      let ids ← whileHolding found (atBackend i Backend.reload)
      findAll found ids)
    []

/-- Load every attached backend again, and count their devices. -/
def reload : Run (Hub n β ο κ ω) Nat := do
  (← get).registry.roster.foldlM
    (fun count i => do return count + (← atBackend i Backend.reload).length) 0

/-- The handle of an identifier if a predicate selects its device. -/
def examine (predicate : Predicate) (udi : String) :
    Run (Hub n β ο κ ω) (Option Handle) := do
  let handle ← find udi
  let matched ← whileHolding [handle] (ask handle false
    fun device => predicate.selects device)
  if matched then return some handle
  else
    modify (release handle)
    return none

/-- The identifiers of one backend that were examined, and the handles found in
all. -/
structure QueryState where
  seen : List String
  found : List Handle

/-- Examine an identifier, unless its backend has listed it before. -/
def examineOnce (predicate : Predicate) (state : QueryState) (udi : String) :
    Run (Hub n β ο κ ω) QueryState := do
  if state.seen.contains udi then return state
  else
    let handle ← whileHolding state.found (examine predicate udi)
    return ⟨udi :: state.seen, state.found ++ handle.toList⟩

/-- Examine the devices that one backend lists for a capability. -/
def queryCapability (predicate : Predicate) (parent : Option String) (i : Fin n)
    (state : QueryState) (capability : Capability) :
    Run (Hub n β ο κ ω) QueryState := do
  let ids ← whileHolding state.found
    (atBackend i (Backend.list parent (some capability)))
  ids.foldlM (examineOnce predicate) state

/-- Examine the devices of one backend, capability by capability in their
order. -/
def queryBackend (predicate : Predicate) (parent : Option String)
    (found : List Handle) (i : Fin n) : Run (Hub n β ο κ ω) (List Handle) := do
  let supported := ((← get).descriptorAt i).supported
  let capabilities := predicate.usedCapabilities.filter supported.contains
  return (← capabilities.foldlM (queryCapability predicate parent i)
    ⟨[], found⟩).found

/-- The devices that a predicate selects, under a parent if one is given. The
empty predicate selects all devices, whatever the parent. -/
def select (predicate : Predicate) (parent : Option String) :
    Run (Hub n β ο κ ω) (List Handle) := do
  if !predicate.isValid then return []
  else if predicate.isEmpty then everyDevice
  else (← get).registry.roster.foldlM (queryBackend predicate parent) []

/-- The devices that a predicate text selects; none if it is no predicate. -/
def query (text : String) (parent : Option String) :
    Run (Hub n β ο κ ω) (List Handle) :=
  select (.parseOrInvalid text) parent

def refusal (error : PredicateError) : String :=
  "Invalid predicate: " ++ error.message

/-- The devices that a predicate text selects, or what is wrong with it. -/
def checkedQuery (text : String) (parent : Option String) :
    Run (Hub n β ο κ ω) (Except PredicateError (List Handle)) := do
  match Predicate.parse text with
  | .error error => return .error error
  | .ok predicate => return .ok (← select predicate parent)

/-- The devices with a capability, under a parent if one is given. -/
def devicesWith (capability : Capability) (parent : Option String) :
    Run (Hub n β ο κ ω) (List Handle) := do
  (← get).registry.roster.foldlM
    (fun found i => do
      if ((← get).descriptorAt i).supported.contains capability then
        let ids ← whileHolding found
          (atBackend i (Backend.list parent (some capability)))
        findAll found ids
      else return found)
    []

def withSeparator (path : String) : String :=
  if path.toList.getLast? = some '/' then path else path ++ "/"

/-- Where the storage behind a handle is mounted, or the empty text. -/
def mountOf (handle : Handle) : Run (Hub n β ο κ ω) String := do
  match ← storage? handle with
  | none => return ""
  | some view => view.mountPath

/-- The first handle among several with the longest mount that a path starts
with. The other ones are given up. -/
def innermost (path : String) (best : Handle) (length : Nat) :
    List Handle → Run (Hub n β ο κ ω) Handle
  | [] => return best
  | handle :: rest => do
      let reported ← whileHolding (best :: handle :: rest) (mountOf handle)
      let mount := withSeparator reported
      if reported ≠ "" ∧ Text.startsBy path mount ∧
          length < mount.utf8ByteSize then
        modify (release best)
        innermost path handle mount.utf8ByteSize rest
      else
        modify (release handle)
        innermost path best length rest

/-- The storage that holds a path, given whether the path exists. -/
def storageFromPath (pathExists : String → Bool) (path : String) :
    Run (Hub n β ο κ ω) Handle := do
  if pathExists path then
    innermost (withSeparator path) .null 0 (← devicesWith .storageAccess none)
  else return .null

end Hub

end Hotplug
