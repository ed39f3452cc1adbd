import Hotplug.Cache.Fetch
import Hotplug.Proofs.Cache.Signals

/-!
# The caches that there can be

A cache starts with nothing. Signals are handled and requests are made in any
order, and the service may change at any time. What a crashed step has done
stays done, but each step gives up the claims that it made, so nothing is
claimed between two steps.
-/

namespace Hotplug

namespace Cache

variable {σ α : Type}

/-- What can be asked of a cache at any time. -/
inductive Request where
  | reload
  | identifiers
  | contains (udi : String)
  | snapshot (udi : String)
  | read (key : PropertyKey) (reach : Reach)
  | readAnywhere (udi property : String) (reach : Reach)

section Reaching

variable [Service σ]

def Request.perform (settings : CacheSettings σ) : Request → Run (Cache σ) Unit
  | .reload => do let _ ← Cache.reload settings
  | .identifiers => do let _ ← Cache.identifiers settings
  | .contains udi => do let _ ← Cache.contains settings udi
  | .snapshot udi => do let _ ← Cache.snapshot? settings udi
  | .read key reach => do let _ ← Cache.read key reach
  | .readAnywhere udi property reach =>
      do let _ ← Cache.readAnywhere udi property reach

/-- Signals and requests lead to the cache, over a service that changes as it
likes. -/
inductive Reachable (settings : CacheSettings σ) : Cache σ → Prop
  | fresh (service : σ) : Reachable settings { service := service }
  | served {cache : Cache σ} (service : σ)
    (reached : Reachable settings cache) :
      Reachable settings { cache with service := service }
  | handled {cache : Cache σ} (signal : Signal)
    (reached : Reachable settings cache) :
      Reachable settings ((absorb settings signal).start cache).2
  | requested {cache : Cache σ} (request : Request)
    (reached : Reachable settings cache) :
      Reachable settings ((request.perform settings).start cache).2

end Reaching

/-- The step leaves the claims that there were. -/
def SameClaims (step : Run (Cache σ) α) : Prop :=
  step.Preserves fun cache => cache.inflight

theorem sameClaims_devices (change : Cache σ → Named Snapshot) :
    SameClaims (modify fun cache : Cache σ =>
      { cache with devices := change cache }) :=
  .ofChange fun _ => rfl

theorem sameClaims_call (step : Run σ α) : SameClaims (call step) :=
  preserves_call (fun _ _ => rfl) step

section Steps

variable {settings : CacheSettings σ}

theorem sameClaims_absorbRemoved (settings : CacheSettings σ) (udi : String)
    (interfaces : List String) :
    SameClaims (absorbRemoved settings udi interfaces) := by
  rw [absorbRemoved]
  split
  · exact .pure _
  · refine Run.Preserves.get.bind fun cache => ?_
    split
    · exact .pure _
    · dsimp only
      split
      · exact (sameClaims_devices _).bind fun _ => .pure _
      · exact (sameClaims_devices _).bind fun _ => .pure _

theorem sameClaims_absorbMedia (settings : CacheSettings σ) (udi : String)
    (known : Bool) (size : UInt64) (changed : Properties) :
    SameClaims (absorbMedia settings udi known size changed) := by
  rw [absorbMedia]
  dsimp only
  split
  · exact .pure _
  · refine Run.Preserves.get.bind fun cache => (sameClaims_call _).bind
      fun judged => ?_
    split
    · refine Run.Preserves.get.bind fun cache => ?_
      split
      · exact (sameClaims_devices _).bind fun _ => .pure _
      · split
        · exact (sameClaims_devices _).bind fun _ => .pure _
        · exact .pure _
    · exact .pure _

theorem sameClaims_absorbChanged (settings : CacheSettings σ)
    (udi interface : String) (changed : Properties)
    (invalidated : List String) :
    SameClaims (absorbChanged settings udi interface changed invalidated) := by
  rw [absorbChanged]
  dsimp only
  split
  · exact .pure _
  · refine Run.Preserves.get.bind fun cache => ?_
    generalize (if interface = settings.config.baselineInterface then
      changed.plain[settings.config.sizeProperty]? else none) = size
    cases size with
    | none =>
        split
        · exact (sameClaims_devices _).bind fun _ => .pure _
        · exact .pure _
    | some size =>
        have judged (known : Bool) := sameClaims_absorbMedia settings udi known
          (size.toUInt64?.getD 0) changed.plain
        split
        · exact (sameClaims_devices _).bind fun _ => (judged _).bind
            fun _ => .pure _
        · exact (judged _).bind fun _ => .pure _

variable [Service σ]

theorem sameClaims_absorbAdded (settings : CacheSettings σ) (udi : String)
    (interfaces : Interfaces) :
    SameClaims (absorbAdded settings udi interfaces) := by
  rw [absorbAdded]
  dsimp only
  split
  · exact .pure _
  · refine Run.Preserves.get.bind fun cache => (sameClaims_devices _).bind
        fun _ => (Run.Preserves.forM fun interface => ?_).bind fun _ => .pure _
    refine (sameClaims_call _).bind fun reply => ?_
    cases reply with
    | ok properties => exact sameClaims_devices _
    | error reason => exact .pure _

theorem sameClaims_absorb (signal : Signal) :
    SameClaims (absorb settings signal) := by
  cases signal with
  | interfacesAdded udi interfaces =>
      exact sameClaims_absorbAdded settings udi interfaces
  | interfacesRemoved udi interfaces =>
      exact sameClaims_absorbRemoved settings udi interfaces
  | propertiesChanged udi interface changed invalidated =>
      exact sameClaims_absorbChanged settings udi interface changed invalidated

theorem sameClaims_reload : SameClaims (reload settings) :=
  (sameClaims_call _).bind fun _ =>
    (sameClaims_devices _).bind fun _ => Run.Preserves.get.bind fun _ => .pure _

theorem sameClaims_loadIfEmpty : SameClaims (loadIfEmpty settings) := by
  refine Run.Preserves.get.bind fun cache => ?_
  split
  · exact sameClaims_reload.bind fun _ => .pure _
  · exact .pure _

/-- The claim of a reader is gone when it returns. -/
theorem sameClaims_read (key : PropertyKey) (reach : Reach) :
    SameClaims (read key reach : Run (Cache σ) (Option Value)) := by
  refine Run.Preserves.get.bind fun cache => ?_
  split
  · exact .pure _
  · exact .pure _
  · intro claims before same
    have fetching : SameClaims (fetchClaimed key : Run (Cache σ)
        (Option Value)) :=
      (sameClaims_call _).bind fun _ => (sameClaims_devices _).bind
        fun _ => .pure _
    rw [Run.yields_bind, Run.yields_modify, Run.yields_ensuring]
    have claimed : (before.claim key).inflight = key :: claims :=
      congrArg (key :: ·) same
    have given (left : Cache σ) (still : left.inflight = key :: claims) :
        (left.release key).inflight = claims := by
      rw [release, still, List.erase_cons_head]
    exact (fetching _ _ claimed).mono (fun _ => given) given

theorem sameClaims_readAnywhere (udi property : String) (reach : Reach) :
    SameClaims (readAnywhere udi property reach : Run (Cache σ)
      (Option Value)) := by
  refine Run.Preserves.get.bind fun cache => ?_
  split
  · exact .pure _
  · exact sameClaims_read _ reach

theorem Request.sameClaims_perform (request : Request) :
    SameClaims (request.perform settings) := by
  cases request with
  | reload => exact sameClaims_reload.bind fun _ => .pure _
  | identifiers | contains udi | snapshot udi =>
      exact (sameClaims_loadIfEmpty.bind fun _ =>
        Run.Preserves.get.bind fun _ => .pure _).bind fun _ => .pure _
  | read key reach => exact (sameClaims_read key reach).bind fun _ => .pure _
  | readAnywhere udi property reach =>
      exact (sameClaims_readAnywhere udi property reach).bind fun _ => .pure _

theorem Reachable.idle {cache : Cache σ}
    (reachable : Reachable settings cache) :
    cache.inflight = [] := by
  induction reachable with
  | fresh service => rfl
  | served service _ induction => exact induction
  | handled signal _ induction =>
      exact (sameClaims_absorb signal [] _ induction).left
  | requested request _ induction =>
      exact (request.sameClaims_perform [] _ induction).left

end Steps

end Cache

end Hotplug
