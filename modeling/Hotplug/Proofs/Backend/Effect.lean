import Hotplug.Backend.Service
import Hotplug.Proofs.Yields

/-!
# What reading does to a backend

Properties of devices are read by way of the cache, from one interface after the
other. What each of these reads may do to a backend is all that reading a
property may do to it.
-/

namespace Hotplug

namespace ServiceBackend

variable {σ α β : Type}

theorem yields_onCache {step : CacheSettings σ → Run (Cache σ) α}
    {backend : ServiceBackend σ} {after : α → ServiceBackend σ → Prop}
    {failed : ServiceBackend σ → Prop} :
    (onCache step).Yields backend after failed ↔
      (step backend.settings).Yields backend.cache
        (fun answer cache => after answer { backend with cache := cache })
        fun cache => failed { backend with cache := cache } := by
  rw [onCache, Run.yields_bind, Run.yields_get, Run.yields_zoom]

/-- What steps may do to a backend when they answer and when they crash: nothing
at all, and one thing after the other. -/
structure Effect (σ : Type) where
  leads : ServiceBackend σ → ServiceBackend σ → Prop
  crashes : ServiceBackend σ → ServiceBackend σ → Prop
  refl : ∀ backend, leads backend backend
  trans : ∀ {first second third}, leads first second → leads second third →
    leads first third
  crashesLater : ∀ {first second third}, leads first second →
    crashes second third → crashes first third

namespace Effect

variable {effect : Effect σ}

/-- The step does nothing else. -/
def Covers (effect : Effect σ) (step : Run (ServiceBackend σ) α) : Prop :=
  ∀ backend, step.Yields backend (fun _ => effect.leads backend)
    (effect.crashes backend)

namespace Covers

theorem pure (answer : α) : effect.Covers (Pure.pure answer) :=
  effect.refl

theorem get :
    effect.Covers (MonadState.get : Run (ServiceBackend σ)
      (ServiceBackend σ)) :=
  effect.refl

theorem bind {step : Run (ServiceBackend σ) α}
    {next : α → Run (ServiceBackend σ) β} (first : effect.Covers step)
    (later : ∀ answer, effect.Covers (next answer)) :
    effect.Covers (step >>= next) := by
  intro backend
  rw [Run.yields_bind]
  refine (first backend).mono ?_ fun _ => id
  intro answer left leads
  exact (later answer left).mono (fun _ _ => effect.trans leads)
    fun _ => effect.crashesLater leads

section Lookups

variable [Service σ] {reach : Reach}
  (read : ∀ key, effect.Covers (onCache fun _ => Cache.read key reach))
include read

theorem readAnywhere (udi property : String) :
    effect.Covers (onCache fun _ => Cache.readAnywhere udi property reach) := by
  intro backend
  rw [yields_onCache, Cache.readAnywhere,
    Run.yields_bind, Run.yields_get]
  split
  · exact effect.refl backend
  · next interface _ =>
      have reading := read ⟨udi, interface, property⟩ backend
      rwa [yields_onCache] at reading

theorem firstRead (udi property : String) (interfaces : List String) :
    effect.Covers (ServiceBackend.firstRead udi property reach interfaces) := by
  induction interfaces with
  | nil => exact .pure none
  | cons interface rest induction =>
      refine Covers.get.bind fun backend => ?_
      split
      · refine (read _).bind fun answer => ?_
        split
        · exact .pure _
        · exact induction
      · exact induction

theorem capabilityProperty (udi : String) (capability : Capability)
    (name : String) :
    effect.Covers (ServiceBackend.capabilityProperty udi
      capability name reach) :=
  Covers.get.bind fun _ => .firstRead read udi name _

theorem mountPoints (udi : String) :
    effect.Covers (ServiceBackend.mountPoints udi reach) := by
  refine Covers.get.bind fun backend => ?_
  split
  · exact .pure none
  · exact (Covers.capabilityProperty read udi .storageAccess _).bind
      fun _ => .pure _

theorem derivedProperty (udi name : String) :
    effect.Covers (ServiceBackend.derivedProperty udi name reach) := by
  unfold ServiceBackend.derivedProperty
  split
  · exact (Covers.mountPoints read udi).bind fun _ => .pure _
  · split
    · exact (Covers.mountPoints read udi).bind fun _ => .pure _
    · exact .pure none

theorem property (udi : String) (capability : Capability) (name : String) :
    effect.Covers (ServiceBackend.property udi capability name reach) := by
  unfold ServiceBackend.property
  split
  · exact .readAnywhere read udi name
  · refine (Covers.capabilityProperty read udi capability name).bind
      fun answer => ?_
    split
    · exact .pure _
    · split
      · exact .derivedProperty read udi name
      · exact .pure none

end Lookups

end Covers

end Effect

end ServiceBackend

end Hotplug
