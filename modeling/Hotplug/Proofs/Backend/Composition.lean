import Hotplug.Proofs.Backend.Objects
import Hotplug.Proofs.Cache.Composition

/-!
# Changed properties and the composition of a device

What a device can do is told by its interfaces, and subscribers are told of a
new composition by a removal and an appearance. A change of properties is told
as a change alone. If it is about an interface that the device does not have,
the interface joins the others all the same.
-/

namespace Hotplug

namespace ServiceBackend

variable {σ : Type} {backend left : ServiceBackend σ} {udi interface : String}
  {changed : Properties} {invalidated : List String}

theorem mem_capabilitiesOf_iff {capability : Capability} :
    capability ∈ backend.capabilitiesOf udi ↔ capability = .genericInterface ∨
      ∃ interface, backend.cache.hasInterface udi interface = true ∧
        backend.config.meaning? interface = some capability := by
  simp [capabilitiesOf, Cache.mem_interfacesOf_iff]

variable [Service σ]

theorem start_absorb_cache (signal : Signal) (backend : ServiceBackend σ) :
    ((absorb signal).start backend).2.settings = backend.settings ∧
      ((absorb signal).start backend).2.cache =
        ((Cache.absorb backend.settings signal).start backend.cache).2 := by
  have yields : (absorb signal).Yields backend
      (fun _ left => left.settings = backend.settings ∧ left.cache =
        ((Cache.absorb backend.settings signal).start backend.cache).2)
      fun left => left.settings = backend.settings ∧ left.cache =
        ((Cache.absorb backend.settings signal).start backend.cache).2 := by
    rw [absorb, Run.yields_bind, yields_onCache]
    refine (Run.yields_start _ _).mono ?_ ?_
    · intro events cache handled
      simp only [Run.yields_bind, Run.yields_modify, Run.yields_pure]
      obtain ⟨settings, _, sameCache, _⟩ :=
        foldl_releaseRemoved events { backend with cache := cache }
      exact ⟨settings, sameCache.trans (by rw [handled])⟩
    · rintro cache ⟨reason, crashed⟩
      exact ⟨rfl, by rw [crashed]⟩
  exact yields.left

/-- What becomes of the composition of a device by a change of properties of an
interface. -/
structure Recomposed (udi interface : String) (joins : Prop)
    (before after : ServiceBackend σ) :
    Prop where
  interfaces : ∀ other, other ∈ after.cache.interfacesOf udi ↔
    other ∈ before.cache.interfacesOf udi ∨ interface = other ∧ joins
  capabilities : ∀ capability, capability ∈ after.capabilitiesOf udi ↔
    capability ∈ before.capabilitiesOf udi ∨
      joins ∧ before.config.meaning? interface = some capability

/-- A change of properties of a tracked device, after which it is tracked still.
The interface of the change joins those of the device, and its capability the
capabilities, unless the change is not heeded or names no property. So the
device is composed as before exactly if it has the interface, or the change
comes to nothing. -/
theorem recomposed_absorb (tracked : backend.tracks udi = true)
    (handled :
      ((absorb (.propertiesChanged udi interface changed invalidated)).start
        backend).2 = left)
    (still : left.tracks udi = true) :
    Recomposed udi interface
        (Cache.Heeds backend.config udi ∧ Cache.Touches changed invalidated)
          backend left ∧
      (left.cache.interfacesOf udi = backend.cache.interfacesOf udi ↔
        (Cache.Heeds backend.config udi ∧ Cache.Touches changed invalidated →
          backend.cache.hasInterface udi interface = true)) ∧
      (left.cache.interfacesOf udi = backend.cache.interfacesOf udi →
        ((trackedDevice udi).capabilities.start left).1 =
          ((trackedDevice udi).capabilities.start backend).1) := by
  obtain ⟨sameSettings, sameCache⟩ :=
    start_absorb_cache (.propertiesChanged udi interface changed invalidated)
      backend
  rw [handled] at sameSettings sameCache
  have carries (other : String) : left.cache.hasInterface udi other = true ↔
      backend.cache.hasInterface udi other = true ∨ interface = other ∧
        Cache.Heeds backend.config udi ∧ Cache.Touches changed invalidated :=
    Cache.hasInterface_absorbChanged_iff tracked sameCache.symm still other
  have interfaces : left.cache.interfacesOf udi =
    backend.cache.interfacesOf udi ↔
      (Cache.Heeds backend.config udi ∧ Cache.Touches changed invalidated →
        backend.cache.hasInterface udi interface = true) := by
    rw [Cache.interfacesOf_eq_iff]
    simp only [carries]
    constructor
    · intro same joins
      exact (same interface).mp (.inr ⟨rfl, joins⟩)
    · intro carried other
      constructor
      · rintro (has | ⟨rfl, joins⟩)
        · exact has
        · exact carried joins
      · exact .inl
  refine ⟨⟨?_, ?_⟩, interfaces, ?_⟩
  · intro other
    rw [Cache.mem_interfacesOf_iff, Cache.mem_interfacesOf_iff, carries]
  · intro capability
    have sameConfig : left.config = backend.config :=
      congrArg CacheSettings.config sameSettings
    simp only [mem_capabilitiesOf_iff, carries, sameConfig]
    grind
  · intro same
    have capabilities : left.capabilitiesOf udi =
        backend.capabilitiesOf udi := by
      rw [capabilitiesOf, same, config, sameSettings]
      rfl
    change Except.ok (left.capabilitiesOf udi) =
      Except.ok (backend.capabilitiesOf udi)
    rw [capabilities]

/-- A disk appears with a file system, which is then taken from it. -/
def wiping : List (Use MemoryService) :=
  [.handle (.interfacesAdded diskUdi (Std.ExtTreeMap.ofList
      [("s.Block", ∅), (fileSystem, ∅)])),
    .handle (.interfacesRemoved diskUdi [fileSystem])]

def wiped : ServiceBackend MemoryService :=
  afterUses wiping (untouched (.ofConfig .compact) {})

/-- The label of an interface of the disk has changed. -/
def relabelling (interface : String) : Signal :=
  .propertiesChanged diskUdi interface
    (Std.ExtTreeMap.ofList [("IdLabel", Value.text "x")]) []

theorem recomposed_absorb_wiped :
    wiped.tracks diskUdi = true ∧
      ((absorb (relabelling "s.Block")).start wiped).2.tracks diskUdi =
        true ∧
      ((absorb (relabelling "s.Block")).start wiped).2.cache.interfacesOf
        diskUdi = wiped.cache.interfacesOf diskUdi := by
  have tracked : wiped.tracks diskUdi = true := by decide +kernel
  have still : ((absorb (relabelling "s.Block")).start wiped).2.tracks
      diskUdi = true := by decide +kernel
  obtain ⟨-, unchanged, -⟩ := recomposed_absorb tracked rfl still
  exact ⟨tracked, still, unchanged.mpr fun _ => by decide +kernel⟩

/-- The change of the file system comes when this is gone already, and brings it
back. All that is told is the change. -/
theorem capabilities_relabelling :
    let left := ((absorb (relabelling fileSystem)).start wiped).2
    wiped.tracks diskUdi = true ∧ left.tracks diskUdi = true ∧
      left.queue = wiped.queue ++
        [.changed diskUdi (Std.ExtTreeMap.ofList
          [("IdLabel", Change.modified)])] ∧
      wiped.cache.interfacesOf diskUdi = ["s.Block"] ∧
      left.cache.interfacesOf diskUdi = ["s.Block", fileSystem] ∧
      wiped.capabilitiesOf diskUdi = [.genericInterface, .block] ∧
      left.capabilitiesOf diskUdi =
          [.genericInterface, .block, .storageAccess] := by
  decide +kernel

end ServiceBackend

end Hotplug
