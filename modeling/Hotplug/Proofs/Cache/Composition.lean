import Hotplug.Proofs.Cache.Outline
import Hotplug.Proofs.Cache.Entrance

/-!
# Which interfaces a device has after a signal

The composition of a device is the set of its interfaces. For each kind of
signal it is said here what the composition is afterwards, whether the handling
answers or crashes, and that the other devices stay as they are.
-/

namespace Hotplug

namespace Cache

variable {σ α : Type} {settings : CacheSettings σ}
  {before after cache : Cache σ} {udi : String} {carried : String → Prop}

theorem interfacesOf_eq_content (cache : Cache σ) (udi : String) :
    cache.interfacesOf udi = (cache.content udi).names := by
  rw [interfacesOf, content]
  cases cache.devices[udi]? <;> simp [Snapshot.empty, Snapshot.names]

theorem mem_interfacesOf_iff {interface : String} :
    interface ∈ cache.interfacesOf udi ↔
      cache.hasInterface udi interface = true := by
  simp [interfacesOf_eq_content, hasInterface_eq_content, Snapshot.names,
    Snapshot.hasInterface]

theorem interfacesOf_eq_iff :
    after.interfacesOf udi = before.interfacesOf udi ↔
      ∀ interface, after.hasInterface udi interface = true ↔
        before.hasInterface udi interface = true := by
  constructor
  · intro same interface
    rw [← mem_interfacesOf_iff, ← mem_interfacesOf_iff, same]
  · intro same
    rw [interfacesOf_eq_content, interfacesOf_eq_content]
    apply Named.keys_congr
    intro interface
    rw [← Snapshot.hasInterface_iff_mem, ← Snapshot.hasInterface_iff_mem,
      ← hasInterface_eq_content, ← hasInterface_eq_content]
    exact same interface

/-- A device is tracked afterwards with these interfaces, and the others are as
they were. -/
structure Composed (udi : String) (carried : String → Prop)
    (before after : Cache σ) :
    Prop where
  tracked : after.tracks udi = true
  carries : ∀ interface, after.hasInterface udi interface = true ↔
    carried interface
  untouched : ∀ other : String, other ≠ udi → after.devices[other]? =
    before.devices[other]?

/-- A device is not tracked afterwards, and the others are as they were. -/
structure Dismissed (udi : String) (before after : Cache σ) : Prop where
  untracked : after.tracks udi = false
  untouched : ∀ other : String, other ≠ udi → after.devices[other]? =
    before.devices[other]?

namespace Composed

theorem congr {left : Cache σ} (composed : Composed udi carried before after)
    (same : left.devices = after.devices) :
    Composed udi carried before left := by
  obtain ⟨service, devices, inflight⟩ := left
  obtain rfl : devices = after.devices := same
  exact ⟨composed.tracked, composed.carries, composed.untouched⟩

theorem unchanged (tracked : cache.tracks udi = true) :
    Composed udi (fun interface => cache.hasInterface udi interface = true)
      cache cache :=
  ⟨tracked, fun _ => Iff.rfl, fun _ _ => rfl⟩

theorem inserted {snapshot : Snapshot}
    (carries : ∀ interface, snapshot.hasInterface interface = true ↔
      carried interface) :
    Composed udi carried cache
      { cache with devices := cache.devices.insert udi snapshot } where
  tracked := by simp [tracks_iff]
  carries interface := by simpa [hasInterface] using carries interface
  untouched other apart := by
    rw [Named.getElem?_insert, if_neg (Ne.symm apart)]

theorem onDevice (composed : Composed udi carried before after)
    {change : Snapshot → Snapshot} (further : String → Prop)
    (joined : ∀ snapshot interface, (change snapshot).hasInterface interface =
      true ↔ snapshot.hasInterface interface = true ∨ further interface) :
    Composed udi (fun interface => carried interface ∨ further interface) before
      (after.onDevice udi change) where
  tracked := by
    rw [tracks_onDevice]
    exact composed.tracked
  carries interface := by
    obtain ⟨snapshot, found⟩ := Option.isSome_iff_exists.mp
      (tracks_iff.mp composed.tracked)
    have here := composed.carries interface
    simp only [hasInterface, found] at here
    simp only [hasInterface, getElem?_onDevice, ↓reduceIte,
      found, Option.map_some]
    rw [joined, here]
  untouched other apart := by
    rw [getElem?_onDevice, if_neg (Ne.symm apart)]
    exact composed.untouched other apart

theorem of_iff {other : String → Prop}
    (composed : Composed udi carried before after)
    (same : ∀ interface, carried interface ↔ other interface) :
    Composed udi other before after :=
  ⟨composed.tracked, fun interface => (composed.carries interface).trans
    (same interface), composed.untouched⟩

theorem keeps_call (step : Run σ α) :
    (call step).Keeps (Composed udi carried before) := by
  intro cache composed
  rw [call, Run.yields_zoom]
  exact (Run.yields_start _ _).mono (fun _ _ _ => composed.congr rfl)
    fun _ _ => composed.congr rfl

end Composed

theorem Dismissed.ofErase {left : Cache σ}
    (erased : left.devices = after.devices.erase udi)
    (untouched : ∀ other : String, other ≠ udi → after.devices[other]? =
      before.devices[other]?) :
    Dismissed udi before left where
  untracked := by simp [tracks, erased]
  untouched other apart := by
    rw [erased, Std.ExtTreeMap.getElem?_erase, ← untouched other apart]
    simp [Ne.symm apart]

section Changes

/-- A judgement of media leaves the devices as they are, or makes a device of
the baseline interface, or drops one. -/
theorem yields_absorbMedia_devices (udi : String) (size : UInt64)
    (changed : Properties) (cache : Cache σ) :
    (absorbMedia settings udi (cache.tracks udi) size changed).Yields cache
      (fun _ left => left.devices = cache.devices ∨
        (cache.tracks udi = false ∧ left.devices = cache.devices.insert udi
          (Snapshot.empty.put settings.config.baselineInterface changed)) ∨
        (cache.tracks udi = true ∧ left.devices = cache.devices.erase udi))
      fun left => left.devices = cache.devices := by
  refine yields_absorbMedia_judged.mono ?_ fun left failed => by rw [failed.1]
  intro events left judged
  exact judged.cases.imp And.right (Or.imp (And.imp_right And.right)
    (And.imp_right And.right))

variable {interface : String} {changed : Properties} {invalidated : List String}

/-- Signals about changes of an object are looked at. -/
def Heeds (config : Config) (udi : String) : Prop :=
  udi ≠ "" ∧ Text.startsBy udi config.identifierPrefix = true ∧
    config.leavesOut udi = false

theorem heeds_iff {config : Config} : Heeds config udi ↔
    ¬(udi = "" ∨ ¬Text.startsBy udi config.identifierPrefix = true ∨
      config.leavesOut udi = true) := by
  simp [Heeds, not_or]

/-- A change names a property of an interface. -/
def Touches (changed : Properties) (invalidated : List String) : Prop :=
  ∃ name, name ∈ changed ∨ name ∈ invalidated

/-- A device has the interface once a change of a tracked device is applied. -/
def JoinedBy (cache : Cache σ) (udi interface : String) (changed : Properties)
    (invalidated : List String) (other : String) : Prop :=
  cache.hasInterface udi other = true ∨ interface = other ∧
    Touches changed invalidated

theorem composed_applyChanges (tracked : cache.tracks udi = true)
    (interface : String) (changed : Properties) (invalidated : List String) :
    Composed udi (cache.JoinedBy udi interface changed invalidated) cache
      (cache.onDevice udi fun snapshot =>
        snapshot.applyChanges interface changed.plain invalidated) := by
  refine (Composed.unchanged tracked).onDevice _ fun snapshot other => ?_
  rw [Snapshot.hasInterface_applyChanges_iff]
  simp [Touches, Properties.plain]

/-- A change of a tracked device joins its interface to the others, unless it
names no property, and the device goes if its medium does. -/
theorem yields_absorbChanged_composed (heeds : Heeds settings.config udi)
    (tracked : cache.tracks udi = true) (interface : String)
    (changed : Properties) (invalidated : List String) :
    (absorbChanged settings udi interface changed invalidated).Yields cache
      (fun _ left => Composed udi
        (cache.JoinedBy udi interface changed invalidated) cache left ∨
        Dismissed udi cache left)
      (Composed udi (cache.JoinedBy udi interface changed invalidated)
        cache) := by
  have applied := composed_applyChanges tracked interface changed invalidated
  rw [yields_absorbChanged_iff (heeds_iff.mp heeds)]
  cases reportedSize? settings.config interface changed.plain with
  | none => exact .inl applied
  | some size =>
      dsimp only
      rw [← tracks_onDevice]
      refine (yields_absorbMedia_devices udi _ _ _).mono ?_
        fun left same => applied.congr same
      rintro events left (same | ⟨untracked, -⟩ | ⟨-, erased⟩)
      · exact .inl (applied.congr same)
      · rw [applied.tracked] at untracked
        cases untracked
      · exact .inr (.ofErase erased applied.untouched)

theorem start_absorbChanged_of_not_heeds (ignored : ¬Heeds settings.config udi)
    (interface : String) (changed : Properties) (invalidated : List String) :
    (absorbChanged settings udi interface changed invalidated).start cache =
      (.ok [], cache) := by
  rw [heeds_iff, Classical.not_not] at ignored
  rw [absorbChanged_of_dropped ignored]
  rfl

/-- If a device is tracked before a change and after it, its interface may only
have joined. -/
theorem hasInterface_absorbChanged_iff {left : Cache σ}
    (tracked : cache.tracks udi = true)
    (handled : ((absorbChanged settings udi interface changed invalidated).start
      cache).2 = left)
    (still : left.tracks udi = true) (other : String) :
    left.hasInterface udi other = true ↔ cache.hasInterface udi other = true ∨
      interface = other ∧ Heeds settings.config udi ∧
        Touches changed invalidated := by
  by_cases heeds : Heeds settings.config udi
  · have outcome : _ ∨ Dismissed udi cache _ :=
      ((yields_absorbChanged_composed heeds tracked interface
        changed invalidated).mono (fun _ _ => id) fun _ => .inl).left
    rw [handled] at outcome
    rcases outcome with composed | dismissed
    · simp [composed.carries, JoinedBy, heeds]
    · rw [dismissed.untracked] at still
      cases still
  · rw [start_absorbChanged_of_not_heeds heeds] at handled
    obtain rfl : cache = left := handled
    simp [heeds]

theorem yields_absorbChanged_of_untracked
    (untracked : cache.tracks udi = false) :
    (absorbChanged settings udi interface changed invalidated).Yields cache
      (fun _ left => left.devices = cache.devices ∨
        Composed udi (settings.config.baselineInterface = ·) cache left)
      fun left => left.devices = cache.devices := by
  by_cases heeds : Heeds settings.config udi
  · rw [yields_absorbChanged_iff (heeds_iff.mp heeds),
      onDevice_of_untracked (getElem?_of_untracked untracked)]
    cases reportedSize? settings.config interface changed.plain with
    | none => exact .inl rfl
    | some size =>
        refine (yields_absorbMedia_devices udi _ _ _).mono ?_ fun _ same => same
        rintro events left (same | ⟨-, inserted⟩ | ⟨tracked, -⟩)
        · exact .inl same
        · right
          refine Composed.congr (.inserted fun interface => ?_) inserted
          rw [Snapshot.put, Snapshot.hasInterface_insert_iff]
          simp [Snapshot.empty, Snapshot.hasInterface]
        · rw [untracked] at tracked
          cases tracked
  · rw [Run.Yields, start_absorbChanged_of_not_heeds heeds]
    exact .inl rfl

end Changes

section Removal

variable {removed : List String}

/-- A device that loses interfaces keeps the others, and goes if there are
none. -/
theorem yields_absorbRemoved_composed (named : udi ≠ "")
    (kept : settings.config.leavesOut udi = false)
    (tracked : cache.tracks udi = true) :
    (absorbRemoved settings udi removed).Yields cache
      (fun _ left =>
        (∀ interface, cache.hasInterface udi interface = true →
          interface ∈ removed) ∧ Dismissed udi cache left ∨
          (∃ interface, cache.hasInterface udi interface = true ∧
            interface ∉ removed) ∧
            Composed udi (fun interface => interface ∉ removed ∧
              cache.hasInterface udi interface = true) cache left)
      fun _ => False := by
  have taken : ¬(udi = "" ∨ settings.config.leavesOut udi = true) := by
    simp [named, kept]
  obtain ⟨snapshot, found⟩ := Option.isSome_iff_exists.mp
    (tracks_iff.mp tracked)
  have has (interface : String) : cache.hasInterface udi interface =
      snapshot.hasInterface interface := by rw [hasInterface, found]
  simp only [has]
  rw [absorbRemoved, if_neg taken, Run.yields_bind, Run.yields_get]
  simp only [found]
  split
  · next emptied =>
      refine .inl ⟨fun interface carries => ?_, .ofErase rfl fun _ _ => rfl⟩
      have gone := Snapshot.isEmpty_iff.mp emptied interface
      rw [Snapshot.hasInterface_foldl_drop] at gone
      grind
  · next rest =>
      refine .inr ⟨?_, .inserted
        fun interface => Snapshot.hasInterface_foldl_drop removed⟩
      simp only [Snapshot.isEmpty_iff, Classical.not_forall,
        Classical.not_not] at rest
      obtain ⟨interface, left⟩ := rest
      exact ⟨interface,
        ((Snapshot.hasInterface_foldl_drop removed).mp left).symm⟩

end Removal

section Announcement

/-- A device has the interface once an announcement is taken in. -/
def EnlargedBy (config : Config) (cache : Cache σ) (udi : String)
    (interfaces : Interfaces) (interface : String) :
    Prop :=
  cache.hasInterface udi interface = true ∨
    interface ∈ interfaces ∧ config.admitsInterface interface = true

variable [Service σ]

theorem keeps_refetch_composed {interface : String}
    (known : carried interface) :
    (refetch udi interface).Keeps (Composed udi carried before) := by
  intro cache composed
  rw [refetch, Run.yields_bind]
  refine (Composed.keeps_call _ _ composed).mono ?_ fun _ failed => failed
  intro reply left asked
  cases reply with
  | error reason => exact asked
  | ok properties =>
      refine (asked.onDevice (interface = ·) fun snapshot other => ?_).of_iff
        fun other => ?_
      · rw [Snapshot.put, Snapshot.hasInterface_insert_iff, or_comm]
      · exact ⟨fun either => either.elim id fun same => same ▸ known, .inl⟩

/-- Announced interfaces of the namespace join the others, whether or not those
can be loaded again. -/
theorem yields_absorbAdded_composed (named : udi ≠ "")
    (kept : settings.config.leavesOut udi = false) (interfaces : Interfaces) :
    (absorbAdded settings udi interfaces).Yields cache
      (fun _ => Composed udi (EnlargedBy settings.config cache udi interfaces)
        cache)
      (Composed udi (EnlargedBy settings.config cache udi interfaces)
        cache) := by
  have taken : ¬(udi = "" ∨ settings.config.leavesOut udi = true) := by
    simp [named, kept]
  rw [absorbAdded]
  dsimp only
  rw [if_neg taken, Run.yields_bind, Run.yields_get, Run.yields_bind,
    Run.yields_modify, Run.yields_bind]
  -- what is loaded again was carried before, so no round of the loop changes
  -- the composition
  refine Run.yields_forM _ (.inserted fun interface => ?_)
    fun interface member left composed => ?_
  · rw [EnlargedBy, Snapshot.hasInterface_announce_iff,
      hasInterface_eq_content, content]
  · refine keeps_refetch_composed (.inl ?_) left composed
    have known := (List.mem_filter.mp member).1
    rwa [Snapshot.names, Std.ExtTreeMap.mem_keys,
      ← Snapshot.hasInterface_iff_mem, ← content,
      ← hasInterface_eq_content] at known

end Announcement

end Cache

end Hotplug
