import Hotplug.Proofs.Cache.Snapshot
import Hotplug.Proofs.Cache.Tracking
import Hotplug.Service.Memory

/-!
# The events of a cache mirror what it tracks

Whoever replays the events of a cache over what was tracked before knows what is
tracked afterwards, and is never told of a loss or a change of something
unknown. The events of a signal, and all that it changes, concern the object of
the signal alone, and a device that loses an interface is said to be removed.
-/

namespace Hotplug

namespace DeviceEvent

variable {tracked : String → Bool} {event : DeviceEvent}
  {events later : List DeviceEvent}

/-- Every event but an appearance is about an identifier that is tracked when
the events before it are replayed. -/
def Grounded (tracked : String → Bool) (events : List DeviceEvent) : Prop :=
  ∀ earlier event later, events = earlier ++ event :: later →
    event ≠ .added event.udi → replay tracked earlier event.udi = true

theorem grounded_nil : Grounded tracked [] := by
  intro earlier event later split
  simp at split

theorem grounded_cons : Grounded tracked (event :: events) ↔
    (event ≠ .added event.udi → tracked event.udi = true) ∧
      Grounded (event.applyTo tracked) events := by
  constructor
  · intro grounded
    refine ⟨grounded [] event events rfl, ?_⟩
    intro earlier other later split
    exact grounded (event :: earlier) other later
      (by rw [split, List.cons_append])
  · intro given earlier other later split
    obtain ⟨first, rest⟩ := given
    cases earlier with
    | nil =>
        cases split
        exact first
    | cons head earlier =>
        cases split
        exact rest earlier other later rfl

theorem Grounded.append (first : Grounded tracked events)
    (second : Grounded (replay tracked events) later) :
    Grounded tracked (events ++ later) := by
  induction events generalizing tracked with
  | nil => exact second
  | cons event events induction =>
      obtain ⟨here, rest⟩ := grounded_cons.mp first
      exact grounded_cons.mpr ⟨here, induction rest second⟩

end DeviceEvent

namespace Cache

variable {σ : Type} {settings : CacheSettings σ}
  {before middle after cache : Cache σ} {udi : String} {concerned : List String}
  {events later : List DeviceEvent}

/-- The events tell how a cache got from one state to the other, by signals
about some identifiers. -/
structure Mirrors (concerned : List String) (before after : Cache σ)
    (events : List DeviceEvent) : Prop where
  replayed : after.tracks = DeviceEvent.replay before.tracks events
  grounded : DeviceEvent.Grounded before.tracks events
  named : ∀ event ∈ events, event.udi ∈ concerned
  untouched : ∀ other : String, other ∉ concerned → after.devices[other]? =
    before.devices[other]?
  claims : after.inflight = before.inflight
  lost : ∀ udi interface, before.hasInterface udi interface = true →
    after.hasInterface udi interface = false → .removed udi ∈ events

namespace Mirrors

theorem refl : Mirrors concerned cache cache [] where
  replayed := rfl
  grounded := DeviceEvent.grounded_nil
  named := by simp
  untouched _ _ := rfl
  claims := rfl
  lost udi interface has lacks := by
    rw [has] at lacks
    contradiction

theorem mono {further : List String}
    (mirrors : Mirrors concerned before after events)
    (wider : ∀ udi ∈ concerned, udi ∈ further) :
    Mirrors further before after events where
  replayed := mirrors.replayed
  grounded := mirrors.grounded
  named event member := wider _ (mirrors.named event member)
  untouched other apart := mirrors.untouched other
    fun member => apart (wider other member)
  claims := mirrors.claims
  lost := mirrors.lost

/-- A device that is said to be removed may have lost anything. -/
theorem ofRemoval (removed : .removed udi ∈ events)
    (untouched : ∀ other : String, other ≠ udi → after.devices[other]? =
      before.devices[other]?)
    (claims : after.inflight = before.inflight)
    (replayed : after.tracks = DeviceEvent.replay before.tracks events)
    (grounded : DeviceEvent.Grounded before.tracks events)
    (named : ∀ event ∈ events, event.udi = udi) :
    Mirrors [udi] before after events where
  replayed := replayed
  grounded := grounded
  named event member := List.mem_singleton.mpr (named event member)
  untouched other apart := untouched other (by simpa using apart)
  claims := claims
  lost other interface has lacks := by
    by_cases same : other = udi
    · exact same ▸ removed
    · rw [hasInterface, untouched other same] at lacks
      rw [hasInterface, lacks] at has
      contradiction

theorem ofTold {step : Run (Cache σ) (List DeviceEvent)}
    {failed : Cache σ → Prop}
    (told : step.Yields cache
      (fun events left => Told cache left events) failed)
    (mirrors : step.Yields cache (fun events left => left.tracks =
      DeviceEvent.replay cache.tracks events → Mirrors [udi] cache left events)
      fun _ => True) :
    step.Yields cache (fun events left => Mirrors [udi] cache left events)
      fun _ => True :=
  (told.and mirrors).mono (fun _ _ both => both.2 both.1.replayed)
    fun _ _ => trivial

theorem trans {further : List String}
    (first : Mirrors concerned before middle events)
    (second : Mirrors further middle after later) :
    Mirrors (concerned ++ further) before after (events ++ later) where
  replayed := by rw [second.replayed, first.replayed, DeviceEvent.replay_append]
  grounded := first.grounded.append (first.replayed ▸ second.grounded)
  named event member := by
    rcases List.mem_append.mp member with early | late
    · exact List.mem_append_left _ (first.named event early)
    · exact List.mem_append_right _ (second.named event late)
  untouched other apart := by
    rw [List.mem_append, not_or] at apart
    rw [second.untouched other apart.2, first.untouched other apart.1]
  claims := second.claims.trans first.claims
  lost udi interface has lacks := by
    cases held : middle.hasInterface udi interface with
    | true =>
        exact List.mem_append_right _ (second.lost udi interface held lacks)
    | false => exact List.mem_append_left _ (first.lost udi interface has held)

end Mirrors

/-- Nothing but one device may have changed, and this is tracked, with all of
its interfaces, if it was. -/
structure Grows (udi : String) (before after : Cache σ) : Prop where
  untouched : ∀ other : String, other ≠ udi → after.devices[other]? =
    before.devices[other]?
  claims : after.inflight = before.inflight
  kept : ∀ interface, before.hasInterface udi interface = true →
    after.hasInterface udi interface = true

namespace Grows

theorem trans (first : Grows udi before middle)
    (second : Grows udi middle after) :
    Grows udi before after where
  untouched other apart := (second.untouched other apart).trans
    (first.untouched other apart)
  claims := second.claims.trans first.claims
  kept interface has := second.kept interface (first.kept interface has)

theorem ofInsert {snapshot : Snapshot}
    (kept : ∀ interface, cache.hasInterface udi interface = true →
      snapshot.hasInterface interface = true) :
    Grows udi cache { cache with
      devices := cache.devices.insert udi snapshot } where
  untouched other apart := by
    simp [Std.ExtTreeMap.getElem?_insert, Ne.symm apart]
  claims := rfl
  kept interface has := by
    simpa [hasInterface] using kept interface has

theorem ofDevice {change : Snapshot → Snapshot}
    (kept : ∀ snapshot interface, Snapshot.hasInterface snapshot interface =
      true → (change snapshot).hasInterface interface = true) :
    Grows udi cache (cache.onDevice udi change) where
  untouched other apart := by rw [getElem?_onDevice, if_neg (Ne.symm apart)]
  claims := rfl
  kept interface has := by
    simp only [hasInterface, getElem?_onDevice, ↓reduceIte] at has ⊢
    cases found : cache.devices[udi]? with
    | none => simp [found] at has
    | some snapshot =>
        rw [found] at has
        exact kept snapshot interface has

theorem yields_call {α : Type} (udi : String) (step : Run σ α) :
    (call step).Yields cache (fun _ left => Grows udi cache left) fun left =>
      Grows udi cache left := by
  rw [call, Run.yields_zoom]
  unfold Run.Yields
  split <;> exact ⟨fun _ _ => rfl, rfl, fun _ => id⟩

/-- A device that grows has lost nothing. -/
theorem mirrors (grows : Grows udi before after)
    (replayed : after.tracks = DeviceEvent.replay before.tracks events)
    (grounded : DeviceEvent.Grounded before.tracks events)
    (named : ∀ event ∈ events, event.udi = udi) :
    Mirrors [udi] before after events where
  replayed := replayed
  grounded := grounded
  named event member := List.mem_singleton.mpr (named event member)
  untouched other apart := grows.untouched other (by simpa using apart)
  claims := grows.claims
  lost other interface has lacks := by
    by_cases same : other = udi
    · subst same
      rw [grows.kept interface has] at lacks
      contradiction
    · rw [hasInterface, grows.untouched other same] at lacks
      rw [hasInterface, lacks] at has
      contradiction

end Grows

theorem grounded_added {tracked : String → Bool} :
    DeviceEvent.Grounded tracked [.added udi] :=
  DeviceEvent.grounded_cons.mpr ⟨fun other => (other rfl).elim,
    DeviceEvent.grounded_nil⟩

theorem yields_absorbRemoved_mirrors (udi : String) (interfaces : List String)
    (cache : Cache σ) :
    (absorbRemoved settings udi interfaces).Yields cache
      (fun events left => Mirrors [udi] cache left events) fun _ => True := by
  refine Mirrors.ofTold (yields_absorbRemoved_told udi interfaces cache) ?_
  rw [absorbRemoved]
  split
  · exact fun _ => .refl
  · rw [Run.yields_bind, Run.yields_get]
    cases found : cache.devices[udi]? with
    | none => exact fun _ => .refl
    | some snapshot =>
        have tracked : cache.tracks udi = true := by simp [tracks_iff, found]
        dsimp only
        split
        · refine fun replayed => .ofRemoval (by simp) ?_ rfl replayed ?_
            (by simp [DeviceEvent.udi])
          · intro other apart
            simp [Std.ExtTreeMap.getElem?_erase, Ne.symm apart]
          · exact DeviceEvent.grounded_cons.mpr ⟨fun _ => tracked,
              DeviceEvent.grounded_nil⟩
        · refine fun replayed => .ofRemoval (by simp) ?_ rfl replayed ?_ ?_
          · intro other apart
            simp [Std.ExtTreeMap.getElem?_insert, Ne.symm apart]
          · exact DeviceEvent.grounded_cons.mpr
              ⟨fun _ => tracked, grounded_added⟩
          · intro event member
            obtain rfl | rfl : event = .removed udi ∨ event = .added udi := by
              simpa using member
            · rfl
            · rfl

theorem yields_absorbMedia_mirrors (settings : CacheSettings σ) (udi : String)
    (size : UInt64) (changed : Properties) (cache : Cache σ) :
    (absorbMedia settings udi (cache.tracks udi) size changed).Yields cache
      (fun events left => Mirrors [udi] cache left events) fun _ => True := by
  refine Mirrors.ofTold (yields_absorbMedia_told settings udi
    size changed cache) ?_
  refine yields_absorbMedia_judged.mono ?_ fun _ _ => trivial
  intro events left judged replayed
  rcases judged.cases with ⟨rfl, same⟩ | ⟨untracked, rfl,
    inserted⟩ | ⟨tracked, rfl, erased⟩
  · have grows : Grows udi cache left := by
      constructor
      · intro other _
        rw [same]
      · exact judged.claims
      · intro interface has
        rwa [hasInterface, same]
    exact grows.mirrors replayed DeviceEvent.grounded_nil (by simp)
  · have grows : Grows udi cache left := by
      constructor
      · intro other apart
        simp [inserted, Std.ExtTreeMap.getElem?_insert, Ne.symm apart]
      · exact judged.claims
      · intro interface has
        simp [hasInterface, getElem?_of_untracked untracked] at has
    exact grows.mirrors replayed grounded_added (by simp [DeviceEvent.udi])
  · refine .ofRemoval (by simp) ?_ judged.claims replayed ?_
      (by simp [DeviceEvent.udi])
    · intro other apart
      simp [erased, Std.ExtTreeMap.getElem?_erase, Ne.symm apart]
    · exact DeviceEvent.grounded_cons.mpr ⟨fun _ => tracked,
        DeviceEvent.grounded_nil⟩

theorem mirrors_changeReport (interface : String) (changed : Properties)
    (invalidated : List String) (changes : Changes) :
    Mirrors [udi] cache
      (cache.onDevice udi fun snapshot => snapshot.applyChanges interface
        changed invalidated)
      (cache.changeReport udi changes) := by
  have grows : Grows udi cache
      (cache.onDevice udi fun snapshot => snapshot.applyChanges interface
          changed invalidated) :=
    .ofDevice fun _ _ => (Snapshot.hasInterface_applyChanges_iff changed
      invalidated).mpr ∘ .inl
  have same : (cache.onDevice udi fun snapshot =>
      snapshot.applyChanges interface changed invalidated).tracks =
          cache.tracks :=
    funext fun _ => tracks_onDevice
  unfold changeReport
  split
  · next reported =>
      have tracked := (Bool.and_eq_true_iff.mp reported).1
      exact grows.mirrors same
        (DeviceEvent.grounded_cons.mpr ⟨fun _ => tracked,
          DeviceEvent.grounded_nil⟩)
        (by simp [DeviceEvent.udi])
  · exact grows.mirrors same DeviceEvent.grounded_nil (by simp)

theorem yields_absorbChanged_mirrors (udi interface : String)
    (changed : Properties) (invalidated : List String) (cache : Cache σ) :
    (absorbChanged settings udi interface changed invalidated).Yields cache
      (fun events left => Mirrors [udi] cache left events) fun _ => True := by
  by_cases dropped : udi = "" ∨
    ¬Text.startsBy udi settings.config.identifierPrefix = true ∨
      settings.config.leavesOut udi = true
  · rw [absorbChanged_of_dropped dropped]
    exact .refl
  · rw [yields_absorbChanged_iff dropped]
    have reported : Mirrors [udi] cache _ _ :=
      mirrors_changeReport interface changed.plain
      invalidated (modifications changed.plain invalidated)
    cases reportedSize? settings.config interface changed.plain with
    | none => exact reported
    | some size =>
        have judged := yields_absorbMedia_mirrors settings udi
          (size.toUInt64?.getD 0) changed.plain
              (cache.onDevice udi fun snapshot => snapshot.applyChanges
                interface changed.plain invalidated)
        rw [tracks_onDevice] at judged
        refine judged.mono ?_ fun _ _ => trivial
        intro events left mirrors
        exact (reported.trans mirrors).mono (by simp)

variable [Service σ]

theorem Grows.yields_refetch (udi interface : String) (cache : Cache σ) :
    (refetch udi interface).Yields cache (fun _ left => Grows udi cache left)
      fun left => Grows udi cache left := by
  rw [refetch, Run.yields_bind]
  refine (Grows.yields_call udi _).mono ?_ fun _ failed => failed
  intro reply left asked
  cases reply with
  | error reason => exact asked
  | ok properties =>
      exact asked.trans (.ofDevice
        fun _ _ => Snapshot.hasInterface_insert_iff.mpr ∘ .inr)

theorem Grows.yields_refetches (grows : Grows udi before cache)
    (interfaces : List String) :
    (interfaces.forM (refetch udi)).Yields cache
      (fun _ left => Grows udi before left)
      fun left => Grows udi before left := by
  refine Run.yields_forM (Grows udi before) grows ?_
  intro interface _ left grown
  exact (Grows.yields_refetch udi interface left).mono (fun _ _ => grown.trans)
    fun _ => grown.trans

theorem yields_absorbAdded_mirrors (udi : String) (interfaces : Interfaces)
    (cache : Cache σ) :
    (absorbAdded settings udi interfaces).Yields cache
      (fun events left => Mirrors [udi] cache left events) fun _ => True := by
  refine Mirrors.ofTold (yields_absorbAdded_told udi interfaces cache) ?_
  rw [absorbAdded]
  split
  · exact fun _ => .refl
  · rw [Run.yields_bind, Run.yields_get, Run.yields_bind, Run.yields_modify,
      Run.yields_bind]
    have announced : Grows udi cache { cache with
        devices := cache.devices.insert udi
          ((cache.devices[udi]?.getD .empty).announce settings.config
              interfaces) } := by
      apply Grows.ofInsert
      intro interface has
      apply Snapshot.hasInterface_announce_iff.mpr
      left
      cases found : cache.devices[udi]? with
      | none => simp [hasInterface, found] at has
      | some snapshot => simpa [hasInterface, found] using has
    refine (announced.yields_refetches _).mono ?_ fun _ _ => trivial
    intro _ left grows
    rw [Run.yields_pure]
    split
    · exact fun replayed => grows.mirrors replayed grounded_added
        (by simp [DeviceEvent.udi])
    · exact fun replayed => grows.mirrors replayed
        DeviceEvent.grounded_nil (by simp)

/-- The events of one signal mirror what it changes. -/
theorem yields_absorb_mirrors (signal : Signal) (cache : Cache σ) :
    (absorb settings signal).Yields cache
      (fun events left => Mirrors [signal.udi] cache left events)
        fun _ => True := by
  cases signal with
  | interfacesAdded udi interfaces =>
      exact yields_absorbAdded_mirrors udi interfaces cache
  | interfacesRemoved udi interfaces =>
      exact yields_absorbRemoved_mirrors udi interfaces cache
  | propertiesChanged udi interface changed invalidated =>
      exact yields_absorbChanged_mirrors udi interface changed invalidated cache

/-- Handle signals one after the other, and collect their events. -/
def absorbAll (settings : CacheSettings σ) :
    List Signal → Run (Cache σ) (List DeviceEvent)
  | [] => return []
  | signal :: signals => do
      let events ← absorb settings signal
      return events ++ (← absorbAll settings signals)

theorem yields_absorbAll_mirrors (signals : List Signal) (cache : Cache σ) :
    (absorbAll settings signals).Yields cache
      (fun events left => Mirrors (signals.map Signal.udi) cache left events)
        fun _ => True := by
  induction signals generalizing cache with
  | nil => exact .refl
  | cons signal signals induction =>
      rw [absorbAll, Run.yields_bind]
      refine (yields_absorb_mirrors signal cache).mono ?_ fun _ _ => trivial
      intro events middle first
      rw [Run.yields_bind]
      refine (induction middle).mono ?_ fun _ _ => trivial
      intro later left second
      exact first.trans second

/-- Whatever the service and the judge of media do: if signals of any kind are
handled without a crash, their events mirror how the tracked identifiers, and
the interfaces of the devices, have changed. This holds of a single signal and
of any run of them. -/
theorem mirrors_of_start_absorb (settings : CacheSettings σ)
    (before after : Cache σ) (events : List DeviceEvent) :
    (∀ signal, (absorb settings signal).start before = (.ok events, after) →
      Mirrors [signal.udi] before after events) ∧
    ∀ signals, (absorbAll settings signals).start before = (.ok events, after) →
      Mirrors (signals.map Signal.udi) before after events := by
  constructor
  · intro signal handled
    have mirrors : (absorb settings signal).Yields before _ _ :=
      yields_absorb_mirrors signal before
    rwa [Run.Yields, handled] at mirrors
  · intro signals handled
    have mirrors : (absorbAll settings signals).Yields before _ _ :=
      yields_absorbAll_mirrors signals before
    rwa [Run.Yields, handled] at mirrors

def disc : String := "/s/b/sr0"

/-- A disc in a drive, where every device may hold removable media. -/
def tray : Cache MemoryService where
  service := {}
  devices := Std.ExtTreeMap.ofList [(disc, Snapshot.mk (Std.ExtTreeMap.ofList
    [("s.Block", ∅), ("s.Filesystem", ∅)]))]

/-- The disc loses its file system, and then it is taken out. -/
def ejecting : List Signal :=
  [.interfacesRemoved disc ["s.Filesystem"],
    .propertiesChanged disc "s.Block"
      (Std.ExtTreeMap.ofList [("Size", Value.uint 0)]) []]

def ejected : Except Crash (List DeviceEvent) × Cache MemoryService :=
  (absorbAll ⟨.compact, fun _ _ _ => return true⟩ ejecting).start tray

theorem mirrors_of_start_absorb_ejecting :
    ∃ events, ejected.1 = .ok events ∧ events.map DeviceEvent.udi =
      [disc, disc, disc, disc] ∧
      Mirrors [disc, disc] tray ejected.2 events := by
  have told : (ejected.1.toOption.map
    fun events => events.map DeviceEvent.udi) =
      some [disc, disc, disc, disc] := by decide +kernel
  rcases start : ejected with ⟨reason | events, after⟩
  · rw [start] at told
    cases told
  · rw [start] at told
    exact ⟨events, rfl, Option.some.inj told,
      (mirrors_of_start_absorb _ tray after events).2 ejecting start⟩

end Cache

end Hotplug
