import Hotplug.Proofs.Cache.Glance
import Hotplug.Proofs.Cache.Reachable

/-!
# What enters a cache

Six paths lead into a cache: loading everything, announced interfaces,
interfaces that are loaded again, changed properties, a medium that was put in,
and a property that is fetched. Whatever a step leaves in the cache was there
before, or came by one of these paths; and what comes is of an admitted
identifier, under an allowed interface name, and has a plain value.
-/

namespace Hotplug

namespace Snapshot

variable {allowed : String → Prop} {before middle after snapshot : Snapshot}
  {interface property : String} {slot : Slot} {properties : Properties}
  {interfaces : Interfaces}

/-- The interfaces that were not there before have allowed names, and the values
that were not there before are plain. -/
structure Entered (allowed : String → Prop) (before after : Snapshot) :
    Prop where
  interfaces : ∀ interface, after.hasInterface interface = true →
    before.hasInterface interface = true ∨ allowed interface
  values : ∀ interface name value, after.slot? interface name =
    some (.resolved value) →
    before.slot? interface name = some (.resolved value) ∨ value.plain = value

namespace Entered

theorem refl : Entered allowed snapshot snapshot :=
  ⟨fun _ => .inl, fun _ _ _ => .inl⟩

theorem trans (first : Entered allowed before middle)
    (second : Entered allowed middle after) :
    Entered allowed before after where
  interfaces interface has :=
    (second.interfaces interface has).elim (first.interfaces interface) .inr
  values interface name value found :=
    (second.values interface name value found).elim
      (first.values interface name value) .inr

theorem foldl {α : Type} {items : List α} {step : Snapshot → α → Snapshot}
    (each : ∀ item ∈ items, ∀ left, Entered allowed left (step left item)) :
    Entered allowed snapshot (items.foldl step snapshot) := by
  induction items generalizing snapshot with
  | nil => exact refl
  | cons item items induction =>
      have first := each item List.mem_cons_self snapshot
      apply first.trans
      exact induction fun later member => each later
        (List.mem_cons_of_mem item member)

theorem empty : Entered allowed before empty where
  interfaces interface has := by simp [Snapshot.empty, hasInterface] at has
  values interface name value found := by simp at found

theorem drop : Entered allowed snapshot (snapshot.drop interface) where
  interfaces other has := by
    rw [hasInterface, Snapshot.drop, Std.ExtTreeMap.contains_erase,
      Bool.and_eq_true] at has
    exact .inl has.2
  values other name value found := by
    rw [slot?_drop] at found
    split at found
    · cases found
    · exact .inl found

theorem set (allows : allowed interface)
    (plain : ∀ value, slot = .resolved value → value.plain = value) :
    Entered allowed snapshot (snapshot.set interface property slot) where
  interfaces other has := by
    rcases hasInterface_insert_iff.mp has with rfl | before
    · exact .inr allows
    · exact .inl before
  values other name value found := by
    rw [slot?_set] at found
    split at found
    · exact .inr (plain value (Option.some.inj found))
    · exact .inl found

theorem update (plain : ∀ value, slot = .resolved value → value.plain = value) :
    Entered allowed snapshot (snapshot.update interface property slot) where
  interfaces other has := .inl (hasInterface_update.mp has)
  values other name value found := by
    rw [slot?_update] at found
    split at found
    · exact .inr (plain value (Option.some.inj found))
    · exact .inl found

theorem put (allows : allowed interface) :
    Entered allowed snapshot (snapshot.put interface properties.plain) where
  interfaces other has := by
    rcases hasInterface_insert_iff.mp has with rfl | before
    · exact .inr allows
    · exact .inl before
  values other name value found := by
    rw [slot?_put] at found
    split at found
    · rw [Properties.getElem?_plain, Option.map_map] at found
      obtain ⟨raw, -, same⟩ := Option.map_eq_some_iff.mp found
      cases same
      exact .inr raw.plain_plain
    · exact .inl found

/-- Whatever was known of a device, all interfaces of an object take its
place. -/
theorem ofInterfaces (allows : ∀ interface ∈ interfaces, allowed interface) :
    Entered allowed before (ofInterfaces interfaces.plain) where
  interfaces interface has :=
    .inr (allows interface ((hasInterface_ofInterfaces interfaces).mp has))
  values interface name value found := by
    rw [slot?_ofInterfaces, Interfaces.plain,
      Std.ExtTreeMap.getElem?_map] at found
    obtain ⟨plain, here, same⟩ := Option.map_eq_some_iff.mp found
    obtain ⟨properties, held, raw⟩ := Option.bind_eq_some_iff.mp here
    obtain ⟨properties', -, rfl⟩ := Option.map_eq_some_iff.mp held
    rw [Properties.getElem?_plain] at raw
    obtain ⟨value, -, rfl⟩ := Option.map_eq_some_iff.mp raw
    cases same
    exact .inr value.plain_plain

/-- Interfaces are announced through the filter on their names. -/
theorem announce {config : Config}
    (admits : ∀ interface, config.admitsInterface interface = true →
      allowed interface) :
    Entered allowed snapshot (snapshot.announce config interfaces) := by
  apply foldl
  intro entry member left
  exact put (admits entry.1 (List.mem_filter.mp member).2)

/-- Changes come through no filter on names. -/
theorem applyChanges {invalidated : List String} (allows : allowed interface) :
    Entered allowed snapshot
      (snapshot.applyChanges interface properties.plain invalidated) := by
  have dropped : Entered allowed snapshot (invalidated.foldl
      (fun left name => left.set interface name .unresolved) snapshot) := by
    apply foldl
    intro name member left
    apply set allows
    intro value absurd
    cases absurd
  apply dropped.trans
  apply foldl
  intro entry member left
  apply set allows
  intro value same
  have found := Std.ExtTreeMap.mem_toList_iff_getElem?_eq_some.mp member
  rw [Properties.getElem?_plain] at found
  obtain ⟨raw, -, plain⟩ := Option.map_eq_some_iff.mp found
  rw [← Slot.resolved.inj same, ← plain, raw.plain_plain]

end Entered

end Snapshot

namespace Cache

variable {σ α : Type} {config : Config} {settings : CacheSettings σ}
  {allowed : String → String → Prop} {before middle after cache : Cache σ}
  {udi : String}

/-- What is cached of a device, which is nothing if it is not tracked. -/
def content (cache : Cache σ) (udi : String) : Snapshot :=
  cache.devices[udi]?.getD .empty

theorem slot?_eq_content (cache : Cache σ) (key : PropertyKey) :
    cache.slot? key = (cache.content key.udi).slot? key.interface
      key.property := by
  rw [slot?, content]
  cases cache.devices[key.udi]? <;> simp

theorem hasInterface_eq_content (cache : Cache σ) (udi interface : String) :
    cache.hasInterface udi interface =
      (cache.content udi).hasInterface interface := by
  rw [hasInterface, content]
  cases cache.devices[udi]? <;> simp [Snapshot.empty, Snapshot.hasInterface]

/-- Each device that was not tracked before is not left out, and what entered
each device is allowed and plain. -/
structure Entered (config : Config) (allowed : String → String → Prop)
    (before after : Cache σ) :
    Prop where
  tracked : ∀ udi, after.tracks udi = true → before.tracks udi = true ∨
    config.leavesOut udi = false
  content : ∀ udi, (before.content udi).Entered (allowed udi)
    (after.content udi)

namespace Entered

theorem refl : Entered config allowed cache cache :=
  ⟨fun _ => .inl, fun _ => .refl⟩

theorem trans (first : Entered config allowed before middle)
    (second : Entered config allowed middle after) :
    Entered config allowed before after where
  tracked udi tracks := (second.tracked udi tracks).elim
    (first.tracked udi) .inr
  content udi := (first.content udi).trans (second.content udi)

/-- What was there at first may come again. -/
theorem again (first : Entered config allowed before middle)
    (second : Entered config
      (fun udi interface => before.hasInterface udi interface = true ∨
        allowed udi interface) middle after) :
    Entered config allowed before after where
  tracked udi tracks := (second.tracked udi tracks).elim
    (first.tracked udi) .inr
  content udi := by
    constructor
    · intro interface has
      rcases (second.content udi).interfaces interface
        has with kept | known | allows
      · exact (first.content udi).interfaces interface kept
      · exact .inl (hasInterface_eq_content before udi interface ▸ known)
      · exact .inr allows
    · intro interface name value found
      rcases (second.content udi).values interface name value
        found with kept | plain
      · exact (first.content udi).values interface name value kept
      · exact .inr plain

theorem congr (same : after.devices = before.devices) :
    Entered config allowed before after where
  tracked udi tracks := .inl (by rwa [tracks_iff, ← same, ← tracks_iff])
  content udi := by
    rw [Cache.content, Cache.content, same]
    exact .refl

theorem insert {snapshot : Snapshot} (kept : config.leavesOut udi = false)
    (here : (cache.content udi).Entered (allowed udi) snapshot) :
    Entered config allowed cache
      { cache with devices := cache.devices.insert udi snapshot } where
  tracked other tracks := by
    rw [tracks_iff, Named.getElem?_insert] at tracks
    split at tracks
    · next same => exact .inr (same ▸ kept)
    · exact .inl (tracks_iff.mpr tracks)
  content other := by
    rw [Cache.content, Cache.content, Named.getElem?_insert]
    split
    · next same => exact same ▸ here
    · exact .refl

theorem erase :
    Entered config allowed cache
      { cache with devices := cache.devices.erase udi } where
  tracked other tracks := by
    rw [tracks_iff, Std.ExtTreeMap.getElem?_erase] at tracks
    split at tracks
    · cases tracks
    · exact .inl (tracks_iff.mpr tracks)
  content other := by
    rw [Cache.content, Cache.content, Std.ExtTreeMap.getElem?_erase]
    split
    · exact .empty
    · exact .refl

theorem onDevice {change : Snapshot → Snapshot}
    (here : ∀ snapshot, cache.devices[udi]? = some snapshot →
      snapshot.Entered (allowed udi) (change snapshot)) :
    Entered config allowed cache (cache.onDevice udi change) where
  tracked other tracks := .inl (by rwa [tracks_onDevice] at tracks)
  content other := by
    rw [Cache.content, Cache.content, getElem?_onDevice]
    split
    · next same =>
        subst same
        cases found : cache.devices[udi]? with
        | none => exact .refl
        | some snapshot => exact here snapshot found
    · exact .refl

/-- Everything is loaded anew, through the filter on identifiers alone. -/
theorem load {objects : Objects}
    (loaded : after.devices = admitted config objects)
    (allows : ∀ udi interfaces, listed? config objects udi = some interfaces →
      ∀ interface ∈ interfaces, allowed udi interface) :
    Entered config allowed before after where
  tracked udi tracks := by
    rw [tracks_iff, loaded, getElem?_admitted, Option.isSome_map,
      listed?] at tracks
    split at tracks
    · next admits =>
        rw [Bool.and_eq_true, Bool.not_eq_true'] at admits
        exact .inr admits.2
    · cases tracks
  content udi := by
    rw [Cache.content, Cache.content, loaded, getElem?_admitted]
    cases found : listed? config objects udi with
    | none => exact .empty
    | some interfaces => exact .ofInterfaces (allows udi interfaces found)

theorem keeps_call (step : Run σ α) :
    (call step).Keeps (Entered config allowed before) := by
  intro cache entered
  rw [call, Run.yields_zoom]
  unfold Run.Yields
  split <;> exact entered.trans (.congr rfl)

end Entered

theorem keeps_absorbRemoved_entered (udi : String) (interfaces : List String) :
    (absorbRemoved settings udi interfaces).Keeps
      (Entered settings.config allowed before) := by
  intro cache entered
  rw [absorbRemoved]
  split
  · exact entered
  · next taken =>
      rw [Run.yields_bind, Run.yields_get]
      cases found : cache.devices[udi]? with
      | none => exact entered
      | some snapshot =>
          dsimp only
          split
          · exact entered.trans .erase
          · have here : cache.content udi = snapshot := by
              rw [content, found]; rfl
            apply entered.trans
            apply Entered.insert
            · exact Bool.eq_false_iff.mpr fun leftOut => taken (.inr leftOut)
            · rw [here]
              exact .foldl fun _ _ _ => .drop

theorem yields_absorbMedia_entered {size : UInt64} {changed : Properties}
    (kept : settings.config.leavesOut udi = false)
    (baseline : allowed udi settings.config.baselineInterface) :
    (absorbMedia settings udi (cache.tracks udi) size changed.plain).Yields
      cache (fun _ left => Entered settings.config allowed cache left)
      fun left => Entered settings.config allowed cache left := by
  refine yields_absorbMedia_judged.mono ?_
    fun left failed => .congr (by rw [failed.1])
  intro events left judged
  rcases judged.cases with ⟨-, same⟩ | ⟨untracked, -, inserted⟩ | ⟨-, -, erased⟩
  · exact .congr same
  · have nothing : cache.content udi = .empty := by
      rw [content, getElem?_of_untracked untracked]
      rfl
    refine (Entered.insert kept ?_).trans (.congr inserted)
    rw [nothing]
    exact .put baseline
  · exact Entered.erase.trans (.congr erased)

theorem yields_absorbChanged_entered {interface : String} {changed : Properties}
    {invalidated : List String}
    (baseline : allowed udi settings.config.baselineInterface)
    (allows : cache.tracks udi = true → allowed udi interface) :
    (absorbChanged settings udi interface changed invalidated).Yields cache
      (fun _ left => Entered settings.config allowed cache left)
      fun left => Entered settings.config allowed cache left := by
  by_cases dropped : udi = "" ∨
    ¬Text.startsBy udi settings.config.identifierPrefix = true ∨
      settings.config.leavesOut udi = true
  · rw [absorbChanged_of_dropped dropped]
    exact .refl
  · rw [yields_absorbChanged_iff dropped]
    have kept : settings.config.leavesOut udi = false :=
      Bool.eq_false_iff.mpr fun leftOut => dropped (.inr (.inr leftOut))
    have applied : Entered settings.config allowed cache
        (cache.onDevice udi fun snapshot =>
          snapshot.applyChanges interface changed.plain invalidated) := by
      apply Entered.onDevice
      intro snapshot found
      exact .applyChanges (allows (tracks_iff.mpr (by rw [found]; rfl)))
    cases reportedSize? settings.config interface changed.plain with
    | none => exact applied
    | some size =>
        dsimp only
        rw [← tracks_onDevice]
        exact (yields_absorbMedia_entered kept baseline).mono
          (fun _ _ => applied.trans) fun _ => applied.trans

variable [Service σ]

theorem keeps_refetch_entered {interface : String}
    (known : before.hasInterface udi interface = true) :
    (refetch udi interface).Keeps (Entered config allowed before) := by
  intro cache entered
  rw [refetch, Run.yields_bind]
  refine (Entered.keeps_call _ cache entered).mono ?_ fun _ => id
  intro reply left entered
  cases reply with
  | error reason => exact entered
  | ok properties =>
      apply entered.again
      apply Entered.onDevice
      intro snapshot _
      exact .put (.inl known)

theorem yields_absorbAdded_entered {interfaces : Interfaces}
    (admits : ∀ interface, settings.config.admitsInterface interface = true →
      allowed udi interface) :
    (absorbAdded settings udi interfaces).Yields cache
      (fun _ left => Entered settings.config allowed cache left)
      fun left => Entered settings.config allowed cache left := by
  rw [absorbAdded]
  dsimp only
  split
  · exact .refl
  · next taken =>
      rw [Run.yields_bind, Run.yields_get, Run.yields_bind, Run.yields_modify,
        Run.yields_bind]
      have announced : Entered settings.config allowed cache { cache with
          devices := cache.devices.insert udi
            ((cache.content udi).announce settings.config interfaces) } := by
        apply Entered.insert
        · exact Bool.eq_false_iff.mpr fun leftOut => taken (.inr leftOut)
        · exact .announce admits
      refine (Run.yields_forM (Entered settings.config allowed cache)
        announced ?_).mono (fun _ _ => id) fun _ => id
      intro interface member left entered
      have known : cache.hasInterface udi interface = true := by
        rw [hasInterface_eq_content, Snapshot.hasInterface_iff_mem]
        exact Std.ExtTreeMap.mem_keys.mp (List.mem_filter.mp member).1
      exact keeps_refetch_entered known left entered

/-- What a signal lets in: interfaces whose names are admitted, the baseline
interface, and the interface that it says was changed. -/
theorem yields_absorb_entered (signal : Signal)
    (admits : ∀ udi interface, settings.config.admitsInterface interface =
      true → allowed udi interface)
    (baseline : ∀ udi, allowed udi settings.config.baselineInterface)
    (allows : ∀ udi interface changed invalidated,
      signal = .propertiesChanged udi interface changed invalidated →
      cache.tracks udi = true → allowed udi interface) :
    (absorb settings signal).Yields cache
      (fun _ left => Entered settings.config allowed cache left)
      fun left => Entered settings.config allowed cache left := by
  cases signal with
  | interfacesAdded udi interfaces =>
      exact yields_absorbAdded_entered (admits udi)
  | interfacesRemoved udi interfaces =>
      exact keeps_absorbRemoved_entered udi interfaces cache .refl
  | propertiesChanged udi interface changed invalidated =>
      exact yields_absorbChanged_entered (baseline udi)
        (allows udi interface _ _ rfl)

/-- What the service holds now of the devices that the configuration admits. -/
def Offers (config : Config) (service : σ) (udi interface : String) : Prop :=
  ∃ objects left interfaces,
    (Service.managedObjects : Run σ _).start service =
      (.ok (.ok objects), left) ∧
      listed? config objects udi = some interfaces ∧ interface ∈ interfaces

theorem yields_reload_entered
    (offered : ∀ udi interface,
      Offers settings.config cache.service udi interface →
      allowed udi interface) :
    (reload settings).Yields cache
      (fun _ left => Entered settings.config allowed cache left)
      fun left => Entered settings.config allowed cache left := by
  rw [reload, Run.yields_bind, call, Run.yields_zoom]
  refine (Run.yields_start _ _).mono ?_ fun _ _ => .congr rfl
  intro reply service answered
  apply Entered.load rfl
  intro udi interfaces found interface member
  cases reply with
  | error reason => simp [listed?, Except.toOption] at found
  | ok objects =>
      exact offered udi interface ⟨objects, service, interfaces,
        answered, found, member⟩

theorem keeps_read_entered (key : PropertyKey) (reach : Reach) :
    (read key reach).Keeps (Entered config allowed before) := by
  intro cache entered
  rw [read, Run.yields_bind, Run.yields_get]
  split
  · exact entered
  · exact entered
  · rw [Run.yields_bind, Run.yields_modify, Run.yields_ensuring, fetchClaimed,
      Run.yields_bind]
    have claimed : Entered config allowed before (cache.claim key) :=
      entered.trans (.congr rfl)
    refine (Entered.keeps_call _ _ claimed).mono ?_
      fun left asked => asked.trans (.congr rfl)
    intro reply left asked
    rw [Run.yields_bind, Run.yields_modify, Run.yields_pure]
    have stored : Entered config allowed before
        (storeSlot key (slotOf reply) left) := by
      apply asked.trans
      apply Entered.onDevice
      intro snapshot _
      apply Snapshot.Entered.update
      intro value same
      cases reply with
      | error reason => cases same
      | ok raw =>
          cases same
          exact raw.plain_plain
    exact stored.trans (.congr rfl)

/-- The request loads everything anew. -/
def Request.Loads (cache : Cache σ) : Request → Prop
  | .reload => True
  | .identifiers | .contains _ | .snapshot _ => cache.devices.isEmpty = true
  | .read _ _ | .readAnywhere _ _ _ => False

/-- A request loads everything anew, or reads one property, or does nothing to
the cache. -/
theorem Request.yields_perform {after : Cache σ → Prop} (request : Request)
    (loaded : request.Loads cache → (Cache.reload settings).Yields cache
      (fun _ => after) after)
    (read : ¬request.Loads cache → ∀ key reach,
      (Cache.read key reach).Yields cache (fun _ => after) after)
    (still : ¬request.Loads cache → after cache) :
    (request.perform settings).Yields cache (fun _ => after) after := by
  cases request with
  | reload =>
      rw [perform, Run.yields_bind]
      exact loaded trivial
  | identifiers | contains udi | snapshot udi =>
      rw [perform, Run.yields_bind]
      refine Run.yields_bind.mpr ?_
      rw [loadIfEmpty, Run.yields_bind, Run.yields_get]
      split
      · next empty =>
          rw [Run.yields_bind]
          exact loaded empty
      · next filled => exact still filled
  | read key reach =>
      rw [perform, Run.yields_bind]
      exact read id key reach
  | readAnywhere udi property reach =>
      rw [perform, Run.yields_bind, Cache.readAnywhere, Run.yields_bind,
        Run.yields_get]
      split
      · exact still id
      · exact read id _ reach

theorem Request.yields_perform_entered (request : Request)
    (offered : request.Loads cache → ∀ udi interface,
      Offers settings.config cache.service udi interface →
      allowed udi interface) :
    (request.perform settings).Yields cache
      (fun _ left => Entered settings.config allowed cache left)
      fun left => Entered settings.config allowed cache left := by
  apply request.yields_perform
  · intro loads
    exact yields_reload_entered (offered loads)
  · intro _ key reach
    exact keeps_read_entered key reach cache .refl
  · intro _
    exact .refl

end Cache

end Hotplug
