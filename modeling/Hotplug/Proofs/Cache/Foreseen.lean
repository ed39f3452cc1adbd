import Hotplug.Proofs.Cache.Outline
import Hotplug.Proofs.Determined
import Hotplug.Service.Memory

/-!
# What a cache can be foreseen to answer

While a service rests it answers the same as often as it is asked. Then the
cache over it is only filled in: with the devices, if it was empty, and with
slots for properties that were fetched. A fetch leaves a slot also if it found
nothing, and from then on the interface of the slot carries the property. So
what is asked of any interface is foreseen for those names only that no one asks
of a single interface without a slot; these names are watched.
-/

namespace Hotplug

namespace Snapshot

variable {before after snapshot : Snapshot} {interface name : String}

theorem hasInterface_iff_mem_names :
    snapshot.hasInterface interface = true ↔ interface ∈ snapshot.names := by
  rw [hasInterface_iff_mem, names, Std.ExtTreeMap.mem_keys]

theorem hasInterface_congr (names : after.names = before.names)
    (interface : String) :
    after.hasInterface interface = before.hasInterface interface := by
  rw [Bool.eq_iff_iff, hasInterface_iff_mem_names,
    hasInterface_iff_mem_names, names]

/-- Only the names of interfaces matter, and which of them have a slot. -/
theorem carrier?_congr (names : after.names = before.names)
    (slots : ∀ interface, (after.slot? interface name).isSome =
      (before.slot? interface name).isSome) :
    after.carrier? name = before.carrier? name := by
  have carriers : ∀ snapshot : Snapshot, snapshot.carrier? name =
      ((snapshot.interfaces.map fun _ slots => slots.contains name).toList.find?
        fun entry => entry.2).map (·.1) := by
    intro snapshot
    rw [carrier?, Std.ExtTreeMap.toList_map, List.find?_map, Option.map_map]
    rfl
  have same : (after.interfaces.map fun _ slots => slots.contains name) =
      before.interfaces.map fun _ slots => slots.contains name := by
    apply Std.ExtTreeMap.ext_getElem?
    intro interface
    have present := hasInterface_congr names interface
    have slot := slots interface
    rw [slot?_eq_bind, slot?_eq_bind] at slot
    simp only [hasInterface,
      Std.ExtTreeMap.contains_eq_isSome_getElem?] at present
    rw [Std.ExtTreeMap.getElem?_map, Std.ExtTreeMap.getElem?_map]
    cases heldAfter : after.interfaces[interface]? with
    | none =>
        cases heldBefore : before.interfaces[interface]? with
        | none => rfl
        | some _ => simp [heldAfter, heldBefore] at present
    | some _ =>
        cases heldBefore : before.interfaces[interface]? with
        | none => simp [heldAfter, heldBefore] at present
        | some _ => simpa [heldAfter, heldBefore] using slot
  rw [carriers, carriers, same]

theorem slot?_ne_none_of_carrier?
    (carries : snapshot.carrier? name = some interface) :
    snapshot.slot? interface name ≠ none := by
  obtain ⟨entry, found, rfl⟩ := Option.map_eq_some_iff.mp carries
  have held := Std.ExtTreeMap.mem_toList_iff_getElem?_eq_some.mp
    (List.mem_of_find?_eq_some found)
  have present := List.find?_some found
  rw [Std.ExtTreeMap.contains_eq_isSome_getElem?,
    Option.isSome_iff_ne_none] at present
  rw [slot?_eq_bind, held]
  exact present

end Snapshot

/-- The service answers the same as often as it is asked, and goes on to do
so. -/
def Service.AtRest {σ : Type} [Service σ] (service : σ) : Prop :=
  ∃ rest : σ → Prop, rest service ∧
    Run.Determined rest rest Service.managedObjects ∧
    ∀ key, Run.Determined rest rest (Service.getProperty key)

/-- A service in memory answers the same until it is changed. -/
theorem MemoryService.atRest (service : MemoryService) :
    Service.AtRest service := by
  refine ⟨fun left => left.forgetCalls = service.forgetCalls, rfl,
    ⟨.ok service.objects, trivial, ?_⟩,
      fun key => ⟨service.answerProperty key, trivial, ?_⟩⟩
  · intro left same
    have objects : left.forgetCalls.objects = service.forgetCalls.objects := by
      rw [same]
    exact ⟨congrArg Except.ok objects, same⟩
  · intro left same
    have answered : ∀ other : MemoryService,
        other.answerProperty key = other.forgetCalls.answerProperty key :=
          fun _ => rfl
    refine ⟨?_, same⟩
    rw [answered service, ← same]
    rfl

/-- What is fixed about a cache while its service rests. -/
structure Outlook (σ : Type) where
  settings : CacheSettings σ
  /-- The states of the service in which it rests. -/
  rest : σ → Prop
  objects : Except ServiceError Objects
  answers : PropertyKey → Except ServiceError Value
  /-- What is cached of the devices once the cache is loaded, before anything is
  fetched. -/
  devices : Named Snapshot
  inflight : List PropertyKey
  watched : List String

namespace Outlook

variable {σ : Type} {outlook : Outlook σ} {cache : Cache σ} {key : PropertyKey}

/-- What the service holds for a configuration. -/
def offered (outlook : Outlook σ) : Named Snapshot :=
  Cache.admitted outlook.settings.config (outlook.objects.toOption.getD ∅)

/-- The service answers as it is said to, and goes on to rest. A cache that
stays empty is one of a service that holds nothing for it. -/
structure Right [Service σ] (outlook : Outlook σ) : Prop where
  managedObjects : ∀ service, outlook.rest service →
    Service.managedObjects.Yields service
      (fun reply left => reply = outlook.objects ∧ outlook.rest left)
        fun _ => False
  getProperty : ∀ service, outlook.rest service → ∀ key,
    (Service.getProperty key).Yields service
      (fun reply left => reply = outlook.answers key ∧ outlook.rest left)
        fun _ => False
  stays : outlook.devices.isEmpty = true → outlook.offered = outlook.devices

/-- A slot is what it was, or it was not known and holds what the service
answers. No slot is added under a watched name. -/
def Fetched (outlook : Outlook σ) (key : PropertyKey)
    (before after : Option Slot) :
    Prop :=
  after = before ∨
    (before = none ∧ key.property ∉ outlook.watched ∨
      before = some .unresolved) ∧
      key ∉ outlook.inflight ∧ after = some (Cache.slotOf (outlook.answers key))

/-- The cache is loaded, and some of its slots were filled in. -/
structure Shows (outlook : Outlook σ) (cache : Cache σ) : Prop where
  rest : outlook.rest cache.service
  inflight : cache.inflight = outlook.inflight
  names : ∀ udi : String,
    cache.devices[udi]?.map Snapshot.names =
      outlook.devices[udi]?.map Snapshot.names
  slots : ∀ (key : PropertyKey) before after,
    outlook.devices[key.udi]? = some before →
    cache.devices[key.udi]? = some after → outlook.Fetched key
      (before.slot? key.interface key.property)
        (after.slot? key.interface key.property)

/-- The cache is not loaded yet. -/
structure Awaits (outlook : Outlook σ) (cache : Cache σ) : Prop where
  rest : outlook.rest cache.service
  inflight : cache.inflight = outlook.inflight
  empty : cache.devices.isEmpty = true
  offered : outlook.offered = outlook.devices

def Covers (outlook : Outlook σ) (cache : Cache σ) : Prop :=
  outlook.Shows cache ∨ outlook.Awaits cache

/-- What reading a property of a single interface answers. -/
def foreseen (outlook : Outlook σ) (key : PropertyKey) : Option Value :=
  match outlook.devices[key.udi]? with
  | none => none
  | some snapshot =>
      if snapshot.hasInterface key.interface then
        match snapshot.slot? key.interface key.property with
        | some (.resolved value) => some value
        | some .absent => none
        | _ =>
            if key ∈ outlook.inflight then none
            else (Cache.slotOf (outlook.answers key)).value?
      else none

namespace Shows

theorem exists_before (shows : outlook.Shows cache) {udi : String}
    {after : Snapshot} (found : cache.devices[udi]? = some after) :
    ∃ before, outlook.devices[udi]? = some before ∧ after.names =
      before.names := by
  have names := shows.names udi
  rw [found] at names
  obtain ⟨before, held, same⟩ := Option.map_eq_some_iff.mp names.symm
  exact ⟨before, held, same.symm⟩

theorem tracks (shows : outlook.Shows cache) (udi : String) :
    cache.tracks udi = outlook.devices.contains udi := by
  have names := congrArg Option.isSome (shows.names udi)
  simpa [Cache.tracks] using names

theorem keys (shows : outlook.Shows cache) :
    cache.devices.keys = outlook.devices.keys := by
  refine Named.keys_congr fun udi => ?_
  rw [← Std.ExtTreeMap.contains_iff_mem, ← Std.ExtTreeMap.contains_iff_mem,
    ← shows.tracks]
  rfl

theorem interfacesOf (shows : outlook.Shows cache) (udi : String) :
    cache.interfacesOf udi =
      (outlook.devices[udi]?.map Snapshot.names).getD [] := by
  rw [← shows.names udi, Cache.interfacesOf]
  cases cache.devices[udi]? <;> rfl

theorem hasInterface (shows : outlook.Shows cache) (udi interface : String) :
    cache.hasInterface udi interface =
      outlook.devices[udi]?.any
        fun snapshot => snapshot.hasInterface interface := by
  rw [Cache.hasInterface]
  have names := shows.names udi
  cases found : cache.devices[udi]? with
  | none =>
      rw [found] at names
      rw [Option.map_eq_none_iff.mp names.symm]
      rfl
  | some after =>
      obtain ⟨before, held, same⟩ := shows.exists_before found
      rw [held]
      exact Snapshot.hasInterface_congr same interface

theorem glance (shows : outlook.Shows cache) (key : PropertyKey) :
    cache.glance key .fetched = .settled (outlook.foreseen key) ∨
      cache.glance key .fetched = .busy ∧ outlook.foreseen key = none ∨
      cache.glance key .fetched = .free ∧ key ∉ outlook.inflight ∧
        outlook.foreseen key = (Cache.slotOf (outlook.answers key)).value? ∧
        ∃ before, outlook.devices[key.udi]? = some before ∧
          (before.slot? key.interface key.property = none ∨
            before.slot? key.interface key.property = some .unresolved) := by
  have names := shows.names key.udi
  cases found : cache.devices[key.udi]? with
  | none =>
      rw [found] at names
      simp [Cache.glance, foreseen, found, Option.map_eq_none_iff.mp names.symm]
  | some after =>
      obtain ⟨before, held, same⟩ := shows.exists_before found
      have interface := Snapshot.hasInterface_congr same key.interface
      have fetched := shows.slots key before after held found
      simp only [Cache.glance, foreseen, found, held, interface, shows.inflight]
      cases before.hasInterface key.interface with
      | false => simp
      | true =>
          rcases fetched with unchanged | ⟨unknown, notBusy, filled⟩
          · rw [unchanged]
            by_cases busy : key ∈ outlook.inflight
            · rcases slot : before.slot? key.interface
                key.property with _ | _ | _ | _ <;> simp [busy]
            · rcases slot : before.slot? key.interface
                key.property with _ | _ | _ | _ <;> simp [busy, slot]
          · left
            rw [filled]
            have unknownSlot : before.slot? key.interface key.property = none ∨
                before.slot? key.interface key.property = some .unresolved :=
              unknown.imp_left And.left
            rcases unknownSlot with slot | slot <;>
              cases outlook.answers key <;>
                simp [slot, notBusy, Cache.slotOf, Slot.value?]

/-- Under a watched name there are slots where they were before anything was
fetched. -/
theorem carrier? (shows : outlook.Shows cache) {name : String}
    (watched : name ∈ outlook.watched) (udi : String) :
    (cache.devices[udi]?.bind fun snapshot => snapshot.carrier? name) =
      outlook.devices[udi]?.bind fun snapshot => snapshot.carrier? name := by
  have names := shows.names udi
  cases found : cache.devices[udi]? with
  | none =>
      rw [found] at names
      rw [Option.map_eq_none_iff.mp names.symm]
  | some after =>
      obtain ⟨before, held, same⟩ := shows.exists_before found
      rw [held]
      refine Snapshot.carrier?_congr same fun interface => ?_
      rcases shows.slots ⟨udi, interface, name⟩ before after held found with
        unchanged | ⟨⟨none, unwatched⟩ | unresolved, _, filled⟩
      · rw [unchanged]
      · exact (unwatched watched).elim
      · simp [unresolved, filled]

theorem stored (shows : outlook.Shows cache) {service : σ}
    (rest : outlook.rest service) {before : Snapshot}
    (held : outlook.devices[key.udi]? = some before)
    (unknown : before.slot? key.interface key.property = none ∧
        key.property ∉ outlook.watched ∨
      before.slot? key.interface key.property = some .unresolved)
    (idle : key ∉ outlook.inflight) :
    outlook.Shows
      (Cache.storeSlot key (Cache.slotOf (outlook.answers key))
        { cache with service := service }) where
  rest := rest
  inflight := shows.inflight
  names udi := by
    rw [← shows.names udi]
    simp only [Cache.storeSlot, Cache.onDevice, Std.ExtTreeMap.getElem?_modify]
    split
    · next same =>
        obtain rfl : key.udi = udi := by simpa using same
        cases cache.devices[key.udi]? with
        | none => rfl
        | some after =>
            refine congrArg some (Named.keys_congr fun interface => ?_)
            rw [← Snapshot.hasInterface_iff_mem,
              ← Snapshot.hasInterface_iff_mem]
            exact Snapshot.hasInterface_update
    · rfl
  slots := by
    intro other known after found foundAfter
    simp only [Cache.storeSlot, Cache.onDevice,
      Std.ExtTreeMap.getElem?_modify] at foundAfter
    split at foundAfter
    · next same =>
        obtain ⟨present, isPresent, rfl⟩ := Option.map_eq_some_iff.mp foundAfter
        have sameDevice : key.udi = other.udi := by simpa using same
        rw [Snapshot.slot?_update]
        split
        · next here =>
            obtain ⟨sameInterface, sameProperty, _⟩ := here
            obtain rfl : key = other := by
              cases key
              cases other
              simp_all
            obtain rfl : before = known :=
              Option.some.inj (held.symm.trans found)
            exact .inr ⟨unknown, idle, rfl⟩
        · exact shows.slots other known present found (sameDevice ▸ isPresent)
    · exact shows.slots other known after found foundAfter

end Shows

section Reading

variable [Service σ]

/-- A property is read as foreseen, if no slot is added for it under a watched
name. -/
theorem determined_read (right : outlook.Right)
    (allowed : key.property ∉ outlook.watched ∨
      ∃ before, outlook.devices[key.udi]? = some before ∧
        before.slot? key.interface key.property ≠ none) :
    Run.Determined outlook.Shows outlook.Shows (Cache.read key .fetched) := by
  refine ⟨outlook.foreseen key, trivial, fun cache shows => ?_⟩
  rw [Cache.read, Run.yields_bind, Run.yields_get]
  rcases shows.glance key with settled | ⟨busy, nothing⟩ | ⟨free, idle, fetched,
    before, held, slot⟩
  · rw [settled]
    exact ⟨rfl, shows⟩
  · rw [busy]
    exact ⟨nothing.symm, shows⟩
  · rw [free]
    simp only [Run.yields_bind, Run.yields_modify, Run.yields_ensuring,
      Cache.fetchClaimed, Cache.call, Run.yields_zoom, Run.yields_pure]
    refine (right.getProperty cache.service shows.rest key).mono ?_
      fun _ none => none
    intro reply service outcome
    obtain ⟨rfl, rest⟩ := outcome
    have unknown : before.slot? key.interface key.property = none ∧
          key.property ∉ outlook.watched ∨
        before.slot? key.interface key.property = some .unresolved := by
      refine slot.imp_left fun none => ⟨none, ?_⟩
      rcases allowed with unwatched | ⟨other, heldToo, present⟩
      · exact unwatched
      · obtain rfl : before = other := Option.some.inj (held.symm.trans heldToo)
        exact (present none).elim
    have stored := shows.stored rest held unknown idle
    refine ⟨fetched.symm, stored.rest, ?_, stored.names, stored.slots⟩
    simp [Cache.release, Cache.claim, Cache.storeSlot, Cache.onDevice,
      shows.inflight]

/-- What is asked of any interface is asked of the one that carries it. -/
theorem determined_readAnywhere (right : outlook.Right) (udi : String)
    {name : String} (watched : name ∈ outlook.watched) :
    Run.Determined outlook.Shows outlook.Shows
      (Cache.readAnywhere udi name .fetched) := by
  cases carries : outlook.devices[udi]?.bind
      fun snapshot => snapshot.carrier? name with
  | none =>
      refine Run.Settles.bindGet (fun cache shows => ?_)
        (Run.Determined.pure none)
      rw [shows.carrier? watched, carries]
  | some interface =>
      obtain ⟨before, held, carrier⟩ := Option.bind_eq_some_iff.mp carries
      have read : Run.Determined outlook.Shows outlook.Shows
          (Cache.read ⟨udi, interface, name⟩ .fetched) :=
        determined_read right (.inr ⟨before, held,
          Snapshot.slot?_ne_none_of_carrier? carrier⟩)
      refine Run.Settles.bindGet (fun cache shows => ?_) read
      rw [shows.carrier? watched, carries]

end Reading

section Loading

theorem Shows.ofOffered {service : σ} (rest : outlook.rest service)
    (inflight : cache.inflight = outlook.inflight)
    (offered : outlook.offered = outlook.devices) :
    outlook.Shows { cache with
      service := service, devices := outlook.offered } where
  rest := rest
  inflight := inflight
  names udi := by rw [offered]
  slots key before after held found := by
    rw [offered] at found
    obtain rfl := Option.some.inj (held.symm.trans found)
    exact .inl rfl

variable [Service σ]

theorem yields_loadIfEmpty (right : outlook.Right)
    (covers : outlook.Covers cache) :
    (Cache.loadIfEmpty outlook.settings).Yields cache (fun _ => outlook.Shows)
      fun _ => False := by
  have offered : cache.devices.isEmpty = true → outlook.offered =
    outlook.devices ∧
      outlook.rest cache.service ∧ cache.inflight = outlook.inflight := by
    intro empty
    rcases covers with shows | awaits
    · refine ⟨right.stays ?_, shows.rest, shows.inflight⟩
      rw [Named.isEmpty_iff_forall] at empty ⊢
      intro udi
      have names := shows.names udi
      rw [empty udi] at names
      exact Option.map_eq_none_iff.mp names.symm
    · exact ⟨awaits.offered, awaits.rest, awaits.inflight⟩
  rw [Cache.loadIfEmpty, Run.yields_bind, Run.yields_get]
  split
  · next empty =>
      obtain ⟨same, rest, inflight⟩ := offered empty
      simp only [Cache.reload, Cache.call, Run.yields_bind, Run.yields_zoom,
        Run.yields_modify, Run.yields_get, Run.yields_pure]
      refine (right.managedObjects cache.service rest).mono ?_
        fun _ none => none
      intro reply service outcome
      obtain ⟨rfl, restLeft⟩ := outcome
      exact .ofOffered restLeft inflight same
  · next loaded =>
      rcases covers with shows | awaits
      · exact shows
      · exact (loaded awaits.empty).elim

theorem answers_identifiers (right : outlook.Right) :
    Run.Answers outlook.Covers outlook.Shows
      (Cache.identifiers outlook.settings) outlook.devices.keys := by
  intro cache covers
  rw [Cache.identifiers, Run.yields_bind]
  refine (yields_loadIfEmpty right covers).mono ?_ fun _ none => none
  intro _ left shows
  exact ⟨shows.keys, shows⟩

theorem yields_contains (right : outlook.Right) (covers : outlook.Covers cache)
    (udi : String) :
    (Cache.contains outlook.settings udi).Yields cache
      (fun answer left => answer = outlook.devices.contains udi ∧
        outlook.Shows left)
      fun _ => False := by
  rw [Cache.contains, Run.yields_bind]
  refine (yields_loadIfEmpty right covers).mono ?_ fun _ none => none
  intro _ left shows
  exact ⟨shows.tracks udi, shows⟩

end Loading

section Regarding

variable [Service σ]

/-- There is an outlook on a cache whose service rests, with any names
watched. -/
theorem exists_of_atRest (settings : CacheSettings σ) {cache : Cache σ}
    (atRest : Service.AtRest cache.service) (watched : List String) :
    ∃ outlook : Outlook σ, outlook.settings = settings ∧
      outlook.watched = watched ∧ outlook.Right ∧ outlook.Covers cache := by
  obtain ⟨rest, rests, ⟨objects, _, managed⟩, properties⟩ := atRest
  obtain ⟨answers, answered⟩ := Classical.axiomOfChoice properties
  have right : ∀ devices : Named Snapshot,
      (devices.isEmpty = true →
        Cache.admitted settings.config (objects.toOption.getD ∅) = devices) →
      (Outlook.mk settings rest objects answers devices cache.inflight
          watched).Right :=
    fun devices stays => ⟨managed, fun service holds key =>
      (answered key).2 service holds, stays⟩
  by_cases empty : cache.devices.isEmpty = true
  · exact ⟨⟨settings, rest, objects, answers, _, cache.inflight, watched⟩,
      rfl, rfl, right _ fun _ => rfl, .inr ⟨rests, rfl, empty, rfl⟩⟩
  · refine ⟨⟨settings, rest, objects, answers, cache.devices, cache.inflight,
      watched⟩, rfl, rfl,
      right _ (absurd · empty), .inl ⟨rests, rfl, fun _ => rfl, ?_⟩⟩
    intro key before after held found
    obtain rfl := Option.some.inj (held.symm.trans found)
    exact .inl rfl

end Regarding

end Outlook

end Hotplug
