import Hotplug.Hub.Delivery
import Hotplug.Hub.Lifetime
import Hotplug.Proofs.Hub.Account

/-!
# Hubs that are shut down

Once no backend is attached and no slot refers to an object, this stays so,
whatever is asked of the hub. All its handles are invalid, and it answers
nothing any more.
-/

namespace Hotplug

/-- A slot without an object gets none if none was made for it. -/
theorem HandleTable.object_acquired_of_bare {ρ : Type} {alive : ρ → Bool}
    {object : Option ρ} {before : Option (HandleSlot ρ)}
    (bare : ∀ slot, before = some slot → slot.object = none)
    (unmade : object = none) :
    (acquired alive object before).object = none := by
  have none : (before.getD ⟨0, none⟩).object = none := by
    cases before with
    | none => rfl
    | some slot => exact bare slot rfl
  rw [acquired, none, unmade, ite_self]

namespace Hub

variable {n : Nat} {α β ο κ ω : Type}

/-- No backend is attached, and no slot refers to an object. -/
structure Idle (hub : Hub n β ο κ ω) : Prop where
  unattached : hub.registry.roster = []
  bare : ∀ (udi : String) slot, hub.registry.slots[udi]? = some slot →
    slot.object = none

theorem Idle.shutDown (hub : Hub n β ο κ ω) : hub.shutDown.Idle where
  unattached := rfl
  bare udi slot found := by
    obtain ⟨before, _, gone⟩ :=
      Option.bind_eq_some_iff.mp
        (HandleTable.getElem?_detachAll.symm.trans found)
    exact HandleTable.object_of_detached gone

theorem Idle.congr {other : Type} {hub : Hub n β ο κ ω}
    {left : Hub n β ο κ other} (idle : hub.Idle)
    (roster : left.registry.roster = hub.registry.roster)
    (slots : left.registry.slots = hub.registry.slots) :
    left.Idle where
  unattached := roster.trans idle.unattached
  bare udi slot found := idle.bare udi slot (slots ▸ found)

/-- The client has what it had, and the hub is idle if it was. -/
structure Resting (client : ω) (idle : Prop) (hub : Hub n β ο κ ω) : Prop where
  unchanged : hub.client = client
  idle : idle → hub.Idle

namespace Resting

variable {client : ω} {idle : Prop} {hub : Hub n β ο κ ω}

theorem ofSlots (resting : Resting client idle hub)
    {change : HandleTable (ObjectRef n ο) → HandleTable (ObjectRef n ο)}
    (bare : idle → ∀ (udi : String) slot, (change hub.registry.slots)[udi]? =
      some slot → slot.object = none) :
    Resting client idle (hub.onSlots change) where
  unchanged := resting.unchanged
  idle holds := ⟨(resting.idle holds).unattached, bare holds⟩

theorem ofSameObjects (resting : Resting client idle hub)
    {change : HandleTable (ObjectRef n ο) → HandleTable (ObjectRef n ο)}
    (same : ∀ (udi : String) slot, (change hub.registry.slots)[udi]? =
      some slot → ∃ before, hub.registry.slots[udi]? = some before ∧
      before.object = slot.object) :
    Resting client idle (hub.onSlots change) := by
  refine resting.ofSlots fun holds udi slot found => ?_
  obtain ⟨before, earlier, object⟩ := same udi slot found
  exact object.symm.trans ((resting.idle holds).bare udi before earlier)

theorem congr {left : Hub n β ο κ ω} (resting : Resting client idle hub)
    (sameClient : left.client = hub.client)
    (roster : left.registry.roster = hub.registry.roster)
    (slots : left.registry.slots = hub.registry.slots) :
    Resting client idle left where
  unchanged := sameClient.trans resting.unchanged
  idle holds := (resting.idle holds).congr roster slots

theorem keeps_atBackend (i : Fin n) (step : Run β α) :
    (atBackend i step).Keeps (Resting client idle : Hub n β ο κ ω → Prop) := by
  intro hub resting
  rw [yields_atBackend]
  exact (Run.yields_start step _).mono (fun _ _ _ => resting.congr rfl rfl rfl)
    fun _ _ => resting.congr rfl rfl rfl

theorem clone (resting : Resting client idle hub) (handle : Handle) :
    Resting client idle (hub.clone handle) := by
  unfold Hub.clone
  split
  · exact resting.ofSameObjects fun _ _ => HandleTable.exists_of_acquire?
  · exact resting

variable [Backend β ο]

theorem release (resting : Resting client idle hub) (handle : Handle) :
    Resting client idle (hub.release handle) := by
  unfold Hub.release
  split
  · exact resting.ofSameObjects fun _ _ => HandleTable.exists_of_release
  · exact resting

theorem yields_makeObject (resting : Resting client idle hub) (udi : String) :
    (makeObject udi).Yields hub
      (fun object left => Resting client idle left ∧ (idle → object = none))
      (Resting client idle) := by
  rw [Hub.yields_makeObject]
  cases route : hub.route? udi with
  | none => exact ⟨resting, fun _ => rfl⟩
  | some i =>
      have busy : ¬idle := by
        intro holds
        rw [route?, (resting.idle holds).unattached] at route
        cases route
      refine (keeps_atBackend i (Backend.objectOf udi) hub resting).mono ?_
        fun _ => id
      exact fun _ _ restingLeft => ⟨restingLeft, fun holds => absurd holds busy⟩

theorem keeps_find (udi : String) :
    (find udi).Keeps (Resting client idle : Hub n β ο κ ω → Prop) := by
  intro hub resting
  by_cases empty : udi = ""
  · subst empty
    exact yields_find_null.mpr resting
  · cases present : hub.registry.slots[udi]? with
    | some slot =>
        rw [yields_find_of_slot empty present]
        exact resting.ofSameObjects
          fun _ _ => HandleTable.exists_of_counted present
    | none =>
        rw [yields_find_of_no_slot empty present]
        refine (resting.yields_makeObject udi).mono ?_ fun _ => id
        intro object left outcome
        obtain ⟨restingLeft, unmade⟩ := outcome
        refine restingLeft.ofSlots fun holds other slot found => ?_
        have bare := (restingLeft.idle holds).bare
        rw [HandleTable.getElem?_acquireWith] at found
        split at found
        · cases found
          exact HandleTable.object_acquired_of_bare (bare udi) (unmade holds)
        · exact bare other slot found

theorem keeps_updateHandles (event : DeviceEvent) :
    (updateHandles event).Keeps (Resting client idle :
      Hub n β ο κ ω → Prop) := by
  intro hub resting
  cases event with
  | added udi =>
      rw [updateHandles, Run.yields_bind, Run.yields_get]
      split
      · rw [Run.yields_bind]
        refine (resting.yields_makeObject udi).mono ?_ fun _ => id
        intro object left outcome
        obtain ⟨restingLeft, unmade⟩ := outcome
        rw [Run.yields_modify]
        refine restingLeft.ofSlots fun holds other slot found => ?_
        rw [HandleTable.getElem?_rebind] at found
        split at found
        · obtain ⟨before, _, rfl⟩ := Option.map_eq_some_iff.mp found
          exact unmade holds
        · exact (restingLeft.idle holds).bare other slot found
      · exact resting
  | removed udi =>
      rw [updateHandles, Run.yields_modify]
      refine resting.ofSlots fun holds other slot found => ?_
      rw [HandleTable.getElem?_detach] at found
      split at found
      · obtain ⟨before, _, gone⟩ := Option.bind_eq_some_iff.mp found
        exact HandleTable.object_of_detached gone
      · exact (resting.idle holds).bare other slot found
  | changed udi changes => exact resting

theorem account :
    Account fun _ => (Resting client idle : Hub n β ο κ ω → Prop) where
  shuffled _ resting := resting
  finding udi resting := keeps_find udi _ resting
  releasing handle resting := resting.release handle
  listing _ i _ _ := keeps_atBackend i _
  answering _ ref := ⟨keeps_atBackend ref.backend _,
    fun _ _ => keeps_atBackend ref.backend _⟩
  naming _ ref := keeps_atBackend ref.backend _

end Resting

section Dormancy

variable [Backend β ο] {hub : Hub n β ο κ ω}

/-- The hub answers nothing any more, and does nothing. -/
structure Dormant (hub : Hub n β ο κ ω) : Prop where
  invalid : ∀ handle, hub.isValid handle = false
  /-- Handles that are looked up are invalid too, and no backend is asked for
  them. -/
  find : ∀ udi, ∃ handle left, (find udi).start hub = (.ok handle, left) ∧
    left.isValid handle = false ∧ left.backends = hub.backends
  everyDevice : everyDevice.start hub = (.ok [], hub)
  select : ∀ predicate parent, (select predicate parent).start hub =
    (.ok [], hub)
  query : ∀ text parent, (query text parent).start hub = (.ok [], hub)
  devicesWith : ∀ capability parent, (devicesWith capability parent).start hub =
    (.ok [], hub)
  storageFromPath : ∀ pathExists path,
    (storageFromPath pathExists path).start hub = (.ok .null, hub)
  reload : reload.start hub = (.ok 0, hub)
  /-- No event is delivered, to whatever callbacks. -/
  pump : ∀ callbacks, (pump callbacks).start hub = (.ok 0, hub)

namespace Idle

theorem isValid_eq_false (idle : hub.Idle) (handle : Handle) :
    hub.isValid handle = false := by
  rw [isValid, object?, HandleTable.object?]
  split
  · cases found : hub.registry.slots[handle.udi]? with
    | none => rfl
    | some slot =>
        rw [Option.bind_some, HandleSlot.living, idle.bare _ slot found]; rfl
  · rfl

theorem yields_find (idle : hub.Idle) (udi : String) :
    (find udi).Yields hub (fun _ left => left.Idle ∧
      left.backends = hub.backends) fun _ => False := by
  have unrouted : hub.route? udi = none := by
    rw [route?, idle.unattached]
    rfl
  have resting : Resting hub.client True hub := ⟨rfl, fun _ => idle⟩
  have asksNobody : (find udi).Yields hub
    (fun _ left => left.backends = hub.backends) fun _ => False := by
    by_cases empty : udi = ""
    · subst empty
      exact yields_find_null.mpr rfl
    · cases present : hub.registry.slots[udi]? with
      | some slot => exact (yields_find_of_slot empty present).mpr rfl
      | none =>
          rw [yields_find_of_no_slot empty present, yields_makeObject, unrouted]
          exact rfl
  refine ((Resting.keeps_find udi hub resting).and asksNobody).mono ?_
    fun _ => And.right
  exact fun _ _ outcome => ⟨outcome.1.idle trivial, outcome.2⟩

theorem start_everyDevice (idle : hub.Idle) :
    everyDevice.start hub = (.ok [], hub) := by
  apply Run.Yields.start_eq
  rw [everyDevice, Run.yields_bind, Run.yields_get, idle.unattached]
  exact ⟨rfl, rfl⟩

theorem start_select (idle : hub.Idle) (predicate : Predicate)
    (parent : Option String) :
    (select predicate parent).start hub = (.ok [], hub) := by
  rw [select]
  split
  · rfl
  · split
    · exact idle.start_everyDevice
    · apply Run.Yields.start_eq
      rw [Run.yields_bind, Run.yields_get, idle.unattached]
      exact ⟨rfl, rfl⟩

theorem start_devicesWith (idle : hub.Idle) (capability : Capability)
    (parent : Option String) :
    (devicesWith capability parent).start hub = (.ok [], hub) := by
  apply Run.Yields.start_eq
  rw [devicesWith, Run.yields_bind, Run.yields_get, idle.unattached]
  exact ⟨rfl, rfl⟩

theorem start_storageFromPath (idle : hub.Idle) (pathExists : String → Bool)
    (path : String) :
    (storageFromPath pathExists path).start hub = (.ok .null, hub) := by
  rw [storageFromPath]
  split
  · rw [Run.start_bind, idle.start_devicesWith]
    rfl
  · rfl

theorem dormant (idle : hub.Idle) : hub.Dormant where
  invalid := idle.isValid_eq_false
  find udi := by
    obtain ⟨handle, left, started, leftIdle, backends⟩ :=
      (idle.yields_find udi).exists_start
    exact ⟨handle, left, started, leftIdle.isValid_eq_false handle, backends⟩
  everyDevice := idle.start_everyDevice
  select := idle.start_select
  query _ := idle.start_select _
  devicesWith := idle.start_devicesWith
  storageFromPath := idle.start_storageFromPath
  reload := by
    apply Run.Yields.start_eq
    rw [Hub.reload, Run.yields_bind, Run.yields_get, idle.unattached]
    exact ⟨rfl, rfl⟩
  pump callbacks := by
    apply Run.Yields.start_eq
    rw [Hub.pump, Run.yields_bind, Run.yields_get, idle.unattached]
    exact ⟨rfl, rfl⟩

end Idle

end Dormancy

end Hub

end Hotplug
