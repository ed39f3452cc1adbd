import Hotplug.Proofs.Cache.EventStream
import Hotplug.Proofs.Cache.MemoryContent

/-!
# Which interfaces are cached, and which are held

Snapshots and the objects of a service in memory are compared here by the names
of their interfaces alone. A cache is complete when it tracks exactly the
objects that its service holds and the configuration admits, with the interfaces
that they have there.
-/

namespace Hotplug

namespace Snapshot

variable {snapshot : Snapshot} {interface other : String}

theorem hasInterface_iff_mem :
    snapshot.hasInterface other = true ↔ other ∈ snapshot.interfaces := by
  simp [hasInterface]

theorem isEmpty_iff :
    snapshot.isEmpty = true ↔ ∀ other, ¬snapshot.hasInterface other = true := by
  rw [isEmpty, Named.isEmpty_iff_forall]
  simp [hasInterface]

theorem hasInterface_update {property : String} {slot : Slot} :
    (snapshot.update interface property slot).hasInterface other = true ↔
      snapshot.hasInterface other = true := by
  rw [hasInterface_iff, hasInterface_iff, update,
    Std.ExtTreeMap.getElem?_modify]
  by_cases same : interface = other
  · simp [same]
  · simp [same]

theorem hasInterface_ofInterfaces (interfaces : Interfaces) :
    (ofInterfaces interfaces.plain).hasInterface other = true ↔
      other ∈ interfaces := by
  simp [hasInterface, ofInterfaces, Interfaces.plain]

theorem hasInterface_foldl_drop (interfaces : List String) :
    (interfaces.foldl drop snapshot).hasInterface other = true ↔
      other ∉ interfaces ∧ snapshot.hasInterface other = true := by
  induction interfaces generalizing snapshot with
  | nil => simp
  | cons first interfaces induction =>
      rw [List.foldl_cons, induction]
      simp only [drop, hasInterface, Std.ExtTreeMap.contains_iff_mem,
        Std.ExtTreeMap.mem_erase,
        ne_eq, Std.LawfulEqCmp.compare_eq_iff_eq, List.mem_cons, not_or,
          @eq_comm _ other first]
      grind

end Snapshot

namespace MemoryService

variable {service : MemoryService} {udi other : String}

theorem getElem?_objects_add (interfaces : Interfaces) :
    (service.add udi interfaces).2.objects[other]? =
      if udi = other then
        some (interfaces.toList.foldl
          (fun merged entry => merged.insert entry.1 entry.2)
          (service.objects[udi]?.getD ∅))
      else service.objects[other]? := by
  rw [add, put, Std.ExtTreeMap.getElem?_insert]
  by_cases same : udi = other <;> simp [same]

/-- What is left of an object when interfaces are taken from it. -/
def without (interfaces : List String) (present : Interfaces) : Interfaces :=
  interfaces.foldl (fun rest interface => rest.erase interface) present

theorem mem_without {interfaces : List String} {present : Interfaces}
    {name : String} :
    name ∈ without interfaces present ↔ name ∉ interfaces ∧ name ∈ present := by
  rw [without, Std.ExtTreeMap.mem_iff_isSome_getElem?,
    Std.ExtTreeMap.mem_iff_isSome_getElem?, getElem?_foldl_erase]
  split <;> simp [*]

theorem getElem?_objects_remove (interfaces : List String) :
    (service.remove udi interfaces).2.objects[other]? =
      if udi = other then
        service.objects[udi]?.bind fun present =>
          if (without interfaces present).isEmpty then none else
            some (without interfaces present)
      else service.objects[other]? := by
  rw [remove]
  cases held : service.objects[udi]? with
  | none =>
      by_cases same : udi = other
      · simp [← same, held]
      · simp [same]
  | some present =>
      change (if (without interfaces present).isEmpty = true then
          { service with objects := service.objects.erase udi }
        else service.put udi (without interfaces present)).objects[other]? = _
      rw [Option.bind_some]
      by_cases emptied : (without interfaces present).isEmpty = true
      · rw [if_pos emptied, if_pos emptied, Std.ExtTreeMap.getElem?_erase]
        simp
      · rw [if_neg emptied, if_neg emptied, put, Std.ExtTreeMap.getElem?_insert]
        simp

theorem getElem?_objects_store (key : PropertyKey) (value : Value) :
    (service.store key value).objects[other]? =
      if key.udi = other then
        some ((service.objects[key.udi]?.getD ∅).insert key.interface
          (((service.objects[key.udi]?.getD ∅)[key.interface]?.getD ∅).insert
            key.property value))
      else service.objects[other]? := by
  rw [store, put, Std.ExtTreeMap.getElem?_insert]
  by_cases same : key.udi = other <;> simp [same]

end MemoryService

namespace Cache

variable {config : Config} {settings : CacheSettings MemoryService}
  {cache left : Cache MemoryService} {udi : String}

theorem mem_foldl_insert_toList {present added : Interfaces} {name : String} :
    name ∈ added.toList.foldl
      (fun merged entry => merged.insert entry.1 entry.2) present ↔
      name ∈ added ∨ name ∈ present := by
  have merged := Named.getElem?_foldl_insert added.distinct_toList
    id present name
  simp only [id_eq, Named.lookup_toList, Option.map_id_fun] at merged
  simp only [Std.ExtTreeMap.mem_iff_isSome_getElem?, merged]
  cases added[name]? <;> simp

/-- The object that a configuration admits under an identifier. -/
def listed? (config : Config) (objects : Objects) (udi : String) :
    Option Interfaces :=
  if config.isUnderRoot udi && !config.leavesOut udi then
    objects[udi]? else none

theorem getElem?_admitted (objects : Objects) :
    (admitted config objects)[udi]? =
      (listed? config objects udi).map fun interfaces =>
        Snapshot.ofInterfaces interfaces.plain := by
  rw [admitted, Std.ExtTreeMap.getElem?_map,
    Std.ExtTreeMap.getElem?_filter', listed?]
  split
  · next admits => cases objects[udi]? <;> simp [admits]
  · next admits => cases objects[udi]? <;> simp [admits]

/-- Both are missing, or the snapshot has the interfaces of the object. -/
inductive Outlines : Option Snapshot → Option Interfaces → Prop
  | missing : Outlines none none
  | present {snapshot : Snapshot} {interfaces : Interfaces}
      (same : ∀ interface, snapshot.hasInterface interface = true ↔
        interface ∈ interfaces) :
      Outlines (some snapshot) (some interfaces)

namespace Outlines

variable {found : Option Snapshot} {held : Option Interfaces}

theorem isSome_eq (outlines : Outlines found held) :
    found.isSome = held.isSome := by
  cases outlines <;> rfl

/-- Of what is missing, nothing is known and nothing is held. -/
theorem getD_iff (outlines : Outlines found held) (interface : String) :
    (found.getD .empty).hasInterface interface = true ↔
      interface ∈ held.getD ∅ := by
  cases outlines with
  | missing => simp [Snapshot.empty, Snapshot.hasInterface]
  | present same => exact same interface

theorem map (outlines : Outlines found held) {change : Snapshot → Snapshot}
    (same : ∀ snapshot, found = some snapshot → ∀ interface,
      (change snapshot).hasInterface interface = true ↔
      snapshot.hasInterface interface = true) :
    Outlines (found.map change) held := by
  cases outlines with
  | missing => exact .missing
  | present outlined =>
      refine .present fun interface => ?_
      rw [same _ rfl, outlined]

end Outlines

/-- The tracked devices are the objects that the service holds and the
configuration admits, with the same interfaces. -/
def Complete (config : Config) (cache : Cache MemoryService) : Prop :=
  ∀ udi : String, Outlines cache.devices[udi]?
    (listed? config cache.service.objects udi)

namespace Complete

theorem tracks_eq (complete : cache.Complete config) (udi : String) :
    cache.tracks udi = (admitted config cache.service.objects).contains
      udi := by
  rw [tracks, Std.ExtTreeMap.contains_eq_isSome_getElem?,
    Std.ExtTreeMap.contains_eq_isSome_getElem?, getElem?_admitted,
      Option.isSome_map,
    (complete udi).isSome_eq]

theorem keys_eq (complete : cache.Complete config) :
    cache.devices.keys = (admitted config cache.service.objects).keys := by
  apply Named.keys_congr
  intro udi
  rw [← Std.ExtTreeMap.contains_iff_mem, ← Std.ExtTreeMap.contains_iff_mem]
  exact Bool.eq_iff_iff.mp (complete.tracks_eq udi)

theorem of_sameContent (complete : cache.Complete config)
    {service : MemoryService}
    (same : service.forgetCalls = cache.service.forgetCalls) :
    Complete config { cache with service := service } := by
  have objects : service.objects = cache.service.objects := by
    simpa [MemoryService.forgetCalls] using congrArg MemoryService.objects same
  intro udi
  rw [objects]
  exact complete udi

theorem onDevice (complete : cache.Complete config)
    {change : Snapshot → Snapshot}
    (same : ∀ snapshot, cache.devices[udi]? = some snapshot → ∀ interface,
      (change snapshot).hasInterface interface = true ↔
      snapshot.hasInterface interface = true) :
    (cache.onDevice udi change).Complete config := by
  intro other
  rw [getElem?_onDevice]
  split
  · next here =>
      subst here
      exact (complete udi).map same
  · exact complete other

/-- What is tracked of one object and what the service holds of it were both
changed. -/
theorem replaced (complete : cache.Complete config)
    (devices : ∀ other : String, udi ≠ other → left.devices[other]? =
      cache.devices[other]?)
    (objects : ∀ other : String, udi ≠ other → left.service.objects[other]? =
      cache.service.objects[other]?)
    (here : Outlines left.devices[udi]?
      (listed? config left.service.objects udi)) :
    left.Complete config := by
  intro other
  by_cases same : udi = other
  · exact same ▸ here
  · have held : listed? config left.service.objects other =
        listed? config cache.service.objects other := by
      rw [listed?, listed?, objects other same]
    rw [devices other same, held]
    exact complete other

theorem ofLeftOut (complete : cache.Complete config)
    (leftOut : config.leavesOut udi = true) {service : MemoryService}
    (objects : ∀ other : String, udi ≠ other → service.objects[other]? =
      cache.service.objects[other]?) : Complete config { cache with service :=
  service } := by
  refine complete.replaced (fun _ _ => rfl) objects ?_
  have notListed (held : Objects) : listed? config held udi = none := by
    simp [listed?, leftOut]
  rw [notListed]
  have untracked := complete udi
  rwa [notListed] at untracked

end Complete

end Cache

end Hotplug
