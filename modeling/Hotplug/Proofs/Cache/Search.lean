import Hotplug.Cache.RemovableMedia
import Hotplug.Proofs.Cache.Foreseen
import Hotplug.Proofs.Cache.Glance
import Hotplug.Proofs.Cache.Reachable
import Hotplug.Service.Memory

/-!
# Finding a property on some interface

A search takes the first interface that has a slot for the property, be it that
the slot only says that there is no value. No other interface is looked at, so
what this slot holds is all that decides the answer.
-/

namespace Hotplug

namespace Snapshot

variable {snapshot : Snapshot} {interface other name : String}

/-- The carrier of a property comes before all other interfaces with a slot for
it. -/
theorem slot?_of_before_carrier
    (carries : snapshot.carrier? name = some interface)
    (before : compare other interface = .lt) :
    snapshot.slot? other name = none := by
  obtain ⟨entry, found, rfl⟩ := Option.map_eq_some_iff.mp carries
  obtain ⟨-, earlier, later, split, passed⟩ :=
    List.find?_eq_some_iff_append.mp found
  rw [slot?_eq_bind]
  cases held : snapshot.interfaces[other]? with
  | none => rfl
  | some slots =>
      have member := Std.ExtTreeMap.mem_toList_iff_getElem?_eq_some.mpr held
      have ordered := snapshot.interfaces.ordered_keys_toList
      rw [split] at member ordered
      rcases List.mem_append.mp member with early | late
      · have lacks : slots.contains name = false :=
          (Bool.not_eq_true' _).mp (passed _ early)
        exact Std.ExtTreeMap.getElem?_eq_none_of_contains_eq_false lacks
      · -- what comes later in the list has a greater name
        obtain ⟨-, tail, -⟩ := List.pairwise_append.mp ordered
        rcases List.mem_cons.mp late with same | after
        · subst same
          simp at before
        · have greater := (List.pairwise_cons.mp tail).1 _ after
          rw [Std.OrientedCmp.gt_iff_lt.mpr greater] at before
          cases before

theorem exists_carrier? (has : snapshot.slot? interface name ≠ none) :
    ∃ first, snapshot.carrier? name = some first := by
  obtain ⟨slot, present⟩ := Option.ne_none_iff_exists'.mp has
  obtain ⟨slots, held, here⟩ := Option.bind_eq_some_iff.mp present
  have found : (snapshot.interfaces.toList.find?
      fun entry => entry.2.contains name).isSome := by
    rw [List.find?_isSome]
    refine ⟨(interface, slots),
      Std.ExtTreeMap.mem_toList_iff_getElem?_eq_some.mpr held, ?_⟩
    simp [Std.ExtTreeMap.contains_eq_isSome_getElem?, here]
  obtain ⟨entry, first⟩ := Option.isSome_iff_exists.mp found
  exact ⟨entry.1, by rw [carrier?, first, Option.map_some]⟩

end Snapshot

namespace Cache

variable {σ : Type} {cache : Cache σ} {udi property interface : String}
  {slot : Slot}

/-- The first interface of a device, in name order, that has a slot for a
property, and what this holds. -/
structure Leads (cache : Cache σ) (udi property interface : String)
    (slot : Slot) :
    Prop where
  here : cache.slot? ⟨udi, interface, property⟩ = some slot
  first : ∀ other, compare other interface = .lt →
    cache.slot? ⟨udi, other, property⟩ = none

theorem Leads.unique {other : String} {further : Slot}
    (one : cache.Leads udi property interface slot)
    (two : cache.Leads udi property other further) :
    interface = other ∧ slot = further := by
  have same : interface = other := by
    rcases order : compare interface other with _ | _ | _
    · have absurd := two.first interface order
      rw [one.here] at absurd
      cases absurd
    · exact Std.LawfulEqCmp.compare_eq_iff_eq.mp order
    · have absurd := one.first other (Std.OrientedCmp.gt_iff_lt.mp order)
      rw [two.here] at absurd
      cases absurd
  subst same
  exact ⟨rfl, Option.some.inj (one.here.symm.trans two.here)⟩

theorem exists_leads_of_carrier?
    (carries : (cache.devices[udi]?.bind
      fun snapshot => snapshot.carrier? property) = some interface) :
    ∃ slot, cache.Leads udi property interface slot := by
  obtain ⟨snapshot, tracked, carries⟩ := Option.bind_eq_some_iff.mp carries
  have slots (other : String) : cache.slot? ⟨udi, other, property⟩ =
      snapshot.slot? other property := by simp [slot?, tracked]
  obtain ⟨slot, leading⟩ :=
    Option.ne_none_iff_exists'.mp (Snapshot.slot?_ne_none_of_carrier? carries)
  refine ⟨slot, (slots interface).trans leading, fun other before => ?_⟩
  rw [slots, Snapshot.slot?_of_before_carrier carries before]

variable [Service σ] {settings : CacheSettings σ}

/-- If there is a slot for a property, one of them is the first, and a search
looks at this. -/
theorem exists_leads {carrier : String} {held : Slot}
    (found : cache.slot? ⟨udi, carrier, property⟩ = some held) :
    ∃ interface slot, cache.Leads udi property interface slot ∧
      ∀ reach, (readAnywhere udi property reach).start cache =
        (read ⟨udi, interface, property⟩ reach).start cache := by
  obtain ⟨snapshot, tracked, here⟩ := Option.bind_eq_some_iff.mp found
  obtain ⟨interface, first⟩ :=
    Snapshot.exists_carrier? (Option.ne_none_iff_exists'.mpr ⟨_, here⟩)
  have carries : (cache.devices[udi]?.bind
    fun snapshot => snapshot.carrier? property) =
      some interface := by rw [tracked, Option.bind_some, first]
  obtain ⟨slot, leads⟩ := exists_leads_of_carrier? carries
  refine ⟨interface, slot, leads, fun reach => ?_⟩
  rw [readAnywhere, Run.start_bind, Run.start_get]
  simp [carries]

/-- What a fetching read answers is what the service answers, and it crashes as
the service does. -/
theorem answer_read_of_free {key : PropertyKey}
    (free : cache.glance key .fetched = .free) :
    ((read key .fetched).start cache).1 =
      ((Service.getProperty key).start cache.service).1.map
        fun reply => (slotOf reply).value? := by
  rcases ran : (Service.getProperty key).start
    cache.service with ⟨reason | reply, service⟩
  · rw [start_read_of_crash free ran]
    rfl
  · rw [start_read_of_free free ran]
    rfl

/-- In a cache that there can be, some interface of a device holds a value of a
property. Then a search answers with what the first interface with a slot for
the property holds, or what is fetched for this one. It finds nothing exactly if
it is known there that there is no value, or none could be fetched, and crashes
only where the service does. -/
theorem answer_readAnywhere {carrier : String} {value : Value}
    (reachable : Reachable settings cache)
    (held : cache.slot? ⟨udi, carrier, property⟩ = some (.resolved value)) :
    ∃ interface slot, cache.Leads udi property interface slot ∧
      (((readAnywhere udi property .fetched).start cache).1 = .ok none ↔
        slot = .absent ∨ slot = .unresolved ∧ ∃ reason,
          ((Service.getProperty ⟨udi, interface, property⟩).start
            cache.service).1 = .ok (.error reason)) ∧
      (∀ crash, ((readAnywhere udi property .fetched).start cache).1 =
        .error crash ↔ slot = .unresolved ∧
          ((Service.getProperty ⟨udi, interface, property⟩).start
            cache.service).1 = .error crash) ∧
      ∀ found, ((readAnywhere udi property .fetched).start cache).1 =
        .ok (some found) ↔ slot = .resolved found ∨ slot = .unresolved ∧ ∃ raw,
          ((Service.getProperty ⟨udi, interface, property⟩).start
            cache.service).1 = .ok (.ok raw) ∧ found = raw.plain := by
  obtain ⟨interface, slot, leads, searches⟩ := exists_leads held
  refine ⟨interface, slot, leads, ?_⟩
  rw [searches]
  cases slot with
  | resolved kept =>
      rw [start_read_of_settled (glance_of_known leads.here rfl)]
      simp [Slot.value?, eq_comm]
  | absent =>
      rw [start_read_of_settled (glance_of_known leads.here rfl)]
      simp [Slot.value?]
  | unresolved =>
      have free : cache.glance ⟨udi, interface, property⟩ .fetched = .free := by
        rw [glance_eq, leads.here, reachable.idle]
        simp [hasInterface_of_slot? leads.here]
      rw [answer_read_of_free free]
      rcases ((Service.getProperty ⟨udi, interface, property⟩).start
          cache.service).1 with
        reason | reason | raw
      · simp [Except.map]
      · simp [Except.map, slotOf, Slot.value?]
      · simp [Except.map, slotOf, Slot.value?, eq_comm]

section Labels

def diskUdi : String := "/s/b/sda"

def block : String := "s.Block"

def fileSystem : String := "s.Filesystem"

/-- A disk of which only the file system has a label. -/
def named : MemoryService where
  objects := Std.ExtTreeMap.ofList [(diskUdi, Std.ExtTreeMap.ofList [
    (block, ∅), (fileSystem,
      Std.ExtTreeMap.ofList [("Label", Value.text "x")])])]

def loaded : Cache MemoryService :=
  ((Request.reload.perform (.ofConfig .compact)).start { service := named }).2

theorem reachable_loaded : Reachable (.ofConfig .compact) loaded :=
  .requested .reload (.fresh named)

theorem answer_readAnywhere_loaded :
    loaded.slot? ⟨diskUdi, fileSystem, "Label"⟩ = some (.resolved (.text "x")) ∧
      ((readAnywhere diskUdi "Label" .fetched).start loaded).1 =
        .ok (some (.text "x")) := by
  have held : loaded.slot? ⟨diskUdi, fileSystem, "Label"⟩ =
      some (.resolved (.text "x")) := by
    decide +kernel
  obtain ⟨_, slot, leads, -, -, found⟩ :=
    answer_readAnywhere reachable_loaded held
  obtain ⟨further, first⟩ : ∃ slot,
      loaded.Leads diskUdi "Label" fileSystem slot :=
    exists_leads_of_carrier? (by decide +kernel)
  obtain ⟨-, rfl⟩ := first.unique leads
  exact ⟨held, (found _).mpr
    (.inl (Option.some.inj (first.here.symm.trans held)))⟩

/-- The label of the disk itself was asked for, and there is none. -/
def probed : Cache MemoryService :=
  (((Request.read ⟨diskUdi, block, "Label"⟩ .fetched).perform
    (.ofConfig .compact)).start loaded).2

/-- The label of the file system is still known, but is not found any more. -/
theorem answer_readAnywhere_probed :
    Reachable (.ofConfig .compact) probed ∧
      probed.slot? ⟨diskUdi, fileSystem, "Label"⟩ =
        some (.resolved (.text "x")) ∧
      probed.slot? ⟨diskUdi, block, "Label"⟩ = some .absent ∧
      ((readAnywhere diskUdi "Label" .fetched).start probed).1.toOption =
        some none :=
  ⟨.requested (.read ⟨diskUdi, block, "Label"⟩ .fetched) reachable_loaded,
    by decide +kernel⟩

end Labels

end Cache

end Hotplug
