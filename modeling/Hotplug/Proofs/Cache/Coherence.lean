import Hotplug.Cache.RemovableMedia
import Hotplug.Proofs.Cache.MemoryContent
import Hotplug.Proofs.Cache.Signals
import Hotplug.Proofs.Cache.Snapshot

/-!
# Caches that agree with their service

A cache over a service in memory is coherent when every slot tells what the
service holds. Right after the service has changed, the slots of the changed
properties may be stale; handling the signal of the change makes the cache
coherent again.
-/

namespace Hotplug

/-- A slot tells what is held of a property. An unresolved one tells nothing. -/
def Slot.Tells (held : Option Value) : Slot → Prop
  | resolved value => held.map Value.plain = some value
  | absent => held = none
  | unresolved => True

/-- A judge that asks the service, but does not change what it holds. -/
def MediaJudge.OnlyAsks (judge : MediaJudge MemoryService) : Prop :=
  ∀ udi baseline cached, ∀ service : MemoryService,
    ((judge udi baseline cached).start service).2.forgetCalls =
      service.forgetCalls

namespace Cache

/-- Every slot tells what the service holds, but for the slots of stale
properties. Objects that are left out are not tracked, and nothing is being
fetched. -/
structure Coherent (config : Config) (stale : PropertyKey → Prop)
    (cache : Cache MemoryService) : Prop where
  isOpen : cache.service.Open
  idle : cache.inflight = []
  admitted : ∀ udi : String, ∀ snapshot : Snapshot,
    cache.devices[udi]? = some snapshot → config.leavesOut udi = false
  tells : ∀ key : PropertyKey, ∀ snapshot : Snapshot,
    cache.devices[key.udi]? = some snapshot →
      ∀ slot, snapshot.slot? key.interface key.property = some slot →
        slot.Tells (cache.service.value? key) ∨ stale key

/-- No property is stale. -/
abbrev Fresh : PropertyKey → Prop := fun _ => False

namespace Coherent

variable {config : Config} {stale : PropertyKey → Prop}
  {cache : Cache MemoryService}

theorem of_sameContent (coherent : cache.Coherent config stale)
    {service : MemoryService}
    (same : service.forgetCalls = cache.service.forgetCalls) :
    Coherent config stale { cache with service :=
  service } := by
  obtain ⟨objects, hidden, failing, calls⟩ := service
  simp only [MemoryService.forgetCalls, MemoryService.mk.injEq,
    and_true] at same
  obtain ⟨rfl, rfl, rfl⟩ := same
  exact ⟨⟨coherent.isOpen.noneHidden, coherent.isOpen.noneFailing⟩,
    coherent.idle, coherent.admitted, coherent.tells⟩

theorem untracked_of_leavesOut (coherent : cache.Coherent config stale)
    {udi : String} (leftOut : config.leavesOut udi = true) :
    cache.devices[udi]? = none := by
  cases found : cache.devices[udi]? with
  | none => rfl
  | some snapshot =>
      rw [coherent.admitted udi snapshot found] at leftOut
      contradiction

theorem insert (coherent : cache.Coherent config stale) {udi : String}
    {snapshot : Snapshot} {stale' : PropertyKey → Prop}
    (kept : config.leavesOut udi = false)
    (elsewhere : ∀ key, key.udi ≠ udi → stale key → stale' key)
    (tells : ∀ interface property slot, snapshot.slot? interface property =
      some slot → slot.Tells (cache.service.value? ⟨udi, interface, property⟩) ∨
      stale' ⟨udi, interface, property⟩) :
    Coherent config stale' { cache with
      devices := cache.devices.insert udi snapshot } := by
  refine ⟨coherent.isOpen, coherent.idle, ?_, ?_⟩
  · intro other held found
    by_cases same : udi = other
    · exact same ▸ kept
    · simp only [Std.ExtTreeMap.getElem?_insert,
        Std.LawfulEqCmp.compare_eq_iff_eq, same, ↓reduceIte] at found
      exact coherent.admitted other held found
  · intro key held found slot has
    obtain ⟨other, interface, property⟩ := key
    by_cases same : udi = other
    · subst other
      simp only [Std.ExtTreeMap.getElem?_insert_self,
        Option.some.injEq] at found
      subst held
      exact tells interface property slot has
    · simp only [Std.ExtTreeMap.getElem?_insert,
        Std.LawfulEqCmp.compare_eq_iff_eq, same, ↓reduceIte] at found
      exact (coherent.tells ⟨other, interface, property⟩ held found
        slot has).imp_right (elsewhere ⟨other, interface, property⟩
          (Ne.symm same))

/-- Dropping a device keeps the cache coherent, and nothing of it is stale
then. -/
theorem erase (coherent : cache.Coherent config stale) {udi : String}
    {stale' : PropertyKey → Prop}
    (elsewhere : ∀ key, key.udi ≠ udi → stale key → stale' key) :
    Coherent config stale' { cache with
      devices := cache.devices.erase udi } := by
  refine ⟨coherent.isOpen, coherent.idle, ?_, ?_⟩
  · intro other held found
    by_cases same : udi = other
    · simp [same] at found
    · simp only [Std.ExtTreeMap.getElem?_erase,
        Std.LawfulEqCmp.compare_eq_iff_eq, same, ↓reduceIte] at found
      exact coherent.admitted other held found
  · intro key held found slot has
    obtain ⟨other, interface, property⟩ := key
    by_cases same : udi = other
    · simp [same] at found
    · simp only [Std.ExtTreeMap.getElem?_erase,
        Std.LawfulEqCmp.compare_eq_iff_eq, same, ↓reduceIte] at found
      exact (coherent.tells ⟨other, interface, property⟩ held found
        slot has).imp_right (elsewhere ⟨other, interface, property⟩
          (Ne.symm same))

theorem of_untracked (coherent : cache.Coherent config stale) {udi : String}
    {stale' : PropertyKey → Prop} (untracked : cache.devices[udi]? = none)
    (elsewhere : ∀ key, key.udi ≠ udi → stale key → stale' key) :
    cache.Coherent config stale' := by
  refine ⟨coherent.isOpen, coherent.idle, coherent.admitted, ?_⟩
  intro key held found slot has
  by_cases same : key.udi = udi
  · rw [same, untracked] at found
    contradiction
  · exact (coherent.tells key held found slot has).imp_right
      (elsewhere key same)

theorem onDevice (coherent : cache.Coherent config stale) {udi : String}
    {change : Snapshot → Snapshot} {stale' : PropertyKey → Prop}
    (elsewhere : ∀ key, key.udi ≠ udi → stale key → stale' key)
    (tells : ∀ snapshot, cache.devices[udi]? = some snapshot →
      ∀ interface property slot,
        (change snapshot).slot? interface property = some slot →
        slot.Tells (cache.service.value? ⟨udi, interface, property⟩) ∨
          stale' ⟨udi, interface, property⟩) :
    Coherent config stale' (cache.onDevice udi change) := by
  cases found : cache.devices[udi]? with
  | none =>
      rw [onDevice_of_untracked found]
      exact coherent.of_untracked found elsewhere
  | some snapshot =>
      rw [onDevice_of_tracked found]
      exact coherent.insert (coherent.admitted udi snapshot found) elsewhere
        (tells snapshot found)

end Coherent

end Cache

end Hotplug
