import Hotplug.Hub
import Hotplug.Proofs.Named
import Hotplug.Proofs.Yields

/-!
# What lies under an identifier after a change of slots

Every change of a table of slots is to a single slot, but for the one that parts
all of them from their objects.
-/

namespace Hotplug

theorem HandleSlot.isValid_congr {ρ : Type} {alive lives : ρ → Bool}
    {slot before : HandleSlot ρ} (object : slot.object = before.object)
    (same : ∀ ref, before.object = some ref → alive ref = lives ref) :
    slot.isValid alive = before.isValid lives := by
  rw [isValid, living, isValid, living, object]
  cases bound : before.object with
  | none => rfl
  | some ref =>
      rw [Option.isSome_filter, Option.isSome_filter, Option.any_some,
        Option.any_some,
      same ref bound]

namespace HandleTable

variable {ρ : Type} {slots : HandleTable ρ} {udi other : String}
  {alive : ρ → Bool}

theorem acquire?_eq_none (absent : slots[udi]? = none) :
    slots.acquire? udi = none := by
  simp only [acquire?, absent]

theorem acquire?_eq_some {slot : HandleSlot ρ}
    (found : slots[udi]? = some slot) :
    slots.acquire? udi = some (slots.insert udi
      { slot with refs := slot.refs + 1 }) := by
  simp only [acquire?, found]

/-- A slot that is acquired with an object, given what was there before. -/
def acquired (alive : ρ → Bool) (object : Option ρ)
    (before : Option (HandleSlot ρ)) :
    HandleSlot ρ :=
  let slot := before.getD ⟨0, none⟩
  ⟨slot.refs + 1, if slot.isValid alive then slot.object else object⟩

theorem getElem?_acquireWith {object : Option ρ} :
    (acquireWith alive udi object slots)[other]? =
      if udi = other then some (acquired alive object slots[udi]?)
        else slots[other]? := by
  simp only [acquireWith, acquired, Std.ExtTreeMap.getElem?_insert,
    Std.LawfulEqCmp.compare_eq_iff_eq]

def released (alive : ρ → Bool) (slot : HandleSlot ρ) : Option (HandleSlot ρ) :=
  if slot.refs ≤ 1 ∧ slot.isValid alive = false then none
  else some { slot with refs := slot.refs - 1 }

theorem getElem?_release :
    (release alive udi slots)[other]? =
      if udi = other then slots[udi]?.bind (released alive)
        else slots[other]? := by
  cases found : slots[udi]? with
  | none =>
      by_cases same : udi = other
      · subst same
        simp [release, found]
      · simp [release, found, same]
  | some slot =>
      by_cases gone : slot.refs ≤ 1 ∧ slot.isValid alive = false
      · simp [release, found, released, gone, Std.ExtTreeMap.getElem?_erase]
      · simp [release, found, released, gone, Std.ExtTreeMap.getElem?_insert]

theorem exists_of_counted {slot later : HandleSlot ρ}
    (held : slots[udi]? = some slot)
    (found : (slots.insert udi { slot with refs := slot.refs + 1 })[other]? =
      some later) :
    ∃ before, slots[other]? = some before ∧ before.object = later.object := by
  rw [Named.getElem?_insert] at found
  split at found
  · next same =>
      subst same
      cases found
      exact ⟨slot, held, rfl⟩
  · exact ⟨later, found, rfl⟩

theorem exists_of_acquire? {slot : HandleSlot ρ}
    (found : ((acquire? udi slots).getD slots)[other]? = some slot) :
    ∃ before, slots[other]? = some before ∧ before.object = slot.object := by
  cases held : slots[udi]? with
  | none =>
      rw [acquire?_eq_none held] at found
      exact ⟨slot, found, rfl⟩
  | some before =>
      rw [acquire?_eq_some held, Option.getD_some] at found
      exact exists_of_counted held found

theorem exists_of_release {slot : HandleSlot ρ}
    (found : (release alive udi slots)[other]? = some slot) :
    ∃ before, slots[other]? = some before ∧ before.object = slot.object := by
  rw [getElem?_release] at found
  split at found
  · next same =>
      subst same
      obtain ⟨before, held, isReleased⟩ := Option.bind_eq_some_iff.mp found
      unfold released at isReleased
      split at isReleased
      · contradiction
      · cases isReleased
        exact ⟨before, held, rfl⟩
  · exact ⟨slot, found, rfl⟩

theorem getElem?_rebind {object : Option ρ} :
    (rebind udi object slots)[other]? =
      if udi = other then slots[udi]?.map
        fun slot => { slot with object := object }
      else slots[other]? := by
  simp [rebind, Std.ExtTreeMap.getElem?_modify]

def detached (slot : HandleSlot ρ) : Option (HandleSlot ρ) :=
  if slot.refs = 0 then none else some ⟨slot.refs, none⟩

theorem object_of_detached {slot left : HandleSlot ρ}
    (gone : detached slot = some left) :
    left.object = none := by
  unfold detached at gone
  split at gone <;> cases gone
  rfl

theorem getElem?_detach :
    (detach udi slots)[other]? =
      if udi = other then slots[udi]?.bind detached else slots[other]? := by
  cases found : slots[udi]? with
  | none =>
      by_cases same : udi = other
      · subst same
        simp [detach, found]
      · simp [detach, found, same]
  | some slot =>
      by_cases unused : slot.refs = 0
      · simp [detach, found, detached, unused, Std.ExtTreeMap.getElem?_erase]
      · simp [detach, found, detached, unused, Std.ExtTreeMap.getElem?_insert]

theorem getElem?_detachAll :
    (detachAll slots)[udi]? = slots[udi]?.bind detached := by
  rw [detachAll, Std.ExtTreeMap.getElem?_filterMap, Option.pbind_eq_bind]
  rfl

section Sharers

theorem sharers_insert {slot : HandleSlot ρ} :
    sharers other (slots.insert udi slot) =
      if udi = other then slot.refs else slots.sharers other := by
  simp only [sharers, Std.ExtTreeMap.getElem?_insert,
    Std.LawfulEqCmp.compare_eq_iff_eq]
  split <;> rfl

theorem sharers_acquireWith {object : Option ρ} :
    sharers other (acquireWith alive udi object slots) =
      if udi = other then slots.sharers udi + 1 else slots.sharers other := by
  rw [sharers, getElem?_acquireWith]
  split
  · cases found : slots[udi]? <;> simp [acquired, sharers, found]
  · rfl

theorem sharers_release :
    sharers other (release alive udi slots) =
      if udi = other then slots.sharers udi - 1 else slots.sharers other := by
  rw [sharers, getElem?_release]
  split
  · cases found : slots[udi]? with
    | none => simp [sharers, found]
    | some slot =>
        rw [Option.bind_some, released]
        split
        · next gone =>
            have unused : slot.refs - 1 = 0 := by omega
            simp [sharers, found, unused]
        · simp [sharers, found]
  · rfl

theorem sharers_detached (slot : Option (HandleSlot ρ)) :
    ((slot.bind detached).map (·.refs)).getD 0 =
      (slot.map (·.refs)).getD 0 := by
  cases slot with
  | none => rfl
  | some slot =>
      rw [Option.bind_some, detached]
      split
      · next unused => simp [unused]
      · rfl

theorem sharers_detach :
    sharers other (detach udi slots) = slots.sharers other := by
  rw [sharers, getElem?_detach]
  split
  · next same =>
      subst same
      exact sharers_detached _
  · rfl

theorem sharers_detachAll :
    sharers udi (detachAll slots) = slots.sharers udi := by
  rw [sharers, getElem?_detachAll]
  exact sharers_detached _

theorem sharers_rebind {object : Option ρ} :
    sharers other (rebind udi object slots) = slots.sharers other := by
  rw [sharers, getElem?_rebind]
  split
  · next same =>
      subst same
      cases found : slots[udi]? <;> simp [sharers, found]
  · rfl

end Sharers

end HandleTable

end Hotplug
