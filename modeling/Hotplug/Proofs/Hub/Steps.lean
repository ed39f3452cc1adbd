import Hotplug.Hub.Query
import Hotplug.Proofs.Hub.Slots

/-!
# The steps of a hub, one by one

What a step of the hub yields, in terms of what the steps of its backends yield.
-/

namespace Hotplug

namespace Hub

variable {n : Nat} {α β ο κ ω : Type} {hub : Hub n β ο κ ω} {i j : Fin n}

@[simp] theorem withBackend_registry {backend : β} :
    (hub.withBackend i backend).registry = hub.registry :=
  rfl

theorem backendAt_withBackend {backend : β} :
    (hub.withBackend i backend).backendAt j = if i = j then backend
      else hub.backendAt j := by
  simp only [backendAt, withBackend, Fin.getElem_fin,
    Vector.getElem_set, Fin.ext_iff]

@[simp] theorem onSlots_slots
    {change : HandleTable (ObjectRef n ο) → HandleTable (ObjectRef n ο)} :
    (hub.onSlots change).registry.slots = change hub.registry.slots :=
  rfl

theorem yields_atBackend {step : Run β α} {after : α → Hub n β ο κ ω → Prop}
    {failed : Hub n β ο κ ω → Prop} :
    (atBackend i step).Yields hub after failed ↔
      step.Yields (hub.backendAt i)
        (fun answer backend => after answer (hub.withBackend i backend))
        fun backend => failed (hub.withBackend i backend) :=
  Run.yields_zoom

variable [Backend β ο]

/-- Identifiers stay routed as they are as long as a backend keeps its
descriptor. -/
theorem route?_withBackend {udi : String} {backend : β}
    (same : Backend.descriptor backend = hub.descriptorAt i) :
    (hub.withBackend i backend).route? udi = hub.route? udi := by
  have descriptors : ∀ j, (hub.withBackend i backend).descriptorAt j =
      hub.descriptorAt j := by
    intro j
    rw [descriptorAt, backendAt_withBackend]
    split
    · next equal =>
        subst equal
        exact same
    · rfl
  simp only [route?, descriptors, withBackend_registry]

section Finding

variable {udi : String} {failed : Hub n β ο κ ω → Prop}

theorem yields_makeObject
    {after : Option (ObjectRef n ο) → Hub n β ο κ ω → Prop} :
    (makeObject udi).Yields hub after failed ↔
      match hub.route? udi with
      | none => after none hub
      | some i => (atBackend i (Backend.objectOf udi)).Yields hub
          (fun kept => after (kept.map fun kept => ⟨i, kept⟩)) failed := by
  rw [makeObject, Run.yields_bind, Run.yields_get]
  cases hub.route? udi with
  | none => exact Iff.rfl
  | some i =>
      simp only [Run.yields_bind, Run.yields_pure]

theorem yields_find_null {after : Handle → Hub n β ο κ ω → Prop} :
    (find "").Yields hub after failed ↔ after .null hub := by
  rw [find, if_pos rfl, Run.yields_pure]

theorem yields_find_of_slot {after : Handle → Hub n β ο κ ω → Prop}
    (named : udi ≠ "") {slot : HandleSlot (ObjectRef n ο)}
    (found : hub.registry.slots[udi]? = some slot) :
    (find udi).Yields hub after failed ↔
      after ⟨udi, true⟩
        (hub.onSlots fun slots => slots.insert udi
          { slot with refs := slot.refs + 1 }) := by
  rw [find, if_neg named, Run.yields_bind, Run.yields_get,
    HandleTable.acquire?_eq_some found]
  exact Iff.rfl

theorem yields_find_of_no_slot {after : Handle → Hub n β ο κ ω → Prop}
    (named : udi ≠ "") (absent : hub.registry.slots[udi]? = none) :
    (find udi).Yields hub after failed ↔
      (makeObject udi).Yields hub
        (fun object left => after ⟨udi, true⟩
          (left.onSlots (HandleTable.acquireWith left.isAlive udi object)))
            failed := by
  rw [find, if_neg named, Run.yields_bind, Run.yields_get,
    HandleTable.acquire?_eq_none absent]
  simp only [Run.yields_bind, Run.yields_modify, Run.yields_pure]

end Finding

section Asking

variable {handle : Handle} {absent : α} {after : α → Hub n β ο κ ω → Prop}
  {failed : Hub n β ο κ ω → Prop}
  {question : Device (Run (Hub n β ο κ ω)) → Run (Hub n β ο κ ω) α}

theorem yields_ask :
    (ask handle absent question).Yields hub after failed ↔
      match hub.object? handle with
      | none => after absent hub
      | some ref => (question (deviceAt ref)).Yields hub after failed := by
  rw [ask, Run.yields_bind, Run.yields_get]
  cases hub.object? handle <;> exact Iff.rfl

end Asking

section Loops

variable {found : List Handle} {failed : Hub n β ο κ ω → Prop}

@[simp] theorem yields_whileHolding {step : Run (Hub n β ο κ ω) α}
    {after : α → Hub n β ο κ ω → Prop} :
    (whileHolding found step).Yields hub after failed ↔
      step.Yields hub after fun left => failed (left.releaseAll found) :=
  Run.yields_onCrash

theorem select_of_isEmpty {predicate : Predicate}
    (empty : predicate.isEmpty = true) (parent : Option String) :
    (select predicate parent : Run (Hub n β ο κ ω) (List Handle)) =
      everyDevice := by
  cases predicate <;> first | rfl | cases empty

end Loops

end Hub

end Hotplug
