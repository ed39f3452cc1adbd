import Hotplug.Proofs.Hub.Anchored

/-!
# Slots without handles wait for an event

A slot that counts no handle stays as long as its object lives. When the object
goes, an event has to come that says so, for this is when the slot is looked at
again.
-/

namespace Hotplug

namespace ServiceBackend

variable {σ : Type} {before after : ServiceBackend σ}

/-- An object is let go of only if its removal is announced, and no announcement
gets lost. -/
structure Candid (before after : ServiceBackend σ) :
    Prop extends Succeeds before after where
  queue : ∀ event ∈ before.queue, event ∈ after.queue
  kept : ∀ (udi : String) kept, before.objects[udi]? = some kept →
    after.objects[udi]? = some kept ∨ .removed udi ∈ after.queue

theorem Mild.candid (mild : Mild before after) : Candid before after where
  toSucceeds := mild.toSucceeds
  queue event queued := by
    rw [mild.queue]
    exact queued
  kept udi kept held := .inl (mild.kept udi kept held)

theorem Absorbed.candid {events : List DeviceEvent}
    (absorbed : Absorbed before after events) :
    Candid before after where
  toSucceeds := absorbed.toSucceeds
  queue event queued := by
    rw [absorbed.queue]
    exact List.mem_append_left events queued
  kept udi kept held := by
    rw [absorbed.queue]
    exact (absorbed.kept udi kept held).imp_right (List.mem_append_right _)

end ServiceBackend

namespace HandleTable

variable {ρ : Type} {slots : HandleTable ρ} {udi other : String}
  {alive : ρ → Bool} {slot later : HandleSlot ρ}

theorem counted_of_insert
    (found : (slots.insert udi { slot with refs := slot.refs + 1 })[other]? =
      some later) :
    1 ≤ later.refs ∨ slots[other]? = some later := by
  rw [Named.getElem?_insert] at found
  split at found
  · cases found
    exact .inl (Nat.le_add_left 1 _)
  · exact .inr found

theorem counted_of_acquire?
    (found : ((acquire? udi slots).getD slots)[other]? = some later) :
    1 ≤ later.refs ∨ slots[other]? = some later := by
  cases held : slots[udi]? with
  | none =>
      rw [acquire?_eq_none held] at found
      exact .inr found
  | some before =>
      rw [acquire?_eq_some held] at found
      exact counted_of_insert found

theorem counted_of_acquireWith {object : Option ρ}
    (found : (acquireWith alive udi object slots)[other]? = some later) :
    1 ≤ later.refs ∨ slots[other]? = some later := by
  rw [getElem?_acquireWith] at found
  split at found
  · cases found
    exact .inl (Nat.le_add_left 1 _)
  · exact .inr found

/-- A slot that is left behind by its last handle has a living object. -/
theorem counted_of_release
    (found : (release alive udi slots)[other]? = some later) :
    1 ≤ later.refs ∨ later.isValid alive = true ∨
      slots[other]? = some later := by
  rw [getElem?_release] at found
  split at found
  · obtain ⟨before, _, isReleased⟩ := Option.bind_eq_some_iff.mp found
    unfold released at isReleased
    split at isReleased
    · contradiction
    · next stays =>
        cases isReleased
        by_cases valid : before.isValid alive = true
        · exact .inr (.inl valid)
        · have several : ¬before.refs ≤ 1 :=
            fun few => stays ⟨few, by simpa using valid⟩
          exact .inl (by dsimp only; omega)
  · exact .inr (.inr found)

theorem counted_of_detached (gone : detached slot = some later) :
    1 ≤ later.refs := by
  unfold detached at gone
  split at gone
  · contradiction
  · next used =>
      cases gone
      exact Nat.one_le_iff_ne_zero.mpr used

end HandleTable

namespace Hub

variable {n : Nat} {σ κ ω α : Type}
  {hub : Hub n (ServiceBackend σ) ServiceObject κ ω} {i j : Fin n}
  {udi other : String} {backend : ServiceBackend σ} {clear : ω → Prop}
  {pending rest : List DeviceEvent} {event : DeviceEvent}

/-- The client has what it had, and no event was queued or taken. -/
structure Unqueued (hub left : Hub n (ServiceBackend σ) ServiceObject κ ω) :
    Prop where
  client : left.client = hub.client
  held : left.held = hub.held
  queue : ∀ i, left.queueAt i = hub.queueAt i

theorem Unqueued.refl (hub : Hub n (ServiceBackend σ) ServiceObject κ ω) :
    Unqueued hub hub :=
  ⟨rfl, rfl, fun _ => rfl⟩

theorem Unqueued.ofBackend {start : Hub n (ServiceBackend σ) ServiceObject κ ω}
    (unqueued : Unqueued start hub) (queue : backend.queue = hub.queueAt i) :
    Unqueued start (hub.withBackend i backend) where
  client := unqueued.client
  held := unqueued.held
  queue j := by
    rw [queueAt_withBackend]
    split
    · next same =>
        subst same
        exact queue.trans (unqueued.queue i)
    · exact unqueued.queue j

variable [Service σ]

/-- If the identifier has a slot, then it counts a handle, or its object lives,
or the removal is still to be delivered. The events that are pending were taken
from the backends already. -/
def Accounted (udi : String) (pending : List DeviceEvent)
    (hub : Hub n (ServiceBackend σ) ServiceObject κ ω) : Prop :=
  ∀ slot, hub.registry.slots[udi]? = some slot →
    1 ≤ slot.refs ∨ slot.isValid hub.isAlive = true ∨
      .removed udi ∈ pending ∨ ∃ i, .removed udi ∈ hub.queueAt i

/-- Only backends keep objects, and the slot of the identifier is accounted for
as long as the client is clear. -/
structure Tended (clear : ω → Prop) (udi : String) (pending : List DeviceEvent)
    (hub : Hub n (ServiceBackend σ) ServiceObject κ ω) : Prop where
  anchored : hub.Anchored
  free : hub.held = []
  accounted : clear hub.client → hub.Accounted udi pending

theorem isAlive_eq_keeps (free : hub.held = [])
    (ref : ObjectRef n ServiceObject) :
    hub.isAlive ref = Backend.keeps (hub.backendAt ref.backend)
      ref.kept.serial := by
  rw [isAlive, free, List.any_nil, Bool.or_false]

theorem Anchored.exists_kept (anchored : hub.Anchored) (free : hub.held = [])
    {slot : HandleSlot (ObjectRef n ServiceObject)}
    (found : hub.registry.slots[udi]? = some slot)
    (valid : slot.isValid hub.isAlive = true) :
    ∃ ref kept, slot.object = some ref ∧
      (hub.backendAt ref.backend).objects[udi]? = some kept ∧ kept.serial =
        ref.kept.serial := by
  obtain ⟨ref, living⟩ := Option.isSome_iff_exists.mp valid
  obtain ⟨bound, alive⟩ := Option.filter_eq_some_iff.mp living
  rw [isAlive_eq_keeps free] at alive
  obtain ⟨other, kept, held, same⟩ := Named.any_values_iff.mp alive
  obtain rfl := (anchored.reserved udi slot ref found bound).only other kept
    held (eq_of_beq same)
  exact ⟨ref, kept, bound, held, eq_of_beq same⟩

theorem isValid_of_keeps {slot : HandleSlot (ObjectRef n ServiceObject)}
    {ref : ObjectRef n ServiceObject} (bound : slot.object = some ref)
    (keeps : Backend.keeps (hub.backendAt ref.backend) ref.kept.serial = true) :
    slot.isValid hub.isAlive = true := by
  rw [HandleSlot.isValid, HandleSlot.living, bound, Option.isSome_filter,
    Option.any_some]
  exact Bool.or_eq_true_iff.mpr (.inl keeps)

namespace Tended

theorem next (tended : Tended clear udi (event :: rest) hub)
    (other : event ≠ .removed udi) :
    Tended clear udi rest hub where
  anchored := tended.anchored
  free := tended.free
  accounted given slot found := by
    refine (tended.accounted given slot found).imp_right
      (Or.imp_right (Or.imp_left ?_))
    exact fun pending => List.mem_of_ne_of_mem (Ne.symm other) pending

theorem congr {content : ω → Prop}
    {left : Hub n (ServiceBackend σ) ServiceObject κ ω}
    (tended : Tended clear udi pending hub)
    (backends : left.backends = hub.backends)
    (roster : left.registry.roster = hub.registry.roster)
    (slots : left.registry.slots = hub.registry.slots)
    (held : left.held = hub.held)
    (same : content left.client → clear hub.client) :
    Tended content udi pending left where
  anchored := tended.anchored.congr backends roster slots
  free := held.trans tended.free
  accounted given := by
    have accounted := tended.accounted (same given)
    obtain ⟨leftBackends, ⟨leftRoster, leftSlots, audience⟩,
      leftHeld, client⟩ := left
    dsimp only at backends slots held
    subst backends slots held
    exact accounted

/-- A removal that was announced may be taken meanwhile, if it is pending from
then on. -/
theorem ofSucceeds (tended : Tended clear udi pending hub)
    {later : List DeviceEvent}
    (succeeds : ServiceBackend.Succeeds (hub.backendAt i) backend)
    (queued : .removed udi ∈ hub.queueAt i → .removed udi ∈ later ∨
      .removed udi ∈ backend.queue)
    (stays : .removed udi ∈ pending → .removed udi ∈ later)
    (kept : ∀ kept, (hub.backendAt i).objects[udi]? = some kept →
      backend.objects[udi]? = some kept ∨ .removed udi ∈ backend.queue) :
    Tended clear udi later (hub.withBackend i backend) where
  anchored := tended.anchored.ofBackend succeeds
  free := tended.free
  accounted given slot found := by
    have announced : .removed udi ∈ backend.queue →
        ∃ j, .removed udi ∈ (hub.withBackend i backend).queueAt j := by
      intro told
      refine ⟨i, ?_⟩
      rw [queueAt_withBackend, if_pos rfl]
      exact told
    rcases tended.accounted given slot
      found with counted | valid | awaited | ⟨j, waiting⟩
    · exact .inl counted
    -- The living object is the one that is kept for the identifier, so it is
    -- known what becomes of it.
    · obtain ⟨ref, object, bound, held, serial⟩ :=
        tended.anchored.exists_kept tended.free found valid
      by_cases here : i = ref.backend
      · subst here
        rcases kept object held with still | told
        · refine .inr (.inl (isValid_of_keeps bound ?_))
          rw [backendAt_withBackend, if_pos rfl]
          exact Named.any_values_iff.mpr ⟨udi, object, still,
            beq_iff_eq.mpr serial⟩
        · exact .inr (.inr (.inr (announced told)))
      · refine .inr (.inl (isValid_of_keeps bound ?_))
        rw [backendAt_withBackend, if_neg here]
        exact Named.any_values_iff.mpr ⟨udi, object, held,
          beq_iff_eq.mpr serial⟩
    · exact .inr (.inr (.inl (stays awaited)))
    · by_cases here : i = j
      · subst here
        exact .inr (.inr ((queued waiting).imp_right announced))
      · refine .inr (.inr (.inr ⟨j, ?_⟩))
        rw [queueAt_withBackend, if_neg here]
        exact waiting

theorem ofBackend (tended : Tended clear udi pending hub)
    (candid : ServiceBackend.Candid (hub.backendAt i) backend) :
    Tended clear udi pending (hub.withBackend i backend) :=
  tended.ofSucceeds candid.toSucceeds
    (fun queued => .inr (candid.queue _ queued)) id (candid.kept udi)

/-- The slot may change if it counts a handle then or its object lives. -/
theorem ofSlots (tended : Tended clear udi pending hub)
    {change : HandleTable (ObjectRef n ServiceObject) →
      HandleTable (ObjectRef n ServiceObject)}
    (anchored : (hub.onSlots change).Anchored)
    (changed : ∀ slot, (change hub.registry.slots)[udi]? = some slot →
      1 ≤ slot.refs ∨ slot.isValid hub.isAlive = true ∨
      hub.registry.slots[udi]? = some slot) :
    Tended clear udi pending (hub.onSlots change) where
  anchored := anchored
  free := tended.free
  accounted given slot found := by
    rcases changed slot found with counted | valid | before
    · exact .inl counted
    · exact .inr (.inl valid)
    · exact tended.accounted given slot before

theorem clone (tended : Tended clear udi pending hub) (handle : Handle) :
    Tended clear udi pending (hub.clone handle) := by
  have anchored := tended.anchored.clone handle
  unfold Hub.clone at anchored ⊢
  split
  · next bound =>
      rw [if_pos bound] at anchored
      refine tended.ofSlots anchored fun slot found => ?_
      exact (HandleTable.counted_of_acquire? found).imp_right .inr
  · exact tended

theorem release (tended : Tended clear udi pending hub) (handle : Handle) :
    Tended clear udi pending (hub.release handle) := by
  have anchored := tended.anchored.release handle
  unfold Hub.release at anchored ⊢
  split
  · next bound =>
      rw [if_pos bound] at anchored
      exact tended.ofSlots anchored fun slot => HandleTable.counted_of_release
  · exact tended

theorem shutDown (tended : Tended clear udi pending hub) :
    Tended clear udi pending hub.shutDown where
  anchored := tended.anchored.shutDown
  free := tended.free
  accounted _ slot found := by
    obtain ⟨before, _, gone⟩ := Option.bind_eq_some_iff.mp
      (HandleTable.getElem?_detachAll.symm.trans found)
    exact .inl (HandleTable.counted_of_detached gone)

theorem keeps_atBackend {step : Run (ServiceBackend σ) α}
    (gentle : ServiceBackend.Gentle step) (i : Fin n) :
    (atBackend i step).Keeps
      (Tended clear udi pending : Hub n (ServiceBackend σ) ServiceObject κ ω →
        Prop) := by
  intro hub tended
  rw [yields_atBackend]
  exact (gentle (hub.backendAt i)).mono
    (fun _ _ mild => tended.ofBackend mild.candid)
    fun _ mild => tended.ofBackend mild.candid

theorem yields_makeObject (tended : Tended clear udi pending hub)
    (other : String) :
    (makeObject other).Yields hub
      (fun _ left => Tended clear udi pending left ∧ Unqueued hub left ∧
        left.registry.slots = hub.registry.slots)
      (Tended clear udi pending) := by
  have kept := yields_makeObject_of_mild other
    (fun _ _ _ mild => tended.ofBackend mild.candid) tended
  have unqueued := yields_makeObject_of_mild other
    (fun _ _ _ mild => (Unqueued.refl hub).ofBackend mild.queue)
      (Unqueued.refl hub)
  refine (kept.and unqueued).mono ?_ fun _ => And.left
  intro _ left outcome
  obtain ⟨⟨tendedLeft, _, slots⟩, unqueuedLeft, _⟩ := outcome
  exact ⟨tendedLeft, unqueuedLeft, slots⟩

theorem keeps_find (other : String) :
    (find other).Keeps
      (Tended clear udi pending : Hub n (ServiceBackend σ) ServiceObject κ ω →
        Prop) := by
  intro hub tended
  have anchored := Anchored.keeps_find other hub tended.anchored
  by_cases empty : other = ""
  · subst empty
    exact yields_find_null.mpr tended
  · cases present : hub.registry.slots[other]? with
    | some slot =>
        rw [yields_find_of_slot empty present] at anchored ⊢
        refine tended.ofSlots anchored fun slot found => ?_
        exact (HandleTable.counted_of_insert found).imp_right .inr
    | none =>
        rw [yields_find_of_no_slot empty present] at anchored ⊢
        refine ((tended.yields_makeObject other).and anchored).mono ?_
          fun _ => And.left
        intro object left outcome
        obtain ⟨⟨tendedLeft, _⟩, anchoredLeft⟩ := outcome
        refine tendedLeft.ofSlots anchoredLeft fun slot found => ?_
        exact (HandleTable.counted_of_acquireWith found).imp_right .inr

/-- A slot without handles that waits for its removal still does so with another
object. -/
theorem rebind (tended : Tended clear udi pending hub)
    {object : Option (ObjectRef n ServiceObject)}
    (anchored : (hub.onSlots (HandleTable.rebind other object)).Anchored)
    (awaited : other = udi → clear hub.client → ∀ slot,
      hub.registry.slots[udi]? = some slot →
        1 ≤ slot.refs ∨ .removed udi ∈ pending ∨
          ∃ i, .removed udi ∈ hub.queueAt i) :
    Tended clear udi pending
      (hub.onSlots (HandleTable.rebind other object)) where
  anchored := anchored
  free := tended.free
  accounted given slot found := by
    rw [onSlots_slots, HandleTable.getElem?_rebind] at found
    split at found
    · next same =>
        subst same
        obtain ⟨before, foundBefore, rfl⟩ := Option.map_eq_some_iff.mp found
        exact (awaited rfl given before foundBefore).imp_right .inr
    · exact tended.accounted given slot found

theorem yields_updateHandles (tended : Tended clear udi (event :: rest) hub) :
    (updateHandles event).Yields hub (fun _ => Tended clear udi rest)
      (Tended clear udi rest) := by
  have anchored := Anchored.keeps_updateHandles event hub tended.anchored
  cases event with
  | added other =>
      have later := tended.next (by simp)
      rw [updateHandles, Run.yields_bind, Run.yields_get] at anchored ⊢
      split
      · next orphaned =>
          rw [if_pos orphaned, Run.yields_bind] at anchored
          rw [Run.yields_bind]
          refine ((later.yields_makeObject other).and anchored).mono ?_
            fun _ => And.left
          intro object left outcome
          obtain ⟨⟨tendedLeft, unqueued, slots⟩, anchoredLeft⟩ := outcome
          rw [Run.yields_modify] at anchoredLeft ⊢
          refine tendedLeft.rebind anchoredLeft ?_
          -- The slot had no living object, so it counted a handle or its
          -- removal was announced.
          rintro rfl given slot found
          rw [slots] at found
          have invalid : slot.isValid hub.isAlive = false := by
            simpa [HandleTable.isOrphaned, found] using orphaned
          rw [unqueued.client] at given
          rcases later.accounted given slot found with counted | valid | awaited
          · exact .inl counted
          · rw [invalid] at valid
            contradiction
          · simp only [unqueued.queue]
            exact .inr awaited
      · exact later
  | removed other =>
      rw [updateHandles, Run.yields_modify] at anchored ⊢
      by_cases same : other = udi
      · subst same
        refine ⟨anchored, tended.free, fun _ slot found => ?_⟩
        rw [onSlots_slots, HandleTable.getElem?_detach, if_pos rfl] at found
        obtain ⟨before, _, gone⟩ := Option.bind_eq_some_iff.mp found
        exact .inl (HandleTable.counted_of_detached gone)
      · refine (tended.next (by simpa using same)).ofSlots anchored
          fun slot found => ?_
        rw [HandleTable.getElem?_detach, if_neg same] at found
        exact .inr (.inr found)
  | changed other changes => exact tended.next (by simp)

theorem yields_drain (tended : Tended clear udi pending hub) (i : Fin n) :
    (atBackend i Backend.drain).Yields hub
      (fun events => Tended clear udi (events ++ pending)) fun _ => False := by
  rw [yields_atBackend]
  refine tended.ofSucceeds (ServiceBackend.orderly_drain (hub.backendAt i))
    ?_ ?_ ?_
  · exact fun queued => .inl (List.mem_append_left _ queued)
  · exact List.mem_append_right _
  · exact fun _ => .inl

theorem account : Account fun _ =>
    (Tended clear udi pending : Hub n (ServiceBackend σ) ServiceObject κ ω →
      Prop) := by
  apply Account.ofGentle
  · exact keeps_find
  · exact fun handle tended => tended.release handle
  · exact keeps_atBackend

end Tended

section Loading

variable {released : Prop} {start : Hub n (ServiceBackend σ) ServiceObject κ ω}
  {found : List Handle} {ids : List String}

/-- Slots without handles are as they were at the start. Once handles are
released, there may also be others with a living object. -/
structure Grown (released : Prop)
    (start hub : Hub n (ServiceBackend σ) ServiceObject κ ω) :
    Prop
    extends Unqueued start hub where
  anchored : hub.Anchored
  slots : ∀ (udi : String) slot, hub.registry.slots[udi]? = some slot →
    1 ≤ slot.refs ∨ start.registry.slots[udi]? = some slot ∨
      released ∧ slot.isValid hub.isAlive = true

namespace Grown

theorem refl (anchored : hub.Anchored) : Grown False hub hub where
  toUnqueued := .refl hub
  anchored := anchored
  slots _ _ found := .inr (.inl found)

theorem unreleased (grown : Grown False start hub) {udi : String}
    {slot : HandleSlot (ObjectRef n ServiceObject)}
    (isThere : hub.registry.slots[udi]? = some slot) :
    1 ≤ slot.refs ∨ start.registry.slots[udi]? = some slot := by
  rcases grown.slots udi slot isThere with counted | before | ⟨released, _⟩
  · exact .inl counted
  · exact .inr before
  · exact released.elim

theorem released_of (grown : Grown False start hub) :
    Grown released start hub where
  toUnqueued := grown.toUnqueued
  anchored := grown.anchored
  slots _ _ isThere := (grown.unreleased isThere).imp_right .inl

/-- Backends may let go of objects as long as no handle was released. -/
theorem ofBackend (grown : Grown False start hub)
    (succeeds : ServiceBackend.Succeeds (hub.backendAt i) backend)
    (queue : backend.queue = hub.queueAt i) :
    Grown False start (hub.withBackend i backend) where
  toUnqueued := grown.toUnqueued.ofBackend queue
  anchored := grown.anchored.ofBackend succeeds
  slots _ _ isThere := (grown.unreleased isThere).imp_right .inl

theorem ofSlots (grown : Grown released start hub)
    {change : HandleTable (ObjectRef n ServiceObject) →
      HandleTable (ObjectRef n ServiceObject)}
    (anchored : (hub.onSlots change).Anchored)
    (changed : ∀ (udi : String) slot, (change hub.registry.slots)[udi]? =
      some slot → 1 ≤ slot.refs ∨ released ∧ slot.isValid hub.isAlive = true ∨
      hub.registry.slots[udi]? = some slot) :
    Grown released start (hub.onSlots change) where
  toUnqueued := ⟨grown.client, grown.held, grown.queue⟩
  anchored := anchored
  slots udi slot isThere := by
    rcases changed udi slot isThere with counted | valid | before
    · exact .inl counted
    · exact .inr (.inr valid)
    · exact grown.slots udi slot before

theorem release (grown : Grown True start hub) (handle : Handle) :
    Grown True start (hub.release handle) := by
  have anchored := grown.anchored.release handle
  unfold Hub.release at anchored ⊢
  split
  · next bound =>
      rw [if_pos bound] at anchored
      refine grown.ofSlots anchored fun udi slot isThere => ?_
      exact (HandleTable.counted_of_release isThere).imp_right
        (Or.imp_left (And.intro trivial))
  · exact grown

theorem releaseAll (grown : Grown False start hub) (handles : List Handle) :
    Grown True start (hub.releaseAll handles) :=
  @releaseAll_of _ _ _ _ _ _ (fun _ => Grown True start) [] _
    (fun _ _ handle grown => grown.release handle) handles grown.released_of

theorem keeps_reload (i : Fin n) :
    (atBackend i Backend.reload).Keeps (Grown False start) := by
  intro hub grown
  rw [yields_atBackend]
  refine (ServiceBackend.yields_reload (hub.backendAt i)).mono ?_ ?_
  · intro ids backend outcome
    exact grown.ofBackend outcome.1.toSucceeds outcome.1.queue
  · intro backend outcome
    exact grown.ofBackend outcome.1.toSucceeds outcome.1.queue

theorem keeps_find (udi : String) : (find udi).Keeps (Grown False start) := by
  intro hub grown
  have anchored := Anchored.keeps_find udi hub grown.anchored
  by_cases empty : udi = ""
  · subst empty
    exact yields_find_null.mpr grown
  · cases present : hub.registry.slots[udi]? with
    | some slot =>
        rw [yields_find_of_slot empty present] at anchored ⊢
        refine grown.ofSlots anchored fun other slot isThere => ?_
        exact (HandleTable.counted_of_insert isThere).imp_right .inr
    | none =>
        rw [yields_find_of_no_slot empty present] at anchored ⊢
        have made := yields_makeObject_of_mild udi
          (fun _ _ _ mild => grown.ofBackend mild.toSucceeds mild.queue) grown
        refine (made.and anchored).mono ?_ fun _ => And.left
        intro object left outcome
        obtain ⟨⟨grownLeft, _⟩, anchoredLeft⟩ := outcome
        refine grownLeft.ofSlots anchoredLeft fun other slot isThere => ?_
        exact (HandleTable.counted_of_acquireWith isThere).imp_right .inr

theorem yields_findAll (grown : Grown False start hub) (found : List Handle)
    (ids : List String) :
    (findAll found ids).Yields hub (fun _ => Grown False start)
      (Grown True start) := by
  refine Run.yields_foldlM (fun _ => Grown False start) grown ?_
  intro udi _ all left grownLeft
  rw [Run.yields_bind, yields_whileHolding]
  exact (keeps_find udi left grownLeft).mono (fun _ _ => id)
    fun _ failed => failed.releaseAll all

end Grown

/-- Handles are released only when loading crashes, and no backend is loaded
after that. -/
theorem yields_everyDevice_grown (anchored : hub.Anchored) :
    everyDevice.Yields hub (fun _ => Grown True hub) (Grown True hub) := by
  have loop : everyDevice.Yields hub (fun _ => Grown False hub)
      (Grown True hub) := by
    rw [everyDevice, Run.yields_bind, Run.yields_get]
    refine Run.yields_foldlM (fun _ => Grown False hub) (.refl anchored) ?_
    intro i _ all left grown
    rw [Run.yields_bind, yields_whileHolding]
    refine (Grown.keeps_reload i left grown).mono ?_
      fun _ failed => failed.releaseAll all
    intro ids final grownFinal
    exact grownFinal.yields_findAll all ids
  exact loop.mono (fun _ _ grown => grown.released_of) fun _ => id

theorem yields_reload_grown (anchored : hub.Anchored) :
    reload.Yields hub (fun _ => Grown True hub) (Grown True hub) := by
  have loop : reload.Yields hub (fun _ => Grown False hub)
      (Grown False hub) := by
    rw [reload, Run.yields_bind, Run.yields_get]
    refine Run.yields_foldlM (fun _ => Grown False hub) (.refl anchored) ?_
    intro i _ count left grown
    rw [Run.yields_bind]
    exact Grown.keeps_reload i left grown
  exact loop.mono (fun _ _ grown => grown.released_of)
    fun _ grown => grown.released_of

/-- The slot is still accounted for if it counts a handle or its object was not
let go of. -/
theorem Tended.ofGrown (tended : Tended clear udi pending start)
    (grown : Grown True start hub)
    (kept : clear hub.client → hub.registry.slots.sharers udi = 0 → ∀ i object,
      (start.backendAt i).objects[udi]? = some object →
      Backend.keeps (hub.backendAt i) object.serial = true) :
    Tended clear udi pending hub where
  anchored := grown.anchored
  free := grown.held.trans tended.free
  accounted given slot found := by
    rcases grown.slots udi slot found with counted | before | ⟨_, valid⟩
    · exact .inl counted
    · rw [grown.client] at given
      rcases tended.accounted given slot before with counted | valid | awaited
      · exact .inl counted
      · obtain ⟨ref, object, bound, held, serial⟩ :=
          tended.anchored.exists_kept tended.free before valid
        by_cases unused : slot.refs = 0
        · refine .inr (.inl (isValid_of_keeps bound ?_))
          rw [← serial]
          apply kept (grown.client ▸ given) _ ref.backend object held
          simp [HandleTable.sharers, found, unused]
        · exact .inl (Nat.one_le_iff_ne_zero.mpr unused)
      · simp only [grown.queue]
        exact .inr (.inr awaited)
    · exact .inr (.inl valid)

end Loading

end Hub

end Hotplug
