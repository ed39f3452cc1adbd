import Hotplug.Proofs.Backend.Service
import Hotplug.Proofs.Hub.Slots
import Hotplug.Hub

/-!
# A slot that lags behind its backend

What a slot says of an identifier may differ from what the backend tracks only
as long as events about the identifier are still to be delivered. The last of
them then tells what is tracked.
-/

namespace Hotplug

variable {n : Nat} {i : Fin n} {udi : String} {pending : List DeviceEvent}
  {tracked : Bool} {kept : Option (Kept ServiceObject)}
  {slot : Option (HandleSlot (ObjectRef n ServiceObject))}

/-- Whether some of the events are about the appearance of the identifier. -/
def Announced (udi : String) (events : List DeviceEvent) : Prop :=
  ∃ event ∈ events, event.Moves udi

/-- What holds of an identifier of backend `i` between the events still to be
delivered, whether it is tracked, the object that the backend keeps, and the
slot. -/
structure Agrees (i : Fin n) (udi : String) (pending : List DeviceEvent)
    (tracked : Bool) (kept : Option (Kept ServiceObject))
    (slot : Option (HandleSlot (ObjectRef n ServiceObject))) :
    Prop where
  announced : Announced udi pending → ∀ before,
    DeviceEvent.replay before pending udi = tracked
  bound : ∀ lagging, slot = some lagging → ∀ ref, lagging.object = some ref →
    (∃ object, kept = some object ∧ ref = ⟨i, object⟩) ∨ .removed udi ∈ pending
  restored : tracked = true → ∀ lagging, slot = some lagging →
    (∃ object, kept = some object ∧ lagging.object = some ⟨i, object⟩) ∨
      Announced udi pending
  owned : ∀ object, kept = some object → tracked = true

theorem Announced.of_removed (member : .removed udi ∈ pending) :
    Announced udi pending :=
  ⟨_, member, .inr rfl⟩

theorem Announced.append_iff {later : List DeviceEvent} :
    Announced udi (pending ++ later) ↔ Announced udi pending ∨
      Announced udi later := by
  simp [Announced, or_and_right, exists_or]

namespace Agrees

/-- The slot may go, or change everything but its object. -/
theorem ofSlot (agrees : Agrees i udi pending tracked kept slot)
    {changed : Option (HandleSlot (ObjectRef n ServiceObject))}
    (same : ∀ lagging, changed = some lagging →
      ∃ before, slot = some before ∧ before.object = lagging.object) :
    Agrees i udi pending tracked kept changed where
  announced := agrees.announced
  bound lagging found ref bound := by
    obtain ⟨before, foundBefore, object⟩ := same lagging found
    exact agrees.bound before foundBefore ref (object.trans bound)
  restored isTracked lagging found := by
    obtain ⟨before, foundBefore, object⟩ := same lagging found
    rw [← object]
    exact agrees.restored isTracked before foundBefore
  owned := agrees.owned

/-- The backend may make an object if it tracks the identifier. -/
theorem ofKept (agrees : Agrees i udi pending tracked kept slot)
    {later : Option (Kept ServiceObject)}
    (grows : ∀ object, kept = some object → later = some object)
    (owned : ∀ object, later = some object → tracked = true) :
    Agrees i udi pending tracked later slot where
  announced := agrees.announced
  bound lagging found ref bound := by
    refine (agrees.bound lagging found ref bound).imp_left ?_
    intro given
    obtain ⟨object, held, same⟩ := given
    exact ⟨object, grows object held, same⟩
  restored isTracked lagging found := by
    refine (agrees.restored isTracked lagging found).imp_left ?_
    intro given
    obtain ⟨object, held, same⟩ := given
    exact ⟨object, grows object held, same⟩
  owned := owned

/-- A slot that is made or bound anew takes the object of the backend, which has
one if the identifier is tracked. -/
theorem ofFound (agrees : Agrees i udi pending tracked kept slot)
    {found : Option (Kept ServiceObject)} {refs : Nat}
    (answered : ∀ object, found = some object → kept = some object)
    (complete : tracked = true → ∃ object, found = some object) :
    Agrees i udi pending tracked kept
      (some ⟨refs, found.map fun object => ⟨i, object⟩⟩) where
  announced := agrees.announced
  bound lagging same ref bound := by
    cases same
    obtain ⟨object, isFound, rfl⟩ := Option.map_eq_some_iff.mp bound
    exact .inl ⟨object, answered object isFound, rfl⟩
  restored isTracked lagging same := by
    cases same
    obtain ⟨object, isFound⟩ := complete isTracked
    exact .inl ⟨object, answered object isFound, by rw [isFound]; rfl⟩
  owned := agrees.owned

/-- The events of a signal are still to be delivered. -/
theorem ofAbsorbed (agrees : Agrees i udi pending tracked kept slot)
    {events : List DeviceEvent} {before : String → Bool} {after : Bool}
    {later : Option (Kept ServiceObject)} (same : before udi = tracked)
    (replayed : DeviceEvent.replay before events udi = after)
    (stays : ∀ object, kept = some object → later = some object ∨
      .removed udi ∈ events)
    (held : ∀ object, later = some object → kept = some object ∧
      (after = true ∨ .removed udi ∉ events)) :
    Agrees i udi (pending ++ events) after later slot where
  announced announced start := by
    rw [DeviceEvent.replay_append]
    by_cases now : Announced udi events
    · exact (DeviceEvent.replay_of_moves now).trans replayed
    · have earlier := (Announced.append_iff.mp announced).resolve_right now
      rw [DeviceEvent.replay_of_not_moves now,
        agrees.announced earlier start, ← same,
        ← replayed, DeviceEvent.replay_of_not_moves now]
  bound lagging found ref bound := by
    rcases agrees.bound lagging found ref bound with ⟨object,
      isKept, same⟩ | removed
    · rcases stays object isKept with isLater | removed
      · exact .inl ⟨object, isLater, same⟩
      · exact .inr (List.mem_append_right pending removed)
    · exact .inr (List.mem_append_left events removed)
  restored isTracked lagging found := by
    by_cases now : Announced udi events
    · exact .inr (Announced.append_iff.mpr (.inr now))
    · have wasTracked : tracked = true := by
        rw [← same, ← isTracked, ← replayed,
          DeviceEvent.replay_of_not_moves now]
      rcases agrees.restored wasTracked lagging found with ⟨object,
        isKept, bound⟩ | earlier
      · rcases stays object isKept with isLater | removed
        · exact .inl ⟨object, isLater, bound⟩
        · exact (now (.of_removed removed)).elim
      · exact .inr (Announced.append_iff.mpr (.inl earlier))
  owned object isLater := by
    obtain ⟨isKept, afterwards | notRemoved⟩ := held object isLater
    · exact afterwards
    · rw [← replayed]
      cases result : DeviceEvent.replay before events udi with
      | true => rfl
      | false =>
          have wasTracked : before udi = true :=
            same.trans (agrees.owned object isKept)
          exact (notRemoved (DeviceEvent.removed_mem_of_replay
            wasTracked result)).elim

/-- What an event that comes first says has no weight if more are to come. -/
theorem announced_of_cons {event : DeviceEvent}
    (agrees : Agrees i udi (event :: pending) tracked kept slot) :
    Announced udi pending → ∀ before, DeviceEvent.replay before pending udi =
      tracked := by
  intro announced before
  have whole : Announced udi (event :: pending) := by
    obtain ⟨later, member, moves⟩ := announced
    exact ⟨later, List.mem_cons_of_mem event member, moves⟩
  have replayed := agrees.announced whole before
  rw [DeviceEvent.replay_cons] at replayed
  exact (DeviceEvent.replay_of_moves announced).trans replayed

/-- The last event about the identifier tells whether it is tracked. -/
theorem tracked_of_last {event : DeviceEvent}
    (agrees : Agrees i udi (event :: pending) tracked kept slot)
    (moves : event.Moves udi) (last : ¬Announced udi pending) :
    event.applyTo (fun _ => false) udi = tracked := by
  have replayed := agrees.announced ⟨event, List.mem_cons_self, moves⟩
    fun _ => false
  rwa [DeviceEvent.replay_cons,
    DeviceEvent.replay_of_not_moves last] at replayed

theorem ofOther {event : DeviceEvent}
    (agrees : Agrees i udi (event :: pending) tracked kept slot)
    (still : ¬event.Moves udi) :
    Agrees i udi pending tracked kept slot where
  announced := agrees.announced_of_cons
  bound lagging found ref bound := by
    refine (agrees.bound lagging found ref bound).imp_right ?_
    intro member
    rcases List.mem_cons.mp member with rfl | later
    · exact (still (.inr rfl)).elim
    · exact later
  restored isTracked lagging found := by
    refine (agrees.restored isTracked lagging found).imp_right ?_
    intro given
    obtain ⟨later, member, moves⟩ := given
    rcases List.mem_cons.mp member with rfl | member
    · exact (still moves).elim
    · exact ⟨later, member, moves⟩
  owned := agrees.owned

/-- The removal of the identifier is delivered, and its slot is parted from its
object. -/
theorem ofRemoved
    (agrees : Agrees i udi (.removed udi :: pending) tracked kept slot) :
    Agrees i udi pending tracked kept (slot.bind HandleTable.detached) where
  announced := agrees.announced_of_cons
  bound lagging found ref bound := by
    obtain ⟨before, _, detached⟩ := Option.bind_eq_some_iff.mp found
    unfold HandleTable.detached at detached
    split at detached
    · contradiction
    · cases detached
      contradiction
  restored isTracked lagging _ := by
    right
    by_cases later : Announced udi pending
    · exact later
    · have last := agrees.tracked_of_last (.inr rfl) later
      rw [isTracked] at last
      simp [DeviceEvent.applyTo] at last
  owned := agrees.owned

/-- The appearance of the identifier is delivered while its slot is bound to a
living object, or while there is no slot. -/
theorem ofAdded
    (agrees : Agrees i udi (.added udi :: pending) tracked kept slot)
    (bound : ∀ lagging, slot = some lagging → ∃ ref,
      lagging.object = some ref) :
    Agrees i udi pending tracked kept slot where
  announced := agrees.announced_of_cons
  bound lagging found ref isBound := by
    refine (agrees.bound lagging found ref isBound).imp_right ?_
    intro member
    simpa using member
  restored isTracked lagging found := by
    by_cases later : Announced udi pending
    · exact .inr later
    · obtain ⟨ref, isBound⟩ := bound lagging found
      rcases agrees.bound lagging found ref isBound with ⟨object,
        isKept, same⟩ | removed
      · exact .inl ⟨object, isKept, by rw [isBound, same]⟩
      · have removedLater : .removed udi ∈ pending := by simpa using removed
        exact (later (.of_removed removedLater)).elim
  owned := agrees.owned

/-- The appearance of the identifier is delivered, and its slot is bound
anew. -/
theorem ofRebound
    (agrees : Agrees i udi (.added udi :: pending) tracked kept slot)
    {found : Option (Kept ServiceObject)}
    (answered : ∀ object, found = some object → kept = some object)
    (complete : tracked = true → ∃ object, found = some object) :
    Agrees i udi pending tracked kept
      (slot.map fun lagging =>
        { lagging with object := found.map fun object => ⟨i, object⟩ }) := by
  cases slot with
  | none => exact agrees.ofAdded (by simp)
  | some lagging =>
      have emptied : Agrees i udi pending tracked kept
          (none : Option (HandleSlot (ObjectRef n ServiceObject))) :=
        ⟨agrees.announced_of_cons, by simp, by simp, agrees.owned⟩
      exact emptied.ofFound answered complete

theorem tracked_of_bound (agrees : Agrees i udi [] tracked kept slot)
    {lagging : HandleSlot (ObjectRef n ServiceObject)}
    (found : slot = some lagging) {ref : ObjectRef n ServiceObject}
    (bound : lagging.object = some ref) :
    tracked = true := by
  rcases agrees.bound lagging found ref bound with ⟨object, isKept, _⟩ | removed
  · exact agrees.owned object isKept
  · simp at removed

/-- With nothing left to deliver, the slot of a tracked identifier is bound to
the object that the backend keeps. -/
theorem bound_of_tracked (agrees : Agrees i udi [] tracked kept slot)
    (isTracked : tracked = true)
    {lagging : HandleSlot (ObjectRef n ServiceObject)}
    (found : slot = some lagging) :
    ∃ object, kept = some object ∧ lagging.object = some ⟨i, object⟩ := by
  rcases agrees.restored isTracked lagging found with bound | announced
  · exact bound
  · simp [Announced] at announced

end Agrees

end Hotplug
