import Hotplug.Hub.Delivery
import Hotplug.Proofs.Hub.Calm

/-!
# Delivery leaves a registry in step

An event that was taken from a backend brings the slot of its identifier nearer
to what the backend tracks. When all of them are delivered, whatever their
callbacks looked up, only those are pending that were queued in the meantime.
-/

namespace Hotplug

namespace Hub

variable {n : Nat} {σ κ ω : Type}
  {hub : Hub n (ServiceBackend σ) ServiceObject κ ω} {i : Fin n}
  {event : DeviceEvent} {events : List DeviceEvent} {roster : List (Fin n)}
  {batch later : Fin n → List DeviceEvent} {before : Fin n → String → Bool}
  {run : κ → DeviceEvent →
    Run (Hub n (ServiceBackend σ) ServiceObject κ ω) Unit}

/-- The events of one backend were taken, and those of no other one. -/
def batchOf (i : Fin n) (events : List DeviceEvent) (j : Fin n) :
    List DeviceEvent :=
  if i = j then events else []

theorem batchOf_nil : batchOf i [] = fun _ => [] := by
  funext j
  unfold batchOf
  split <;> rfl

variable [Service σ]

namespace InStep

theorem deliverAdded (inStep : InStep roster batch hub) (member : i ∈ roster)
    {udi : String} (front : batch i = .added udi :: later i)
    (others : ∀ j, i ≠ j → later j = batch j)
    (bound : hub.registry.slots.isOrphaned hub.isAlive udi = false) :
    InStep roster later hub := by
  apply @ofDelivered _ _ _ _ _ _ _ _ _ _ inStep member _ front others id
    fun _ _ => rfl
  intro other moves route named
  obtain rfl : udi = other := moves.udi_eq
  have agrees := inStep.agrees udi i route named
  rw [front, List.cons_append] at agrees
  apply agrees.ofAdded
  intro lagging found
  have valid : lagging.isValid hub.isAlive = true := by
    simpa [HandleTable.isOrphaned, found] using bound
  simp only [HandleSlot.isValid, HandleSlot.living] at valid
  obtain ⟨ref, living⟩ := Option.isSome_iff_exists.mp valid
  exact ⟨ref, (Option.filter_eq_some_iff.mp living).1⟩

theorem deliverRebound (inStep : InStep roster batch hub) (member : i ∈ roster)
    {udi : String} (front : batch i = .added udi :: later i)
    (others : ∀ j, i ≠ j → later j = batch j)
    {object : Option (ObjectRef n ServiceObject)}
    (answered : Answered udi object hub) :
    InStep roster later (hub.onSlots (HandleTable.rebind udi object)) := by
  apply inStep.ofDelivered member front others
  · intro other still
    have different : udi ≠ other := by
      intro same
      obtain rfl := same
      exact still (.inl rfl)
    rw [HandleTable.getElem?_rebind, if_neg different]
  · intro other moves route named
    obtain rfl : udi = other := moves.udi_eq
    have agrees := inStep.agrees udi i route named
    rw [front, List.cons_append] at agrees
    obtain ⟨found, rfl, held, complete⟩ := answered.owned i route
    rw [HandleTable.getElem?_rebind, if_pos rfl]
    exact agrees.ofRebound held complete

theorem deliverRemoved (inStep : InStep roster batch hub) (member : i ∈ roster)
    {udi : String} (front : batch i = .removed udi :: later i)
    (others : ∀ j, i ≠ j → later j = batch j) :
    InStep roster later (hub.onSlots (HandleTable.detach udi)) := by
  apply inStep.ofDelivered member front others
  · intro other still
    have different : udi ≠ other := by
      intro same
      obtain rfl := same
      exact still (.inr rfl)
    rw [HandleTable.getElem?_detach, if_neg different]
  · intro other moves route named
    obtain rfl : udi = other := moves.udi_eq
    have agrees := inStep.agrees udi i route named
    rw [front, List.cons_append] at agrees
    rw [HandleTable.getElem?_detach, if_pos rfl]
    exact agrees.ofRemoved

theorem deliverChanged (inStep : InStep roster batch hub) (member : i ∈ roster)
    {udi : String} {changes : Changes}
    (front : batch i = .changed udi changes :: later i)
    (others : ∀ j, i ≠ j → later j = batch j) :
    InStep roster later hub := by
  apply @ofDelivered _ _ _ _ _ _ _ _ _ _ inStep member _ front others id
    fun _ _ => rfl
  intro other moves
  rcases moves with absurd | absurd <;> cases absurd

end InStep

namespace Calm

theorem yields_updateHandles (calm : Calm roster before batch hub)
    (member : i ∈ roster) (front : batch i = event :: later i)
    (others : ∀ j, i ≠ j → later j = batch j) :
    (updateHandles event).Yields hub (fun _ => Calm roster before later)
      fun _ => True := by
  cases event with
  | added udi =>
      rw [updateHandles, Run.yields_bind, Run.yields_get]
      split
      · rw [Run.yields_bind]
        refine (calm.yields_makeObject udi).mono ?_ fun _ _ => trivial
        intro object left outcome
        obtain ⟨calmLeft, answered, _⟩ := outcome
        refine calmLeft.map (fun _ => rfl) ?_
        intro inStep
        exact inStep.deliverRebound member front others answered
      · next bound =>
          refine calm.map (fun _ => rfl) ?_
          intro inStep
          exact inStep.deliverAdded member front others (by simpa using bound)
  | removed udi =>
      refine calm.map (fun _ => rfl) ?_
      intro inStep
      exact inStep.deliverRemoved member front others
  | changed udi changes =>
      refine calm.map (fun _ => rfl) ?_
      intro inStep
      exact inStep.deliverChanged member front others

theorem yields_broadcast
    (lookups : ∀ callback event, Lookup (run callback event))
    (calm : Calm roster before batch hub) (event : DeviceEvent) :
    (broadcast run event).Yields hub (fun _ => Calm roster before batch)
      fun _ => True := by
  simp only [broadcast, Run.yields_bind, Run.yields_get]
  have told : ((hub.registry.audience.subscriptions event.kind).forM
      fun subscription => run subscription.callback event).Yields hub
        (fun _ => Calm roster before batch) fun _ => True := by
    apply Run.yields_forM (Calm roster before batch) calm
    intro subscription _ left calmLeft
    exact ((lookups subscription.callback event).keeps left calmLeft).mono
      (fun _ _ => id) fun _ _ => trivial
  refine told.mono ?_ fun _ failed => failed
  intro _ left calmLeft
  exact calmLeft.congr rfl rfl rfl

theorem yields_deliver (lookups : ∀ callback event, Lookup (run callback event))
    (calm : Calm roster before (batchOf i (event :: events)) hub)
    (member : i ∈ roster) :
    (deliver run event).Yields hub
      (fun _ => Calm roster before (batchOf i events)) fun _ => True := by
  rw [deliver, Run.yields_bind]
  have front : batchOf i (event :: events) i = event :: batchOf i events i := by
    simp [batchOf]
  have others : ∀ j, i ≠ j → batchOf i events j =
      batchOf i (event :: events) j := by
    intro j different
    rw [batchOf, batchOf, if_neg different, if_neg different]
  refine (calm.yields_updateHandles member front others).mono ?_
    fun _ failed => failed
  intro _ left calmLeft
  exact calmLeft.yields_broadcast lookups event

theorem yields_deliverAll
    (lookups : ∀ callback event, Lookup (run callback event))
    (calm : Calm roster before (batchOf i events) hub) (member : i ∈ roster) :
    (events.forM (deliver run)).Yields hub
      (fun _ => Calm roster before fun _ => []) fun _ => True := by
  -- By induction on the events of a batch.
  induction events generalizing hub with
  | nil =>
      rw [batchOf_nil] at calm
      exact calm
  | cons event events induction =>
      rw [Run.yields_forM_cons]
      refine (calm.yields_deliver lookups member).mono ?_ fun _ failed => failed
      intro _ left calmLeft
      exact induction calmLeft

theorem yields_drain (calm : Calm roster before (fun _ => []) hub) :
    (atBackend i Backend.drain).Yields hub
      (fun events => Calm roster before (batchOf i events)) fun _ => True := by
  rw [yields_atBackend]
  refine calm.map ?_ ?_
  · intro j
    exact tracksAt_withBackend_of_same rfl
  · intro inStep
    apply inStep.drained rfl
    · exact if_pos rfl
    · intro j different
      exact if_neg different

theorem yields_pump (lookups : ∀ callback event, Lookup (run callback event))
    (calm : Calm roster before (fun _ => []) hub)
    (attached : hub.registry.roster = roster) :
    (pump run).Yields hub (fun _ => Calm roster before fun _ => [])
      fun _ => True := by
  rw [pump, Run.yields_bind, Run.yields_get, attached]
  refine Run.yields_foldlM (fun _ => Calm roster before fun _ => []) calm ?_
  intro i member count left calmLeft
  simp only [Run.yields_bind, Run.yields_pure]
  refine calmLeft.yields_drain.mono ?_ fun _ failed => failed
  intro events final calmFinal
  exact calmFinal.yields_deliverAll lookups member

end Calm

end Hub

end Hotplug
