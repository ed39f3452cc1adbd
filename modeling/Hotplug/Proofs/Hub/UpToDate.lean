import Hotplug.Proofs.Hub.Errands
import Hotplug.Proofs.Hub.Validity

/-!
# Handles are up to date when callbacks start

Before the callbacks of an event run, the handles of its device are brought up
to date. This leaves the events of the hub alone, like all lookups and every
other bystanding deed.
-/

namespace Hotplug

namespace Hub

variable {n : Nat} {σ κ ω α : Type} {hub left : ServiceHub n σ κ ω} {i : Fin n}
  {backend : ServiceBackend σ}

namespace SameFlow

theorem refl (hub : ServiceHub n σ κ ω) : SameFlow hub hub :=
  ⟨fun _ => rfl, rfl, rfl, rfl⟩

theorem trans {final : ServiceHub n σ κ ω} (one : SameFlow hub left)
    (two : SameFlow left final) :
    SameFlow hub final where
  queues i := (two.queues i).trans (one.queues i)
  nextStream := two.nextStream.trans one.nextStream
  streams := two.streams.trans one.streams
  inboxes := two.inboxes.trans one.inboxes

theorem ofBackend (same : SameFlow hub left)
    (queue : backend.queue = (left.backendAt i).queue) :
    SameFlow hub (left.withBackend i backend) where
  queues j := by
    rw [queueAt_withBackend]
    split
    · next equal =>
        subst equal
        exact queue.trans (same.queues i)
    · exact same.queues j
  nextStream := same.nextStream
  streams := same.streams
  inboxes := same.inboxes

theorem onSlots (same : SameFlow hub left)
    (change : HandleTable (ObjectRef n ServiceObject) →
      HandleTable (ObjectRef n ServiceObject)) :
    SameFlow hub (left.onSlots change) :=
  ⟨same.queues, same.nextStream, same.streams, same.inboxes⟩

end SameFlow

theorem SameFlow.ofGentle {step : Run (ServiceBackend σ) α}
    (gentle : ServiceBackend.Gentle step) (i : Fin n)
    (hub : ServiceHub n σ κ ω) :
    (atBackend i step).Keeps (SameFlow hub) := by
  intro left same
  rw [yields_atBackend]
  exact (gentle (left.backendAt i)).mono
    (fun _ _ mild => same.ofBackend mild.queue)
    fun _ mild => same.ofBackend mild.queue

variable [Service σ]

/-- The backend that an identifier is routed to answers an object for it, if it
is asked. -/
def Resolves (udi : String) (hub : ServiceHub n σ κ ω) : Prop :=
  ∃ i kept, hub.route? udi = some i ∧
    ((Backend.objectOf udi).start (hub.backendAt i)).1 = .ok (some kept)

/-- A device that is removed has no valid handle left. One that is added has
only valid ones, if its backend resolves it when the hub is found, or tracks it
when callbacks start. -/
def UpToDate (found started : ServiceHub n σ κ ω) : DeviceEvent → Prop
  | .removed udi =>
      ∀ handle : Handle, handle.udi = udi → started.isValid handle = false
  | .added udi =>
      (Resolves udi found ∨
        ∃ i, started.route? udi = some i ∧ started.tracksAt i udi = true) →
      ∀ handle : Handle, handle.udi = udi → 0 < started.sharers handle →
        started.isValid handle = true
  | .changed _ _ => True

theorem isValid_of_slot {handle : Handle} (counted : 0 < hub.sharers handle)
    (valid : ∀ slot, hub.registry.slots[handle.udi]? = some slot →
      slot.isValid hub.isAlive = true) : hub.isValid handle = true := by
  obtain ⟨udi, bound⟩ := handle
  cases bound with
  | false => simp [sharers] at counted
  | true =>
      cases found : hub.registry.slots[udi]? with
      | none => simp [sharers, HandleTable.sharers, found] at counted
      | some slot =>
          simpa [Hub.isValid, Hub.object?, HandleTable.object?, found,
            HandleSlot.isValid] using valid slot found

theorem isValid_detached {handle : Handle} :
    (hub.onSlots (HandleTable.detach handle.udi)).isValid handle = false := by
  have noObject : (HandleTable.detach handle.udi hub.registry.slots).object?
    hub.isAlive handle.udi = none := by
    rw [HandleTable.object?, HandleTable.getElem?_detach, if_pos rfl]
    cases hub.registry.slots[handle.udi]? with
    | none => rfl
    | some slot =>
        simp only [Option.bind_some, HandleTable.detached]
        split <;> rfl
  have none : (hub.onSlots (HandleTable.detach handle.udi)).object? handle =
      none := by
    rw [Hub.object?]
    split
    · exact noObject
    · rfl
  rw [Hub.isValid, none, Option.isSome_none]

theorem yields_makeObject_of_resolves (udi : String)
    (hub : ServiceHub n σ κ ω) :
    (makeObject udi).Yields hub
      (fun object _ => Resolves udi hub → ∃ ref, object = some ref)
        fun _ => True := by
  by_cases resolves : Resolves udi hub
  · obtain ⟨i, kept, route, answered⟩ := resolves
    rw [yields_makeObject, route]
    dsimp only
    rw [yields_atBackend]
    refine (Run.yields_start (ServiceBackend.objectOf udi)
      (hub.backendAt i)).mono ?_ fun _ _ => trivial
    intro found backend started _
    have same : (.ok found : Except Crash _) = .ok (some kept) :=
      (congrArg Prod.fst started).symm.trans answered
    cases same
    exact ⟨_, rfl⟩
  · refine (Run.yields_start (makeObject udi) hub).mono ?_ fun _ _ => trivial
    intro _ _ _ isResolved
    contradiction

theorem Answered.exists_of_tracked {udi : String}
    {object : Option (ObjectRef n ServiceObject)}
    (answered : Answered udi object hub)
    (tracked : ∃ i, hub.route? udi = some i ∧ hub.tracksAt i udi = true) :
    ∃ ref, object = some ref := by
  obtain ⟨i, routed, isTracked⟩ := tracked
  obtain ⟨found, rfl, _, complete⟩ := answered.owned i routed
  obtain ⟨kept, rfl⟩ := complete isTracked
  exact ⟨_, rfl⟩

theorem Answered.isAlive {udi : String} {ref : ObjectRef n ServiceObject}
    (answered : Answered udi (some ref) hub) : hub.isAlive ref = true :=
  isAlive_of_kept answered.kept.2

theorem yields_updateHandles_upToDate (event : DeviceEvent)
    (hub : ServiceHub n σ κ ω) :
    (updateHandles event).Yields hub
      (fun _ started => UpToDate hub started event ∧ SameFlow hub started)
        (SameFlow hub) := by
  cases event with
  | changed udi changes => exact ⟨trivial, .refl hub⟩
  | removed udi =>
      refine ⟨?_, (SameFlow.refl hub).onSlots _⟩
      intro handle named
      subst named
      exact isValid_detached
  | added udi =>
      rw [updateHandles, Run.yields_bind, Run.yields_get]
      split
      · rw [Run.yields_bind]
        have made := yields_makeObject_of_mild udi
          (fun _ _ _ mild => (SameFlow.refl hub).ofBackend mild.queue)
            (.refl hub)
        refine (made.and (yields_makeObject_of_resolves udi hub)).mono ?_
          fun _ => And.left
        intro object left outcome
        obtain ⟨⟨same, answered, slots⟩, resolved⟩ := outcome
        refine ⟨?_, same.onSlots _⟩
        intro proviso handle named counted
        subst named
        obtain ⟨ref, rfl⟩ : ∃ ref, object = some ref :=
          proviso.elim resolved answered.exists_of_tracked
        refine isValid_of_slot counted fun slot found => ?_
        rw [onSlots_slots, HandleTable.getElem?_rebind, if_pos rfl] at found
        obtain ⟨before, _, rfl⟩ := Option.map_eq_some_iff.mp found
        have lives :
          (left.onSlots (HandleTable.rebind handle.udi (some ref))).isAlive
          ref =
            true := answered.isAlive
        simp [HandleSlot.isValid, HandleSlot.living, lives]
      · next bound =>
          refine ⟨?_, .refl hub⟩
          intro _ handle named counted
          subst named
          refine isValid_of_slot counted fun slot found => ?_
          simpa [HandleTable.isOrphaned, found] using bound

section Undisturbing

theorem sameFlow_release (handle : Handle) (hub : ServiceHub n σ κ ω) :
    SameFlow hub (hub.release handle) := by
  unfold Hub.release
  split
  · exact (SameFlow.refl hub).onSlots _
  · exact .refl hub

theorem keeps_find_sameFlow (udi : String) (hub : ServiceHub n σ κ ω) :
    (find udi).Keeps (SameFlow hub) := fun _ same =>
  yields_find_of_mild (fun _ change later => later.onSlots change)
    (fun _ _ _ mild => same.ofBackend mild.queue) same

/-- No query disturbs the events, whatever handles are out. -/
theorem account_sameFlow (hub : ServiceHub n σ κ ω) :
    Account fun _ => SameFlow hub := by
  apply Account.ofGentle
  · exact fun udi => keeps_find_sameFlow udi hub
  · exact fun handle same => same.trans (sameFlow_release handle _)
  · exact fun gentle i => SameFlow.ofGentle gentle i hub

theorem keeps_reload_sameFlow (i : Fin n) (hub : ServiceHub n σ κ ω) :
    (atBackend i Backend.reload).Keeps (SameFlow hub) := by
  intro left same
  rw [yields_atBackend]
  refine (ServiceBackend.yields_reload (left.backendAt i)).mono ?_ ?_
  · intro ids backend outcome
    exact same.ofBackend outcome.1.queue
  · intro backend outcome
    exact same.ofBackend outcome.1.queue

/-- A deed that touches no event: looking things up, loading the backends again,
a callback that comes or goes, what goes on within a service, and such deeds one
after the other. -/
inductive Bystanding : {α : Type} → Run (ServiceHub n σ κ ω) α → Prop
  | pure {α : Type} (answer : α) : Bystanding (pure answer)
  | bind {α β : Type} {step : Run (ServiceHub n σ κ ω) α}
      {next : α → Run (ServiceHub n σ κ ω) β} (first : Bystanding step)
      (later : ∀ answer, Bystanding (next answer)) : Bystanding (step >>= next)
  | modify {change : ServiceHub n σ κ ω → ServiceHub n σ κ ω}
      (same : ∀ hub, SameFlow hub (change hub)) : Bystanding (modify change)
  | subscribe (kind : EventKind) (callback : κ) :
      Bystanding (modifyAudience (Audience.subscribe kind callback))
  | unsubscribe (id : Nat) :
    Bystanding (modifyAudience (Audience.unsubscribe id))
  | serve (i : Fin n) (step : Run σ Unit) :
      Bystanding (atBackend i (ServiceBackend.onCache fun _ => Cache.call step))
  | find (udi : String) : Bystanding (find udi)
  | query (text : String) (parent : Option String) :
    Bystanding (query text parent)
  | devicesWith (capability : Capability) (parent : Option String) :
      Bystanding (devicesWith capability parent)
  | storageFromPath (pathExists : String → Bool) (path : String) :
      Bystanding (storageFromPath pathExists path)
  | parent (handle : Handle) : Bystanding (parent handle)
  | reload : Bystanding reload

theorem Bystanding.undisturbing {step : Run (ServiceHub n σ κ ω) α}
    (stands : Bystanding step) :
    Undisturbing step := by
  induction stands with
  | pure answer => exact .refl
  | bind _ _ first later =>
      intro hub
      rw [Run.yields_bind]
      refine (first hub).mono ?_ fun _ same => same
      intro answer left same
      exact (later answer left).mono (fun _ _ => same.trans) fun _ => same.trans
  | modify same => exact same
  | subscribe kind callback =>
      intro hub
      cases kind <;> exact ⟨fun _ => rfl, rfl, rfl, rfl⟩
  | unsubscribe id => exact fun _ => ⟨fun _ => rfl, rfl, rfl, rfl⟩
  | serve i step =>
      intro hub
      rw [yields_atBackend, ServiceBackend.yields_onCache]
      refine (Cache.sameTracked_call step _ (hub.backendAt i).cache rfl).mono
        ?_ ?_
      · intro _ cache _
        exact (SameFlow.refl hub).ofBackend rfl
      · intro cache _
        exact (SameFlow.refl hub).ofBackend rfl
  | find udi => exact fun hub => keeps_find_sameFlow udi hub hub (.refl hub)
  | query text parent =>
      exact fun hub => @Account.yields_select _ _ _ _ _ _ _ [] hub
        (account_sameFlow hub) (fun _ i => keeps_reload_sameFlow i hub)
          (.parseOrInvalid text) parent (.refl hub)
  | devicesWith capability parent =>
      exact fun hub => @Account.yields_devicesWith _ _ _ _ _ _ _ [] hub
        (account_sameFlow hub) capability parent (.refl hub)
  | storageFromPath pathExists path =>
      exact fun hub => @Account.yields_storageFromPath _ _ _ _ _ _ _ [] hub
        (account_sameFlow hub) pathExists path (.refl hub)
  | parent handle =>
      exact fun hub => @Account.yields_parent _ _ _ _ _ _ _ [] hub
        (account_sameFlow hub) handle (.refl hub)
  | reload =>
      exact fun hub => @Account.yields_reload _ _ _ _ _ _
        (fun _ => SameFlow hub) [] hub
        (fun i => keeps_reload_sameFlow i hub) (.refl hub)

end Undisturbing

end Hub

end Hotplug
