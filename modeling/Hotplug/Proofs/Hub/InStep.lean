import Hotplug.Proofs.Hub.Agreement
import Hotplug.Proofs.Hub.Steps

/-!
# Registries in step with their backends

A registry is in step with its backends when every identifier's slot agrees with
the backend that owns the identifier, up to the events that are still to be
delivered. While the events of a backend are delivered, those that were taken
from it come before the ones that it queues in the meantime.
-/

namespace Hotplug

theorem Text.startsBy_or_startsBy {text left right : String}
    (byLeft : Text.startsBy text left = true)
    (byRight : Text.startsBy text right = true) :
    Text.startsBy left right = true ∨ Text.startsBy right left = true := by
  simp only [Text.startsBy, List.isPrefixOf_iff_prefix] at *
  exact (List.prefix_or_prefix_of_prefix byLeft byRight).symm

namespace Hub

variable {n : Nat} {σ κ ω : Type}
  {hub : Hub n (ServiceBackend σ) ServiceObject κ ω} {i j : Fin n}
  {udi : String} {backend : ServiceBackend σ} {roster : List (Fin n)}
  {batch later : Fin n → List DeviceEvent}

def tracksAt (i : Fin n) (hub : Hub n (ServiceBackend σ) ServiceObject κ ω)
    (udi : String) :
    Bool :=
  (hub.backendAt i).tracks udi

def prefixAt (i : Fin n) (hub : Hub n (ServiceBackend σ) ServiceObject κ ω) :
    String :=
  (hub.backendAt i).identifierPrefix

def queueAt (i : Fin n) (hub : Hub n (ServiceBackend σ) ServiceObject κ ω) :
    List DeviceEvent :=
  (hub.backendAt i).queue

/-- No attached backend has a prefix that starts with the prefix of another
one. -/
def Apart (hub : Hub n (ServiceBackend σ) ServiceObject κ ω) : Prop :=
  hub.registry.roster.Pairwise fun i j =>
    Text.startsBy (hub.prefixAt i) (hub.prefixAt j) = false ∧
      Text.startsBy (hub.prefixAt j) (hub.prefixAt i) = false

/-- Every attached backend tracks identifiers under its own prefix only. -/
def Owning (hub : Hub n (ServiceBackend σ) ServiceObject κ ω) : Prop :=
  ∀ i ∈ hub.registry.roster, ∀ udi, hub.tracksAt i udi = true →
    Text.startsBy udi (hub.prefixAt i) = true

theorem tracksAt_withBackend :
    (hub.withBackend i backend).tracksAt j = if i = j then backend.tracks
      else hub.tracksAt j := by
  funext udi
  rw [tracksAt, backendAt_withBackend]
  split <;> rfl

theorem queueAt_withBackend :
    (hub.withBackend i backend).queueAt j = if i = j then backend.queue
      else hub.queueAt j := by
  rw [queueAt, backendAt_withBackend]
  split <;> rfl

theorem tracksAt_withBackend_of_same
    (same : backend.tracks = (hub.backendAt i).tracks) :
    (hub.withBackend i backend).tracksAt j = hub.tracksAt j := by
  rw [tracksAt_withBackend]
  split
  · next equal =>
      subst equal
      exact same
  · rfl

theorem prefixAt_withBackend
    (settings : backend.settings = (hub.backendAt i).settings) :
    (hub.withBackend i backend).prefixAt j = hub.prefixAt j := by
  rw [prefixAt, backendAt_withBackend]
  split
  · next same =>
      subst same
      rw [ServiceBackend.identifierPrefix, ServiceBackend.config, settings]
      rfl
  · rfl

theorem Apart.nodup (apart : hub.Apart) : hub.registry.roster.Nodup := by
  refine apart.imp ?_
  intro i j disjoint same
  obtain rfl := same
  obtain ⟨notPrefix, _⟩ := disjoint
  have itself : Text.startsBy (hub.prefixAt i) (hub.prefixAt i) = true := by
    simp [Text.startsBy, List.isPrefixOf_iff_prefix]
  rw [itself] at notPrefix
  contradiction

theorem Apart.not_mem_of_split (apart : hub.Apart) {done rest : List (Fin n)}
    (split : hub.registry.roster = done ++ i :: rest) : i ∉ done := by
  have nodup := apart.nodup
  rw [split] at nodup
  intro member
  exact (List.nodup_append.mp nodup).2.2 i member i List.mem_cons_self rfl

theorem Apart.eq_of_startsBy (apart : hub.Apart)
    (member : i ∈ hub.registry.roster) (memberToo : j ∈ hub.registry.roster)
    (starts : Text.startsBy udi (hub.prefixAt i) = true)
    (startsToo : Text.startsBy udi (hub.prefixAt j) = true) :
    i = j := by
  have between : ∀ left right, left = right ∨
      Text.startsBy (hub.prefixAt left) (hub.prefixAt right) = false ∧
        Text.startsBy (hub.prefixAt right) (hub.prefixAt left) = false →
      Text.startsBy udi (hub.prefixAt left) = true →
      Text.startsBy udi (hub.prefixAt right) = true → left = right := by
    intro left right outcome byLeft byRight
    rcases outcome with same | ⟨notLeft, notRight⟩
    · exact same
    · rcases Text.startsBy_or_startsBy byLeft byRight with left | right
      · rw [left] at notLeft
        contradiction
      · rw [right] at notRight
        contradiction
  have either := List.Pairwise.forall_of_forall_of_flip
    (R := fun left right => left = right ∨
      Text.startsBy (hub.prefixAt left) (hub.prefixAt right) = false ∧
        Text.startsBy (hub.prefixAt right) (hub.prefixAt left) = false)
    (fun _ _ => .inl rfl) (apart.imp .inr)
      (apart.imp fun disjoint => .inr disjoint.symm)
  exact between i j (either member memberToo) starts startsToo

variable [Service σ]

theorem startsBy_of_route? (route : hub.route? udi = some i) :
    i ∈ hub.registry.roster ∧ Text.startsBy udi (hub.prefixAt i) = true := by
  have owned := List.find?_some route
  exact ⟨List.mem_of_find?_eq_some route, owned⟩

/-- With prefixes apart, an identifier belongs to whichever backend has its
prefix. -/
theorem Apart.route?_eq_some (apart : hub.Apart)
    (member : i ∈ hub.registry.roster)
    (starts : Text.startsBy udi (hub.prefixAt i) = true) :
    hub.route? udi = some i := by
  cases route : hub.route? udi with
  | none => exact (List.find?_eq_none.mp route i member starts).elim
  | some j =>
      obtain ⟨memberToo, startsToo⟩ := startsBy_of_route? route
      rw [apart.eq_of_startsBy member memberToo starts startsToo]

theorem route?_withSettings
    (settings : backend.settings = (hub.backendAt i).settings) :
    (hub.withBackend i backend).route? udi = hub.route? udi := by
  apply route?_withBackend
  change backend.config.descriptor = (hub.backendAt i).config.descriptor
  rw [ServiceBackend.config, settings]
  rfl

/-- The events of a batch and of the queues are still to be delivered. -/
structure InStep (roster : List (Fin n)) (batch : Fin n → List DeviceEvent)
    (hub : Hub n (ServiceBackend σ) ServiceObject κ ω) : Prop where
  attached : hub.registry.roster = roster
  apart : hub.Apart
  owning : hub.Owning
  concerned : ∀ i ∈ roster, ∀ event ∈ batch i ++ hub.queueAt i,
    ∀ udi, event.Moves udi → Text.startsBy udi (hub.prefixAt i) = true
  unowned : ∀ udi, hub.route? udi = none →
    ∀ slot, hub.registry.slots[udi]? = some slot → slot.object = none
  agrees : ∀ udi i, hub.route? udi = some i → udi ≠ hub.prefixAt i →
    Agrees i udi (batch i ++ hub.queueAt i) (hub.tracksAt i udi)
      (hub.backendAt i).objects[udi]? hub.registry.slots[udi]?

namespace InStep

theorem congr (inStep : InStep roster batch hub)
    {left : Hub n (ServiceBackend σ) ServiceObject κ ω}
    (sameRoster : left.registry.roster = hub.registry.roster)
    (sameSlots : left.registry.slots = hub.registry.slots)
    (sameBackends : left.backends = hub.backends) :
    InStep roster batch left := by
  obtain ⟨backends, ⟨leftRoster, slots, audience⟩, held, client⟩ := left
  dsimp only at sameRoster sameSlots sameBackends
  subst sameRoster sameSlots sameBackends
  exact ⟨inStep.attached, inStep.apart, inStep.owning, inStep.concerned,
    inStep.unowned, inStep.agrees⟩

theorem ofBackend (inStep : InStep roster batch hub)
    (settings : backend.settings = (hub.backendAt i).settings)
    (owning : (hub.withBackend i backend).Owning)
    (others : ∀ j, i ≠ j → later j = batch j)
    (concerned : i ∈ roster → ∀ event ∈ later i ++ backend.queue, ∀ udi,
      event.Moves udi → Text.startsBy udi (hub.prefixAt i) = true)
    (agrees : ∀ udi, hub.route? udi = some i → udi ≠ hub.prefixAt i →
      Agrees i udi (later i ++ backend.queue)
      (backend.tracks udi) backend.objects[udi]? hub.registry.slots[udi]?) :
    InStep roster later (hub.withBackend i backend) where
  attached := inStep.attached
  apart := by
    simp only [Apart, prefixAt_withBackend settings]
    exact inStep.apart
  owning := owning
  concerned j member := by
    rw [prefixAt_withBackend settings, queueAt, backendAt_withBackend]
    split
    · next same =>
        subst same
        exact concerned member
    · next different =>
        rw [others j different]
        exact inStep.concerned j member
  unowned udi route := by
    rw [route?_withSettings settings] at route
    exact inStep.unowned udi route
  agrees udi j route := by
    rw [route?_withSettings settings] at route
    rw [prefixAt_withBackend settings, queueAt, tracksAt_withBackend,
      backendAt_withBackend]
    split
    · next same =>
        subst same
        exact agrees udi route
    · next different =>
        rw [others j different]
        exact inStep.agrees udi j route

theorem ofSlots (inStep : InStep roster batch hub)
    {change : HandleTable (ObjectRef n ServiceObject) →
      HandleTable (ObjectRef n ServiceObject)}
    (fewer : ∀ i, ∀ event ∈ later i, event ∈ batch i)
    (unowned : ∀ udi, hub.route? udi = none → ∀ slot,
      (change hub.registry.slots)[udi]? = some slot → slot.object = none)
    (agrees : ∀ udi i, hub.route? udi = some i → udi ≠ hub.prefixAt i →
      Agrees i udi (later i ++ hub.queueAt i) (hub.tracksAt i udi)
      (hub.backendAt i).objects[udi]? (change hub.registry.slots)[udi]?) :
    InStep roster later (hub.onSlots change) where
  attached := inStep.attached
  apart := inStep.apart
  owning := inStep.owning
  concerned i member event pending := by
    apply inStep.concerned i member event
    rcases List.mem_append.mp pending with taken | queued
    · exact List.mem_append_left _ (fewer i event taken)
    · exact List.mem_append_right _ queued
  unowned := unowned
  agrees := agrees

/-- Slots may go, or change everything but their object. -/
theorem ofSlotsKeeping (inStep : InStep roster batch hub)
    {change : HandleTable (ObjectRef n ServiceObject) →
      HandleTable (ObjectRef n ServiceObject)}
    (same : ∀ (udi : String) slot, (change hub.registry.slots)[udi]? =
      some slot → ∃ before, hub.registry.slots[udi]? = some before ∧
      before.object = slot.object) :
    InStep roster batch (hub.onSlots change) := by
  apply inStep.ofSlots fun _ _ => id
  · intro udi route slot found
    obtain ⟨before, foundBefore, object⟩ := same udi slot found
    rw [← object]
    exact inStep.unowned udi route before foundBefore
  · intro udi i route named
    exact (inStep.agrees udi i route named).ofSlot
      fun slot found => same udi slot found

theorem clone (inStep : InStep roster batch hub) (handle : Handle) :
    InStep roster batch (hub.clone handle) := by
  unfold Hub.clone
  split
  · apply inStep.ofSlotsKeeping
    intro udi slot found
    exact HandleTable.exists_of_acquire? found
  · exact inStep

theorem release (inStep : InStep roster batch hub) (handle : Handle) :
    InStep roster batch (hub.release handle) := by
  unfold Hub.release
  split
  · apply inStep.ofSlotsKeeping
    intro udi slot found
    exact HandleTable.exists_of_release found
  · exact inStep

theorem owning_withBackend (inStep : InStep roster batch hub)
    (settings : backend.settings = (hub.backendAt i).settings)
    (same : backend.tracks = (hub.backendAt i).tracks) :
    (hub.withBackend i backend).Owning := by
  intro j member udi tracked
  rw [prefixAt_withBackend settings]
  rw [tracksAt_withBackend_of_same same] at tracked
  exact inStep.owning j member udi tracked

/-- A backend that is not attached may do what it likes. -/
theorem ofUnattached (inStep : InStep roster batch hub) (absent : i ∉ roster)
    (settings : backend.settings = (hub.backendAt i).settings) :
    InStep roster batch (hub.withBackend i backend) := by
  apply inStep.ofBackend settings _ fun _ _ => rfl
  · intro member
    exact (absent member).elim
  · intro udi route
    have member := (startsBy_of_route? route).1
    exact (absent (inStep.attached ▸ member)).elim
  · intro j member udi tracked
    have different : i ≠ j := by
      intro same
      obtain rfl := same
      exact absent (inStep.attached ▸ member)
    rw [tracksAt_withBackend, if_neg different] at tracked
    rw [prefixAt_withBackend settings]
    exact inStep.owning j member udi tracked

theorem ofMild (inStep : InStep roster batch hub)
    (mild : ServiceBackend.Mild (hub.backendAt i) backend)
    (same : backend.tracks = (hub.backendAt i).tracks) :
    InStep roster batch (hub.withBackend i backend) := by
  apply inStep.ofBackend mild.settings
    (inStep.owning_withBackend mild.settings same) fun _ _ => rfl
  · rw [mild.queue]
    exact inStep.concerned i
  · intro udi route named
    rw [mild.queue, same]
    apply (inStep.agrees udi i route named).ofKept (mild.kept udi)
    intro object held
    rcases mild.made udi object held with before | isPrefix | tracked
    · exact (inStep.agrees udi i route named).owned object before
    · exact (named isPrefix).elim
    · rw [tracksAt, ← same]
      exact tracked

theorem ofAbsorbed (inStep : InStep roster batch hub)
    {events : List DeviceEvent}
    (absorbed : ServiceBackend.Absorbed (hub.backendAt i) backend events)
    (owning : (hub.withBackend i backend).Owning) :
    InStep roster batch (hub.withBackend i backend) := by
  apply inStep.ofBackend absorbed.settings owning fun _ _ => rfl
  · intro member event pending udi moves
    rw [absorbed.queue, ← List.append_assoc] at pending
    rcases List.mem_append.mp pending with earlier | now
    · exact inStep.concerned i member event earlier udi moves
    · rcases absorbed.told.concerned event now udi moves with before | after
      · exact inStep.owning i (inStep.attached ▸ member) udi before
      · rw [← prefixAt_withBackend absorbed.settings]
        apply owning i (inStep.attached ▸ member) udi
        rw [tracksAt_withBackend, if_pos rfl]
        exact after
  · intro udi route named
    rw [absorbed.queue, ← List.append_assoc]
    exact (inStep.agrees udi i route named).ofAbsorbed rfl
      (congrFun absorbed.told.replayed udi).symm (absorbed.kept udi)
        (absorbed.held udi)

/-- A reload that finds what was tracked lets go of nothing. -/
theorem ofReloaded (inStep : InStep roster batch hub)
    (reloaded : ServiceBackend.Reloaded (hub.backendAt i) backend)
    (same : backend.tracks = (hub.backendAt i).tracks) :
    InStep roster batch (hub.withBackend i backend) := by
  apply inStep.ofBackend reloaded.settings
    (inStep.owning_withBackend reloaded.settings same) fun _ _ => rfl
  · rw [reloaded.queue]
    exact inStep.concerned i
  · intro udi route named
    have agrees := inStep.agrees udi i route named
    rw [reloaded.queue, same]
    apply agrees.ofKept
    · intro object held
      apply reloaded.kept udi object held
      rw [same]
      exact agrees.owned object held
    · intro object held
      rcases (reloaded.held udi object held).2 with isPrefix | tracked
      · rw [ServiceBackend.identifierPrefix, ServiceBackend.config,
          reloaded.settings] at isPrefix
        exact (named isPrefix).elim
      · rw [tracksAt, ← same]
        exact tracked

theorem drained (inStep : InStep roster batch hub) (none : batch i = [])
    (taken : later i = hub.queueAt i)
    (others : ∀ j, i ≠ j → later j = batch j) :
    InStep roster later (hub.withBackend i { (hub.backendAt i) with
      queue := [] }) := by
  have pending : later i ++ [] = batch i ++ hub.queueAt i := by
    rw [taken, none, List.append_nil, List.nil_append]
  have settings : ({ (hub.backendAt i) with queue := [] } :
    ServiceBackend σ).settings = (hub.backendAt i).settings := rfl
  apply inStep.ofBackend settings
    (inStep.owning_withBackend settings rfl) others
  · rw [pending]
    exact inStep.concerned i
  · rw [pending]
    exact fun udi => inStep.agrees udi i

theorem ofAcquired (inStep : InStep roster batch hub) {udi : String}
    {alive : ObjectRef n ServiceObject → Bool}
    {object : Option (ObjectRef n ServiceObject)}
    (absent : hub.registry.slots[udi]? = none)
    (unowned : hub.route? udi = none → object = none)
    (agrees : ∀ i, hub.route? udi = some i → udi ≠ hub.prefixAt i →
      Agrees i udi (batch i ++ hub.queueAt i) (hub.tracksAt i udi)
      (hub.backendAt i).objects[udi]? (some ⟨1, object⟩)) :
    InStep roster batch (hub.onSlots
      (HandleTable.acquireWith alive udi object)) := by
  have slot : HandleTable.acquired alive object hub.registry.slots[udi]? =
      ⟨1, object⟩ := by
    rw [absent]
    rfl
  apply inStep.ofSlots fun _ _ => id
  · intro other route
    rw [HandleTable.getElem?_acquireWith, slot]
    split
    · next equal =>
        subst equal
        intro _ outcome
        obtain ⟨⟩ := outcome
        exact unowned route
    · exact inStep.unowned other route
  · intro other i route named
    rw [HandleTable.getElem?_acquireWith, slot]
    split
    · next equal =>
        subst equal
        exact agrees i route named
    · exact inStep.agrees other i route named

theorem ofDelivered (inStep : InStep roster batch hub) (member : i ∈ roster)
    {event : DeviceEvent} (front : batch i = event :: later i)
    (others : ∀ j, i ≠ j → later j = batch j)
    {change : HandleTable (ObjectRef n ServiceObject) →
      HandleTable (ObjectRef n ServiceObject)}
    (elsewhere : ∀ other : String, ¬event.Moves other →
      (change hub.registry.slots)[other]? = hub.registry.slots[other]?)
    (here : ∀ udi, event.Moves udi → hub.route? udi = some i →
      udi ≠ hub.prefixAt i → Agrees i udi (later i ++ hub.queueAt i)
      (hub.tracksAt i udi) (hub.backendAt i).objects[udi]?
      (change hub.registry.slots)[udi]?) :
    InStep roster later (hub.onSlots change) := by
  have routed : ∀ udi, event.Moves udi → hub.route? udi = some i := by
    intro udi moves
    apply inStep.apart.route?_eq_some (inStep.attached ▸ member)
    apply inStep.concerned i member event _ udi moves
    simp [front]
  apply inStep.ofSlots
  · intro j later pending
    by_cases same : i = j
    · subst same
      rw [front]
      exact List.mem_cons_of_mem event pending
    · rwa [others j same] at pending
  · intro udi route
    have still : ¬event.Moves udi := by
      intro moves
      rw [routed udi moves] at route
      contradiction
    rw [elsewhere udi still]
    exact inStep.unowned udi route
  · intro udi j route named
    by_cases moves : event.Moves udi
    · obtain rfl : i = j := Option.some.inj
        ((routed udi moves).symm.trans route)
      exact here udi moves route named
    · rw [elsewhere udi moves]
      have agrees := inStep.agrees udi j route named
      by_cases same : i = j
      · subst same
        rw [front, List.cons_append] at agrees
        exact agrees.ofOther moves
      · rwa [others j same]

end InStep

end Hub

end Hotplug
