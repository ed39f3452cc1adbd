import Hotplug.Cache.RemovableMedia
import Hotplug.Proofs.Hub.Delivered
import Hotplug.Proofs.Hub.Surveyed
import Hotplug.Proofs.Named
import Hotplug.Service.Memory

/-!
# Valid handles are those of tracked devices

From a first load on, signals, lookups and deliveries follow each other in any
order. Whenever no event is left to deliver, a slot is valid exactly if the
backend that owns its identifier tracks it.
-/

namespace Hotplug

namespace Hub

variable {n : Nat} {σ κ ω : Type}
  {hub left : Hub n (ServiceBackend σ) ServiceObject κ ω} {i : Fin n}
  {done : List (Fin n)}

/-- Each attached backend tracks the same identifiers in both. -/
def SameTracked (hub left : Hub n (ServiceBackend σ) ServiceObject κ ω) :
    Prop :=
  ∀ i ∈ hub.registry.roster, left.tracksAt i = hub.tracksAt i

theorem mem_keys_iff {backend : ServiceBackend σ} {udi : String} :
    udi ∈ backend.cache.devices.keys ↔ backend.tracks udi = true := by
  rw [Std.ExtTreeMap.mem_keys]
  rfl

instance : Decidable hub.Apart :=
  inferInstanceAs (Decidable (hub.registry.roster.Pairwise _))

instance : Decidable hub.Owning :=
  decidable_of_iff (hub.registry.roster.all
    fun i => (hub.backendAt i).cache.devices.keys.all
      fun udi => Text.startsBy udi (hub.prefixAt i)) (by
    simp only [List.all_eq_true, mem_keys_iff]
    rfl)

instance : Decidable (SameTracked hub left) :=
  decidable_of_iff (hub.registry.roster.all fun i =>
      ((hub.backendAt i).cache.devices.keys.all
        fun udi => left.tracksAt i udi) &&
        (left.backendAt i).cache.devices.keys.all fun udi => hub.tracksAt i udi)
            (by
    simp only [List.all_eq_true, Bool.and_eq_true, mem_keys_iff]
    constructor
    · intro both i member
      funext udi
      rw [Bool.eq_iff_iff]
      exact ⟨(both i member).2 udi, (both i member).1 udi⟩
    · intro same i member
      exact ⟨fun udi tracked => (congrFun (same i member) udi).trans tracked,
        fun udi tracked => (congrFun (same i member) udi).symm.trans tracked⟩)

variable [Service σ]
  {run : κ → DeviceEvent →
    Run (Hub n (ServiceBackend σ) ServiceObject κ ω) Unit}

/-- The states of a hub from a load of all backends on, before anything was
looked up. Services change, signals of any kind are handled, handles are looked
up, cloned and given up, queries are made and events are delivered. Only signals
change what is tracked, and no backend ever tracks an identifier of another
one. -/
inductive Reached
    (run : κ → DeviceEvent →
      Run (Hub n (ServiceBackend σ) ServiceObject κ ω) Unit) :
    Hub n (ServiceBackend σ) ServiceObject κ ω → Prop
  | loaded {before after : Hub n (ServiceBackend σ) ServiceObject κ ω}
      (answered : (reload.start before).1.isOk = true)
        (left : (reload.start before).2 = after)
      (apart : after.Apart) (owning : after.Owning)
        (bare : after.registry.slots.isEmpty = true)
      (quiet : ∀ i ∈ after.registry.roster, after.queueAt i = []) :
        Reached run after
  | handled {hub : Hub n (ServiceBackend σ) ServiceObject κ ω}
    (reached : Reached run hub) (i : Fin n) (signal : Signal)
      (owning : ((atBackend i (ServiceBackend.absorb signal)).start
        hub).2.Owning) :
      Reached run ((atBackend i (ServiceBackend.absorb signal)).start hub).2
  | served {hub : Hub n (ServiceBackend σ) ServiceObject κ ω}
    (reached : Reached run hub) (i : Fin n) (step : Run σ Unit) :
      Reached run
        ((atBackend i (ServiceBackend.onCache fun _ => Cache.call step)).start
          hub).2
  | lookedUp {hub : Hub n (ServiceBackend σ) ServiceObject κ ω}
    (reached : Reached run hub)
      {α : Type} {step : Run (Hub n (ServiceBackend σ) ServiceObject κ ω) α}
      (lookup : Lookup step) (same : SameTracked hub (step.start hub).2) :
      Reached run (step.start hub).2
  | queried {hub : Hub n (ServiceBackend σ) ServiceObject κ ω}
    (reached : Reached run hub) (text : String) (parent : Option String)
      (same : SameTracked hub ((query text parent).start hub).2) :
      Reached run ((query text parent).start hub).2
  | surveyed {hub : Hub n (ServiceBackend σ) ServiceObject κ ω}
    (reached : Reached run hub)
      (same : SameTracked hub (everyDevice.start hub).2) :
        Reached run (everyDevice.start hub).2
  | reloaded {hub : Hub n (ServiceBackend σ) ServiceObject κ ω}
    (reached : Reached run hub)
      (same : SameTracked hub (reload.start hub).2) :
        Reached run (reload.start hub).2
  | delivered {hub : Hub n (ServiceBackend σ) ServiceObject κ ω}
    (reached : Reached run hub)
      (answered : ((pump run).start hub).1.isOk = true)
      (same : SameTracked hub ((pump run).start hub).2) :
        Reached run ((pump run).start hub).2

/-- The objects of the backends that were loaded are of tracked identifiers. -/
def Loaded (done : List (Fin n))
    (hub : Hub n (ServiceBackend σ) ServiceObject κ ω) :
    Prop :=
  ∀ i ∈ done, ∀ (udi : String) kept,
    (hub.backendAt i).objects[udi]? = some kept →
    udi = hub.prefixAt i ∨ hub.tracksAt i udi = true

theorem yields_reload_loaded :
    reload.Yields hub
      (fun _ left => left.registry.roster = hub.registry.roster ∧
        Loaded hub.registry.roster left)
      fun _ => True := by
  rw [reload, Run.yields_bind, Run.yields_get]
  apply Run.yields_foldlM_done
    (fun done _ left => left.registry.roster = hub.registry.roster ∧
      Loaded done left)
  · refine ⟨rfl, ?_⟩
    intro i member
    simp at member
  · intro done i rest _ count left outcome
    obtain ⟨roster, loaded⟩ := outcome
    rw [Run.yields_bind, yields_atBackend]
    refine (ServiceBackend.yields_reload (left.backendAt i)).mono ?_
      fun _ _ => trivial
    intro ids backend outcome
    obtain ⟨reloaded, _⟩ := outcome
    refine ⟨roster, ?_⟩
    intro j member udi kept held
    rw [prefixAt_withBackend reloaded.settings, tracksAt_withBackend]
    rw [backendAt_withBackend] at held
    split at held
    · next same =>
        subst same
        rw [if_pos rfl]
        rcases (reloaded.held udi kept held).2 with isPrefix | tracked
        · left
          rw [isPrefix, ServiceBackend.identifierPrefix, ServiceBackend.config,
            reloaded.settings]
          rfl
        · exact .inr tracked
    · next different =>
        rw [if_neg different]
        rcases List.mem_append.mp member with earlier | now
        · exact loaded j earlier udi kept held
        · exact (different (List.mem_singleton.mp now).symm).elim

/-- Before anything is looked up there is no slot that could lag behind. -/
theorem InStep.ofLoaded (loaded : Loaded hub.registry.roster hub)
    (apart : hub.Apart) (owning : hub.Owning)
    (bare : hub.registry.slots.isEmpty = true)
    (quiet : ∀ i ∈ hub.registry.roster, hub.queueAt i = []) :
    InStep hub.registry.roster (fun _ => []) hub where
  attached := rfl
  apart := apart
  owning := owning
  concerned i member event pending := by
    rw [quiet i member] at pending
    simp at pending
  unowned udi _ slot found := by
    rw [Named.isEmpty_iff_forall.mp bare udi] at found
    contradiction
  agrees udi i route named := by
    have member := (startsBy_of_route? route).1
    rw [quiet i member, Named.isEmpty_iff_forall.mp bare udi]
    constructor
    · intro announced
      simp [Announced] at announced
    · simp
    · simp
    · intro kept held
      exact (loaded i member udi kept held).resolve_left named

theorem InStep.absorb (inStep : InStep hub.registry.roster (fun _ => []) hub)
    (i : Fin n) (signal : Signal)
    (owning : ((atBackend i (ServiceBackend.absorb signal)).start
      hub).2.Owning) :
    InStep hub.registry.roster (fun _ => [])
      ((atBackend i (ServiceBackend.absorb signal)).start hub).2 := by
  have absorbed : (atBackend i (ServiceBackend.absorb signal)).Yields hub
      (fun _ left => left.Owning →
        InStep hub.registry.roster (fun _ => []) left)
      fun left => left.Owning →
          InStep hub.registry.roster (fun _ => []) left := by
    rw [yields_atBackend]
    refine (ServiceBackend.yields_absorb signal (hub.backendAt i)).mono ?_ ?_
    · intro count backend outcome owning
      obtain ⟨events, absorbed⟩ := outcome
      exact inStep.ofAbsorbed absorbed owning
    · intro backend outcome _
      obtain ⟨mild, same⟩ := outcome
      exact inStep.ofMild mild same
  exact absorbed.left owning

theorem InStep.serve (inStep : InStep hub.registry.roster (fun _ => []) hub)
    (i : Fin n) (step : Run σ Unit) :
    InStep hub.registry.roster (fun _ => [])
      ((atBackend i (ServiceBackend.onCache fun _ => Cache.call step)).start
        hub).2 := by
  apply Run.Yields.left
  rw [yields_atBackend, ServiceBackend.yields_onCache]
  refine (Cache.sameTracked_call step _ (hub.backendAt i).cache rfl).mono ?_ ?_
  · intro _ cache same
    exact inStep.ofMild (.ofCache (.inl same)) same
  · intro cache same
    exact inStep.ofMild (.ofCache (.inl same)) same

namespace Reached

theorem inStep_of_step {α : Type}
    {step : Run (Hub n (ServiceBackend σ) ServiceObject κ ω) α}
    (inStep : InStep hub.registry.roster (fun _ => []) hub)
    (lookup : Lookup step) (same : SameTracked hub (step.start hub).2) :
    InStep hub.registry.roster (fun _ => []) (step.start hub).2 := by
  have calm := (lookup.keeps hub (Calm.ofInStep inStep)).left
  exact calm.inStep same

theorem inStep_of_survey {α : Type}
    {step : Run (Hub n (ServiceBackend σ) ServiceObject κ ω) α}
    (yields : step.Yields hub (fun _ => Survey hub hub.registry.roster)
      (Survey hub hub.registry.roster))
    (same : SameTracked hub (step.start hub).2) :
    InStep hub.registry.roster (fun _ => []) (step.start hub).2 :=
  Survey.inStep yields.left (fun _ => id) same

theorem inStep_of_pump (lookups : ∀ callback event, Lookup (run callback event))
    (inStep : InStep hub.registry.roster (fun _ => []) hub)
    (answered : ((pump run).start hub).1.isOk = true)
    (same : SameTracked hub ((pump run).start hub).2) :
    InStep hub.registry.roster (fun _ => []) ((pump run).start hub).2 := by
  have calm := Calm.ofInStep inStep
  obtain ⟨_, calmLeft⟩ := (calm.yields_pump lookups rfl).of_isOk answered
  exact calmLeft.inStep same

theorem inStep (lookups : ∀ callback event, Lookup (run callback event))
    (reached : Reached run hub) :
    InStep hub.registry.roster (fun _ => []) hub := by
  -- By induction on how the state was reached.
  have attached : ∀ {roster : List (Fin n)}
    {left : Hub n (ServiceBackend σ) ServiceObject κ ω},
      InStep roster (fun _ => []) left →
          InStep left.registry.roster (fun _ => []) left := by
    intro roster left inStep
    rwa [inStep.attached]
  induction reached with
  | loaded answered left apart owning bare quiet =>
      obtain ⟨_, roster, loaded⟩ := yields_reload_loaded.of_isOk answered
      rw [← roster, left] at loaded
      exact .ofLoaded loaded apart owning bare quiet
  | handled _ i signal owning induction =>
      exact attached (induction.absorb i signal owning)
  | served _ i step induction => exact attached (induction.serve i step)
  | lookedUp _ lookup same induction =>
      exact attached (inStep_of_step induction lookup same)
  | queried _ text parent same induction =>
      cases empty : (Predicate.parseOrInvalid text).isEmpty with
      | false =>
          exact attached (inStep_of_step induction (.select empty parent) same)
      | true =>
          rw [query, select_of_isEmpty empty] at same ⊢
          exact attached (inStep_of_survey (yields_everyDevice induction) same)
  | surveyed _ same induction =>
      exact attached (inStep_of_survey (yields_everyDevice induction) same)
  | reloaded _ same induction =>
      exact attached (inStep_of_survey (yields_reload induction) same)
  | delivered _ answered same induction =>
      exact attached (inStep_of_pump lookups induction answered same)

end Reached

theorem isAlive_of_kept {kept : Kept ServiceObject} {udi : String}
    (held : (hub.backendAt i).objects[udi]? = some kept) :
    hub.isAlive ⟨i, kept⟩ = true := by
  have keeps : ((hub.backendAt i).objects.values.any
    fun other => other.serial == kept.serial) =
      true := Named.any_values_iff.mpr ⟨udi, kept, held, by simp⟩
  exact Bool.or_eq_true_iff.mpr (.inl keeps)

/-- In every state that is reached, once no event is left to deliver, the slot
of an identifier is valid if and only if the backend that owns the identifier
tracks it, and all handles of the identifier agree. -/
theorem isValid_iff_tracked
    (lookups : ∀ callback event, Lookup (run callback event))
    (reached : Reached run hub)
    (drained : ∀ i ∈ hub.registry.roster, hub.queueAt i = []) {udi : String}
    (named : ∀ i ∈ hub.registry.roster, udi ≠ hub.prefixAt i)
    {slot : HandleSlot (ObjectRef n ServiceObject)}
    (found : hub.registry.slots[udi]? = some slot) :
    (slot.isValid hub.isAlive = true ↔
      ∃ i, hub.route? udi = some i ∧ hub.tracksAt i udi = true) ∧
    ∀ handle : Handle, handle.bound = true → handle.udi = udi →
      hub.isValid handle = slot.isValid hub.isAlive := by
  have inStep := reached.inStep lookups
  constructor
  · cases route : hub.route? udi with
    | none =>
        have unbound := inStep.unowned udi route slot found
        simp [HandleSlot.isValid, HandleSlot.living, unbound]
    | some i =>
        have member := (startsBy_of_route? route).1
        have agrees := inStep.agrees udi i route (named i member)
        rw [drained i member] at agrees
        constructor
        · intro valid
          obtain ⟨ref, living⟩ := Option.isSome_iff_exists.mp valid
          have bound := (Option.filter_eq_some_iff.mp living).1
          exact ⟨i, rfl, agrees.tracked_of_bound found bound⟩
        · intro given
          obtain ⟨j, routed, isTracked⟩ := given
          obtain rfl : i = j := Option.some.inj routed
          obtain ⟨kept, held, bound⟩ := agrees.bound_of_tracked isTracked found
          have alive := isAlive_of_kept held
          simp [HandleSlot.isValid, HandleSlot.living, bound, alive]
  · intro handle isBound named
    obtain ⟨_, _⟩ := handle
    obtain rfl := isBound
    obtain rfl := named
    simp [Hub.isValid, Hub.object?, HandleTable.object?, found,
      HandleSlot.isValid]

/-- One attached service, which holds a disk. -/
def bench : Hub 1 (ServiceBackend MemoryService) ServiceObject Unit Unit where
  backends := #v[{
    settings := .ofConfig .compact
    cache :=
      { service :=
          { objects := Std.ExtTreeMap.ofList
              [("/s/d/disk",
                Std.ExtTreeMap.ofList [("s.Drive", ∅)])] } } }]
  registry := { roster := [0] }
  client := ()

/-- The disk is found, is taken out, and is put back before anyone is told. -/
def replaced : Hub 1 (ServiceBackend MemoryService) ServiceObject Unit Unit :=
  let loaded := (reload.start bench).2
  let found := ((find "/s/d/disk").start loaded).2
  let removed := ((atBackend 0 (ServiceBackend.absorb (.interfacesRemoved
    "/s/d/disk" ["s.Drive"]))).start found).2
  ((atBackend 0 (ServiceBackend.absorb (.interfacesAdded
    "/s/d/disk"
    (Std.ExtTreeMap.ofList [("s.Drive", ∅)])))).start removed).2

def notified : Hub 1 (ServiceBackend MemoryService) ServiceObject Unit Unit :=
  ((pump fun _ _ => return ()).start replaced).2

theorem reached_notified : Reached (fun _ _ => return ()) notified := by
  refine .delivered ?_ (by decide +kernel) (by decide +kernel)
  refine .handled ?_ 0 _ (by decide +kernel)
  refine .handled ?_ 0 _ (by decide +kernel)
  refine .lookedUp ?_ (.find _) (by decide +kernel)
  exact .loaded (by decide +kernel) rfl (by decide +kernel) (by decide +kernel)
    (by decide +kernel) (by decide +kernel)

theorem isValid_iff_tracked_notified :
    ∃ slot, notified.registry.slots["/s/d/disk"]? = some slot ∧
      slot.isValid notified.isAlive = true := by
  have present : notified.registry.slots["/s/d/disk"]?.isSome =
      true := by decide +kernel
  obtain ⟨slot, found⟩ := Option.isSome_iff_exists.mp present
  have valid := isValid_iff_tracked (fun _ _ => .pure ()) reached_notified
    (by decide +kernel) (by decide +kernel) found
  exact ⟨slot, found, valid.1.mpr ⟨0, by decide +kernel, by decide +kernel⟩⟩

end Hub

end Hotplug
