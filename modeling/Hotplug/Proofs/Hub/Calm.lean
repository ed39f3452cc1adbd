import Hotplug.Proofs.Hub.Account
import Hotplug.Proofs.Hub.InStep

/-!
# Lookups leave a registry in step

A lookup may make objects, and it may load the cache of a backend that tracks
nothing. As long as this tracks nothing new, the registry stays in step.
-/

namespace Hotplug

namespace Hub

variable {n : Nat} {σ κ ω α : Type}
  {hub : Hub n (ServiceBackend σ) ServiceObject κ ω} {i : Fin n} {udi : String}
  {backend : ServiceBackend σ} {out : List Handle} {roster : List (Fin n)}
  {batch : Fin n → List DeviceEvent} {before : Fin n → String → Bool}

/-- A backend that tracked nothing before tracks something now. -/
def Stirred (roster : List (Fin n)) (before : Fin n → String → Bool)
    (hub : Hub n (ServiceBackend σ) ServiceObject κ ω) : Prop :=
  ∃ i ∈ roster, (∀ udi, before i udi = false) ∧ ∃ udi, hub.tracksAt i udi = true

/-- Once a cache is loaded it is not loaded again by itself. -/
theorem Stirred.ofMild (stirred : Stirred roster before hub)
    (mild : ServiceBackend.Mild (hub.backendAt i) backend) :
    Stirred roster before (hub.withBackend i backend) := by
  obtain ⟨j, member, none, udi, tracked⟩ := stirred
  refine ⟨j, member, none, udi, ?_⟩
  rw [tracksAt_withBackend]
  split
  · next same =>
      subst same
      rcases mild.tracked with same | untracked
      · rw [same]
        exact tracked
      · rw [tracksAt, untracked udi] at tracked
        contradiction
  · exact tracked

variable [Service σ]

theorem tracksAt_release (handle : Handle) :
    (hub.release handle).tracksAt i = hub.tracksAt i := by
  unfold Hub.release
  split <;> rfl

theorem Account.ofGentle
    {property : Hub n (ServiceBackend σ) ServiceObject κ ω → Prop}
    (finding : ∀ udi, (find udi).Keeps property)
    (releasing : ∀ {hub} handle, property hub → property (hub.release handle))
    (asking : ∀ {α : Type} {step : Run (ServiceBackend σ) α},
      ServiceBackend.Gentle step → ∀ i, (atBackend i step).Keeps property) :
    Account fun _ => property where
  shuffled _ holds := holds
  finding udi holds := finding udi _ holds
  releasing handle holds := releasing handle holds
  listing _ i parent capability :=
    asking (ServiceBackend.gentle_list parent (some capability)) i
  answering _ ref :=
    ⟨asking (ServiceBackend.gentle_deviceCapabilities ref.kept.object)
      ref.backend, fun capability name => asking
        (ServiceBackend.gentle_deviceProperty ref.kept.object
          capability name .fetched)
        ref.backend⟩
  naming _ ref := asking (ServiceBackend.gentle_deviceParent ref.kept.object)
    ref.backend

/-- The registry is in step and tracks what it tracked before, unless a cache
was loaded. -/
def Calm (roster : List (Fin n)) (before : Fin n → String → Bool)
    (batch : Fin n → List DeviceEvent)
    (hub : Hub n (ServiceBackend σ) ServiceObject κ ω) :
    Prop :=
  (InStep roster batch hub ∧ ∀ i ∈ roster, hub.tracksAt i = before i) ∨
    Stirred roster before hub

/-- What was made for an identifier is what its backend keeps for it, and
something was made if it is tracked. -/
structure Answered (udi : String) (object : Option (ObjectRef n ServiceObject))
    (hub : Hub n (ServiceBackend σ) ServiceObject κ ω) : Prop where
  unowned : hub.route? udi = none → object = none
  owned : ∀ i, hub.route? udi = some i → ∃ found : Option (Kept ServiceObject),
    object = found.map (fun kept => ⟨i, kept⟩) ∧
      (∀ kept, found = some kept → (hub.backendAt i).objects[udi]? =
        some kept) ∧
      (hub.tracksAt i udi = true → ∃ kept, found = some kept)

theorem Answered.kept {ref : ObjectRef n ServiceObject}
    (answered : Answered udi (some ref) hub) :
    hub.route? udi = some ref.backend ∧
      (hub.backendAt ref.backend).objects[udi]? = some ref.kept := by
  cases route : hub.route? udi with
  | none =>
      have none := answered.unowned route
      contradiction
  | some i =>
      obtain ⟨found, made, held, _⟩ := answered.owned i route
      obtain ⟨kept, isFound, rfl⟩ := Option.map_eq_some_iff.mp made.symm
      exact ⟨rfl, held kept isFound⟩

/-- Only the backend of an identifier takes part in making an object for it. -/
theorem yields_makeObject_of_mild
    {property : Hub n (ServiceBackend σ) ServiceObject κ ω → Prop}
    (udi : String)
    (mild : ∀ i backend, hub.route? udi = some i →
      ServiceBackend.Mild (hub.backendAt i) backend →
      property (hub.withBackend i backend))
    (holds : property hub) :
    (makeObject udi).Yields hub
      (fun object left => property left ∧ Answered udi object left ∧
        left.registry.slots = hub.registry.slots)
      property := by
  rw [yields_makeObject]
  cases route : hub.route? udi with
  | none =>
      refine ⟨holds, ⟨fun _ => rfl, ?_⟩, rfl⟩
      intro i routed
      rw [route] at routed
      contradiction
  | some i =>
      dsimp only
      rw [yields_atBackend]
      refine (ServiceBackend.yields_objectOf udi (hub.backendAt i)).mono ?_
        fun _ => mild i _ route
      intro found backend outcome
      obtain ⟨isMild, held, complete⟩ := outcome
      have routed : (hub.withBackend i backend).route? udi = some i := by
        rw [route?_withSettings isMild.settings, route]
      refine ⟨mild i backend route isMild, ⟨?_, ?_⟩, rfl⟩
      · intro unowned
        rw [routed] at unowned
        contradiction
      · intro j routedToo
        obtain rfl : i = j := Option.some.inj (routed.symm.trans routedToo)
        refine ⟨found, rfl, ?_, ?_⟩
        · intro kept isFound
          rw [backendAt_withBackend, if_pos rfl]
          exact held kept isFound
        · intro tracked
          rw [tracksAt_withBackend, if_pos rfl] at tracked
          exact complete tracked

namespace Calm

theorem ofInStep (inStep : InStep roster batch hub) :
    Calm roster (fun i => hub.tracksAt i) batch hub :=
  .inl ⟨inStep, fun _ _ => rfl⟩

theorem inStep (calm : Calm roster before batch hub)
    (same : ∀ i ∈ roster, hub.tracksAt i = before i) :
    InStep roster batch hub := by
  rcases calm with ⟨inStep, _⟩ | ⟨i, member, none, udi, tracked⟩
  · exact inStep
  · rw [same i member, none udi] at tracked
    contradiction

theorem map {later : Fin n → List DeviceEvent}
    {left : Hub n (ServiceBackend σ) ServiceObject κ ω}
    (calm : Calm roster before batch hub)
    (tracks : ∀ i, left.tracksAt i = hub.tracksAt i)
    (step : InStep roster batch hub → InStep roster later left) :
    Calm roster before later left := by
  rcases calm with ⟨inStep, same⟩ | ⟨i, member, none, stirred⟩
  · refine .inl ⟨step inStep, ?_⟩
    intro i member
    rw [tracks]
    exact same i member
  · refine .inr ⟨i, member, none, ?_⟩
    rw [tracks]
    exact stirred

theorem congr {left : Hub n (ServiceBackend σ) ServiceObject κ ω}
    (calm : Calm roster before batch hub)
    (sameRoster : left.registry.roster = hub.registry.roster)
    (sameSlots : left.registry.slots = hub.registry.slots)
    (sameBackends : left.backends = hub.backends) :
    Calm roster before batch left := by
  refine calm.map ?_ fun inStep => inStep.congr sameRoster
    sameSlots sameBackends
  intro i
  funext udi
  rw [tracksAt, backendAt, sameBackends]
  rfl

/-- What an attached backend tracked nothing of before, it may have loaded. -/
theorem ofMild (calm : Calm roster before batch hub)
    (mild : ServiceBackend.Mild (hub.backendAt i) backend) :
    Calm roster before batch (hub.withBackend i backend) := by
  rcases calm with ⟨inStep, same⟩ | stirred
  · by_cases member : i ∈ roster
    · by_cases unchanged : backend.tracks = (hub.backendAt i).tracks
      · refine .inl ⟨inStep.ofMild mild unchanged, ?_⟩
        intro j memberToo
        rw [tracksAt_withBackend_of_same unchanged]
        exact same j memberToo
      · have none := mild.tracked.resolve_left unchanged
        refine .inr ⟨i, member, ?_, ?_⟩
        · rw [← same i member]
          exact none
        · rw [tracksAt_withBackend, if_pos rfl]
          by_cases tracked : ∃ udi, backend.tracks udi = true
          · exact tracked
          · apply (unchanged _).elim
            funext udi
            rw [none udi]
            exact Bool.eq_false_iff.mpr
              fun isTracked => tracked ⟨udi, isTracked⟩
    · refine .inl ⟨inStep.ofUnattached member mild.settings, ?_⟩
      intro j memberToo
      have different : i ≠ j := by
        intro same
        obtain rfl := same
        exact member memberToo
      rw [tracksAt_withBackend, if_neg different]
      exact same j memberToo
  · exact .inr (stirred.ofMild mild)

theorem keeps_atBackend {step : Run (ServiceBackend σ) α}
    (gentle : ServiceBackend.Gentle step) (i : Fin n) :
    (atBackend i step).Keeps
      (Calm roster before batch : Hub n (ServiceBackend σ) ServiceObject κ ω →
        Prop) := by
  intro hub calm
  rw [yields_atBackend]
  exact (gentle (hub.backendAt i)).mono (fun _ _ => calm.ofMild)
    fun _ => calm.ofMild

theorem yields_makeObject (calm : Calm roster before batch hub) (udi : String) :
    (makeObject udi).Yields hub
      (fun object left => Calm roster before batch left ∧
        Answered udi object left ∧ left.registry.slots = hub.registry.slots)
      (Calm roster before batch) :=
  yields_makeObject_of_mild udi (fun _ _ _ => calm.ofMild) calm

theorem yields_find (calm : Calm roster before batch hub) (udi : String) :
    (find udi).Yields hub (fun _ => Calm roster before batch)
      (Calm roster before batch) := by
  by_cases empty : udi = ""
  · subst empty
    exact yields_find_null.mpr calm
  · cases found : hub.registry.slots[udi]? with
    | some slot =>
        rw [yields_find_of_slot empty found]
        exact calm.map (fun _ => rfl) fun inStep => inStep.ofSlotsKeeping
          fun _ _ => HandleTable.exists_of_counted found
    | none =>
        rw [yields_find_of_no_slot empty found]
        refine (calm.yields_makeObject udi).mono ?_ fun _ failed => failed
        intro object left outcome
        obtain ⟨calmLeft, answered, slots⟩ := outcome
        refine calmLeft.map (fun _ => rfl)
          fun inStep => inStep.ofAcquired ?_ answered.unowned ?_
        · rw [slots]
          exact found
        · intro i route named
          obtain ⟨kept, rfl, held, complete⟩ := answered.owned i route
          exact (inStep.agrees udi i route named).ofFound held complete

theorem account : Account fun _ =>
    (Calm roster before batch : Hub n (ServiceBackend σ) ServiceObject κ ω →
      Prop) := by
  apply Account.ofGentle
  · exact fun udi _ calm => calm.yields_find udi
  · intro hub handle calm
    exact calm.map (fun _ => tracksAt_release handle)
      fun inStep => inStep.release handle
  · exact keeps_atBackend

end Calm

/-- Steps that look up, clone and give up handles, and that see to other things
than backends and slots in between. -/
inductive Lookup :
    {α : Type} → Run (Hub n (ServiceBackend σ) ServiceObject κ ω) α → Prop
  | pure {α : Type} (answer : α) : Lookup (pure answer)
  | crash {α : Type} (message : String) :
      Lookup (Run.crash message :
        Run (Hub n (ServiceBackend σ) ServiceObject κ ω) α)
  | bind {α β : Type} {step :
    Run (Hub n (ServiceBackend σ) ServiceObject κ ω) α}
      {next : α → Run (Hub n (ServiceBackend σ) ServiceObject κ ω) β}
        (first : Lookup step)
      (later : ∀ answer, Lookup (next answer)) : Lookup (step >>= next)
  | get : Lookup get
  | aside {change : Hub n (ServiceBackend σ) ServiceObject κ ω →
        Hub n (ServiceBackend σ) ServiceObject κ ω}
      (roster : ∀ hub, (change hub).registry.roster = hub.registry.roster)
      (slots : ∀ hub, (change hub).registry.slots = hub.registry.slots)
      (backends : ∀ hub, (change hub).backends = hub.backends) :
        Lookup (modify change)
  | find (udi : String) : Lookup (find udi)
  | clone (handle : Handle) : Lookup (modify (clone handle))
  | release (handle : Handle) : Lookup (modify (release handle))
  | select {predicate : Predicate} (filled : predicate.isEmpty = false)
      (parent : Option String) : Lookup (select predicate parent)
  | devicesWith (capability : Capability) (parent : Option String) :
      Lookup (devicesWith capability parent)
  | storageFromPath (pathExists : String → Bool) (path : String) :
      Lookup (storageFromPath pathExists path)
  | parent (handle : Handle) : Lookup (parent handle)

theorem Lookup.keeps {step : Run (Hub n (ServiceBackend σ) ServiceObject κ ω) α}
    (lookup : Lookup step) : step.Keeps (Calm roster before batch) := by
  induction lookup with
  | pure answer => exact fun _ calm => calm
  | crash message => exact fun _ calm => calm
  | bind _ _ first later =>
      intro hub calm
      rw [Run.yields_bind]
      refine (first hub calm).mono ?_ fun _ failed => failed
      intro answer left calmLeft
      exact later answer left calmLeft
  | get => exact fun _ calm => calm
  | aside roster slots backends =>
      intro hub calm
      exact calm.congr (roster hub) (slots hub) (backends hub)
  | find udi => exact fun _ calm => calm.yields_find udi
  | clone handle =>
      intro hub calm
      refine calm.map ?_ fun inStep => inStep.clone handle
      intro i
      unfold Hub.clone
      split <;> rfl
  | release handle =>
      intro hub calm
      exact @Account.releasing _ _ _ _ _ _ _ Calm.account [] hub handle calm
  | select filled parent =>
      intro hub calm
      exact @Account.yields_select_of_filled _ _ _ _ _ _ _ [] hub Calm.account
        _ filled parent calm
  | devicesWith capability parent =>
      intro hub calm
      exact @Account.yields_devicesWith _ _ _ _ _ _ _ [] hub Calm.account
        capability parent calm
  | storageFromPath pathExists path =>
      intro hub calm
      exact @Account.yields_storageFromPath _ _ _ _ _ _ _ [] hub Calm.account
        pathExists path calm
  | parent handle =>
      intro hub calm
      exact @Account.yields_parent _ _ _ _ _ _ _ [] hub Calm.account handle calm

end Hub

end Hotplug
