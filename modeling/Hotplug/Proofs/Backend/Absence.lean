import Hotplug.Cache.RemovableMedia
import Hotplug.Proofs.Backend.Service
import Hotplug.Service.Memory

/-!
# Devices that are gone stay unknown

After an event has said that a device was removed, its backend has no object for
it and lists it no more, until a later event says that it was added. Lookups
load an empty cache on their own, and tell no one of what they find: so this
holds as long as a cache that is found empty would not load the device again.
-/

namespace Hotplug

namespace DeviceEvent

variable {udi : String} {tracked : String → Bool} {events : List DeviceEvent}

/-- The identifier is removed by one of the events, and not added by a later
one. -/
def Loses (udi : String) (events : List DeviceEvent) : Prop :=
  ∃ earlier later, events = earlier ++ .removed udi :: later ∧
    .added udi ∉ later

theorem Loses.replay_eq_false (loses : Loses udi events) :
    replay tracked events udi = false := by
  obtain ⟨earlier, later, rfl, quiet⟩ := loses
  rw [replay_append, replay_cons]
  exact replay_of_not_added (by simp [applyTo]) quiet

theorem Loses.mem (loses : Loses udi events) : .removed udi ∈ events := by
  obtain ⟨earlier, later, rfl, _⟩ := loses
  simp

end DeviceEvent

namespace ServiceBackend

variable {σ : Type} {backend left : ServiceBackend σ} {udi : String}

/-- What happens to a backend: its service changes and the signal is handled at
once, or something is looked up. -/
inductive Turn (σ : Type) where
  | handle (change : σ → Signal × σ)
  | objectOf (udi : String)
  | contains (udi : String)
  | list (parent : Option String) (capability : Option Capability)

/-- The identifier is not tracked, and there is no object for it unless it is
that of the service itself. -/
structure Gone (udi : String) (backend : ServiceBackend σ) : Prop where
  untracked : backend.tracks udi = false
  objectless : udi ≠ backend.identifierPrefix → backend.objects[udi]? = none

theorem Gone.ofMild (gone : Gone udi backend) (mild : Mild backend left)
    (untracked : left.tracks udi = false) : Gone udi left where
  untracked := untracked
  objectless named := by
    rw [identifierPrefix_eq mild.settings] at named
    cases held : left.objects[udi]? with
    | none => rfl
    | some kept =>
        rcases mild.made udi kept held with before | isPrefix | tracked
        · rw [gone.objectless named] at before
          contradiction
        · exact (named isPrefix).elim
        · rw [untracked] at tracked
          contradiction

variable [Service σ]

namespace Turn

def perform : Turn σ → Run (ServiceBackend σ) Unit
  | handle change => do
      let (signal, service) := change (← get).cache.service
      modify fun backend => { backend with
        cache := { backend.cache with service := service } }
      let _ ← absorb signal
  | objectOf udi => do let _ ← ServiceBackend.objectOf udi
  | contains udi =>
      do let _ ← onCache fun settings => Cache.contains settings udi
  | list parent capability => do let _ ← ServiceBackend.list parent capability

/-- The backend after a turn, where what a crashed step has done stays done. -/
def after (turn : Turn σ) (backend : ServiceBackend σ) : ServiceBackend σ :=
  (turn.perform.start backend).2

/-- The events that a turn queues. -/
def told (turn : Turn σ) (backend : ServiceBackend σ) : List DeviceEvent :=
  (turn.after backend).queue.drop backend.queue.length

end Turn

def afterAll (turns : List (Turn σ)) (backend : ServiceBackend σ) :
    ServiceBackend σ :=
  turns.foldl (fun left turn => turn.after left) backend

/-- If the cache is empty, loading it does not track the identifier. -/
def Spares (udi : String) (backend : ServiceBackend σ) : Prop :=
  backend.cache.devices.isEmpty = true →
    ((Cache.reload backend.settings).start backend.cache).2.tracks udi = false

/-- No event says that the identifier was added, and no lookup loads it. -/
def QuietTurn (udi : String) (backend : ServiceBackend σ) : Turn σ → Prop
  | .handle change => .added udi ∉ (Turn.handle change).told backend
  | .objectOf _ | .contains _ | .list _ _ => backend.Spares udi

def Quiet (udi : String) : List (Turn σ) → ServiceBackend σ → Prop
  | [], _ => True
  | turn :: turns, backend =>
      QuietTurn udi backend turn ∧ Quiet udi turns (turn.after backend)

instance : Decidable (Spares udi backend) := inferInstanceAs (Decidable (_ → _))

instance : (turn : Turn σ) → Decidable (QuietTurn udi backend turn)
  | .handle _ => inferInstanceAs (Decidable (_ ∉ _))
  | .objectOf _ | .contains _ | .list _ _ =>
      inferInstanceAs (Decidable (Spares udi backend))

instance decidableQuiet (turns : List (Turn σ)) (backend : ServiceBackend σ) :
    Decidable (Quiet udi turns backend) :=
  match turns with
  | [] => inferInstanceAs (Decidable True)
  | turn :: turns =>
      have := decidableQuiet turns (turn.after backend)
      inferInstanceAs (Decidable (_ ∧ _))

section Signals

/-- Another state of the service makes no difference to what is queued, tracked
or kept. -/
theorem handled (change : σ → Signal × σ) (backend : ServiceBackend σ) :
    Absorbed backend ((Turn.handle change).after backend)
      ((Turn.handle change).told backend) ∨
      Mild backend ((Turn.handle change).after backend) ∧
        ((Turn.handle change).after backend).tracks = backend.tracks ∧
        (Turn.handle change).told backend = [] := by
  have yields : (Turn.handle change).perform.Yields backend
      (fun _ left => ∃ events, Absorbed backend left events)
      (fun left => Mild backend left ∧ left.tracks = backend.tracks) := by
    simp only [Turn.perform, Run.yields_bind, Run.yields_get, Run.yields_modify,
      Run.yields_pure]
    have served : Mild backend { backend with
        cache := { backend.cache with
            service := (change backend.cache.service).2 } } :=
      .ofCache (.inl rfl)
    refine (yields_absorb _ _).mono ?_ ?_
    · intro _ left outcome
      obtain ⟨events, absorbed⟩ := outcome
      exact ⟨events, served.toSucceeds.trans absorbed.toSucceeds,
        absorbed.queue,
        ⟨absorbed.told.replayed, absorbed.told.concerned⟩,
          absorbed.kept, absorbed.held⟩
    · intro left outcome
      obtain ⟨mild, same⟩ := outcome
      exact ⟨served.trans mild, same⟩
  have either : (Turn.handle change).perform.Yields backend
      (fun _ left => (∃ events, Absorbed backend left events) ∨
        Mild backend left ∧ left.tracks = backend.tracks)
      (fun left => (∃ events, Absorbed backend left events) ∨
        Mild backend left ∧ left.tracks = backend.tracks) :=
    yields.mono (fun _ _ => Or.inl) fun _ => Or.inr
  have outcome : (∃ events,
    Absorbed backend ((Turn.handle change).after backend) events) ∨
      Mild backend ((Turn.handle change).after backend) ∧
        ((Turn.handle change).after backend).tracks =
          backend.tracks := either.left
  rw [Turn.told]
  rcases outcome with ⟨events, absorbed⟩ | ⟨mild, same⟩
  · left
    rw [absorbed.queue, List.drop_left]
    exact absorbed
  · right
    rw [mild.queue, List.drop_length]
    exact ⟨mild, same, rfl⟩

theorem Gone.ofLoses {change : σ → Signal × σ}
    (loses : DeviceEvent.Loses udi ((Turn.handle change).told backend)) :
    Gone udi ((Turn.handle change).after backend) := by
  rcases handled change backend with absorbed | ⟨_, _, nothing⟩
  · have untracked : ((Turn.handle change).after backend).tracks udi = false :=
      (congrFun absorbed.told.replayed udi).trans loses.replay_eq_false
    refine ⟨untracked, fun _ => ?_⟩
    cases held : ((Turn.handle change).after backend).objects[udi]? with
    | none => rfl
    | some kept =>
        rcases (absorbed.held udi kept held).2 with tracked | stays
        · rw [untracked] at tracked
          contradiction
        · exact (stays loses.mem).elim
  · have told := loses.mem
    rw [nothing] at told
    cases told

/-- A device that is gone comes back with no other event than that it was
added. -/
theorem Gone.handle {change : σ → Signal × σ} (gone : Gone udi backend)
    (quiet : .added udi ∉ (Turn.handle change).told backend) :
    Gone udi ((Turn.handle change).after backend) := by
  rcases handled change backend with absorbed | ⟨mild, same, _⟩
  · refine ⟨?_, ?_⟩
    · exact (congrFun absorbed.told.replayed udi).trans
        (DeviceEvent.replay_of_not_added gone.untracked quiet)
    · intro named
      rw [identifierPrefix_eq absorbed.settings] at named
      cases held : ((Turn.handle change).after backend).objects[udi]? with
      | none => rfl
      | some kept =>
          have before := (absorbed.held udi kept held).1
          rw [gone.objectless named] at before
          contradiction
  · exact gone.ofMild mild ((congrFun same udi).trans gone.untracked)

end Signals

section Lookups

/-- What an empty cache loads is what a reload finds. -/
theorem Gone.yields_loadIfEmpty (gone : Gone udi backend)
    (spares : backend.Spares udi) :
    (Cache.loadIfEmpty backend.settings).Yields backend.cache
      (fun _ cache => Gone udi { backend with cache := cache })
      (fun cache => Gone udi { backend with cache := cache } ∧
        backend.cache.devices.isEmpty = true) := by
  have gentle : (Cache.loadIfEmpty backend.settings).Yields backend.cache
      (fun _ cache => cache.tracks = backend.cache.tracks ∨
        backend.cache.devices.isEmpty = true)
      (fun cache => cache.tracks = backend.cache.tracks ∨
        backend.cache.devices.isEmpty = true) :=
          Cache.gentle_loadIfEmpty backend.cache
  have untracked : (Cache.loadIfEmpty backend.settings).Yields backend.cache
      (fun _ cache => cache.tracks udi = false)
      (fun cache => cache.tracks udi = false ∧
          backend.cache.devices.isEmpty = true) := by
    rw [Cache.loadIfEmpty, Run.yields_bind, Run.yields_get]
    split
    · next empty =>
        have spared := spares empty
        rw [Run.yields_bind]
        refine (Run.yields_start _ _).mono ?_ ?_
        · intro ids cache started
          rwa [started] at spared
        · intro cache started
          obtain ⟨reason, started⟩ := started
          rw [started] at spared
          exact ⟨spared, empty⟩
    · exact gone.untracked
  refine (gentle.and untracked).mono ?_ ?_
  · intro _ cache outcome
    exact gone.ofMild (.ofCache outcome.1) outcome.2
  · intro cache outcome
    exact ⟨gone.ofMild (.ofCache outcome.1) outcome.2.1, outcome.2.2⟩

theorem Gone.yields_contains (gone : Gone udi backend)
    (spares : backend.Spares udi) (other : String) :
    (onCache fun settings => Cache.contains settings other).Yields backend
      (fun answer left => Gone udi left ∧ answer = left.tracks other ∧
        left.objects = backend.objects ∧ left.settings = backend.settings)
      (fun left => Gone udi left ∧ backend.cache.devices.isEmpty = true) := by
  rw [yields_onCache, Cache.contains, Run.yields_bind]
  refine (gone.yields_loadIfEmpty spares).mono ?_ fun _ => id
  intro _ cache still
  exact ⟨still, rfl, rfl, rfl⟩

theorem Gone.yields_objectOf (gone : Gone udi backend)
    (spares : backend.Spares udi) (other : String) :
    (objectOf other).Yields backend
      (fun found left => Gone udi left ∧
        (other = udi → udi ≠ backend.identifierPrefix → found = none))
      (fun left => Gone udi left ∧ backend.cache.devices.isEmpty = true) := by
  rw [objectOf, Run.yields_bind, Run.yields_get]
  cases held : backend.objects[other]? with
  | some kept =>
      refine ⟨gone, ?_⟩
      intro same named
      rw [same, gone.objectless named] at held
      contradiction
  | none =>
      dsimp only
      split
      · next isPrefix =>
          rw [Run.yields_bind, Run.yields_modifyGet]
          have mild := Mild.ofKeep held (.inl isPrefix) (if_pos isPrefix).symm
          refine ⟨gone.ofMild mild gone.untracked, ?_⟩
          intro same named
          exact (named (same ▸ isPrefix)).elim
      · next notPrefix =>
        rw [Run.yields_bind]
        refine (gone.yields_contains spares other).mono ?_ fun _ => id
        intro answer left outcome
        obtain ⟨still, rfl, objects, settings⟩ := outcome
        split
        · next tracked =>
            rw [Run.yields_bind, Run.yields_modifyGet]
            rw [← objects] at held
            have formed : ServiceObject.tracked other = left.formOf other :=
              (if_neg notPrefix).symm.trans
                (congrFun (formOf_eq settings) other).symm
            refine ⟨still.ofMild (.ofKeep held (.inr tracked) formed)
              still.untracked, ?_⟩
            intro same
            rw [same, still.untracked] at tracked
            contradiction
        · exact ⟨still, fun _ _ => rfl⟩

theorem Gone.yields_list (gone : Gone udi backend) (spares : backend.Spares udi)
    (parent : Option String) (capability : Option Capability) :
    (list parent capability).Yields backend
      (fun ids left => Gone udi left ∧ udi ∉ ids) (Gone udi) := by
  rw [list, Run.yields_bind, yields_onCache,
    Cache.identifiers, Run.yields_bind]
  refine (gone.yields_loadIfEmpty spares).mono ?_ fun _ => And.left
  intro _ cache still
  rw [Run.yields_bind, Run.yields_get, Run.yields_pure]
  have unlisted : udi ∉ cache.devices.keys := by
    intro member
    have tracked : cache.tracks udi = true := by
      simpa [Cache.tracks] using member
    have untracked : cache.tracks udi = false := still.untracked
    rw [untracked] at tracked
    contradiction
  by_cases nothing : ∀ other, cache.tracks other = false
  · have noKeys : cache.devices.keys = [] := by
      rw [List.eq_nil_iff_forall_not_mem]
      intro other member
      have tracked : cache.tracks other = true := by
        simpa [Cache.tracks] using member
      rw [nothing other] at tracked
      contradiction
    rw [noKeys]
    exact ⟨still, List.not_mem_nil⟩
  · have kept : ∀ left : ServiceBackend σ,
      Mild { backend with cache := cache } left → Gone udi left := by
      intro left mild
      refine still.ofMild mild ?_
      rw [mild.tracked.resolve_right nothing]
      exact still.untracked
    have gentle : Gentle (cache.devices.keys.filterM fun other =>
        (do
          if ← reports other capability then isUnder other parent
          else return false : Run (ServiceBackend σ) Bool)) :=
      Gentle.filterM (gentle_isListed parent capability)
    refine ((gentle { backend with cache := cache }).and
      Run.yields_filterM_subset).mono ?_ fun left outcome => kept left outcome.1
    intro ids left outcome
    obtain ⟨mild, members⟩ := outcome
    exact ⟨kept left mild, fun member => unlisted (members udi member)⟩

end Lookups

/-- A turn without news of the identifier. -/
theorem Gone.after (gone : Gone udi backend) {turn : Turn σ}
    (quiet : QuietTurn udi backend turn) :
    Gone udi (turn.after backend) := by
  have discard {α : Type} {step : Run (ServiceBackend σ) α}
    {after : α → ServiceBackend σ → Prop}
      {failed : ServiceBackend σ → Prop}
        (yields : step.Yields backend after failed)
      (answered : ∀ answer left, after answer left → Gone udi left)
      (crashed : ∀ left, failed left → Gone udi left) :
      Gone udi ((do let _ ← step : Run (ServiceBackend σ) Unit).start
          backend).2 := by
    apply Run.Yields.left
    rw [Run.yields_bind]
    exact yields.mono answered crashed
  cases turn with
  | handle change => exact gone.handle quiet
  | objectOf other =>
      exact discard (gone.yields_objectOf quiet other) (fun _ _ => And.left)
        fun _ => And.left
  | contains other =>
      exact discard (gone.yields_contains quiet other) (fun _ _ => And.left)
        fun _ => And.left
  | list parent capability =>
      exact discard (gone.yields_list quiet parent capability)
        (fun _ _ => And.left) fun _ => id

theorem Gone.afterAll (gone : Gone udi backend) {turns : List (Turn σ)}
    (quiet : Quiet udi turns backend) : Gone udi (afterAll turns backend) := by
  induction turns generalizing backend with
  | nil => exact gone
  | cons turn turns induction => exact induction (gone.after quiet.1) quiet.2

/-- The backend has no object for the identifier, does not contain it, and never
lists it. Only to load an empty cache may it have to ask a service that
crashes. -/
structure Unknown (udi : String) (backend : ServiceBackend σ) : Prop where
  objectless : udi ≠ backend.identifierPrefix →
    (objectOf udi).Yields backend (fun found _ => found = none)
      (fun _ => backend.cache.devices.isEmpty = true)
  missing : (onCache fun settings => Cache.contains settings udi).Yields backend
    (fun answer _ => answer = false)
      (fun _ => backend.cache.devices.isEmpty = true)
  unlisted : ∀ parent capability,
    (list parent capability).Yields backend (fun ids _ => udi ∉ ids)
      (fun _ => True)

/-- A device whose last event was that it was removed has no object, is not
contained and is never listed after any run of signals and lookups, as long as
no event says that it was added and no lookup finds a cache empty that would
load it. -/
theorem unknown_of_loses {change : σ → Signal × σ}
    (loses : DeviceEvent.Loses udi ((Turn.handle change).told backend))
    {turns : List (Turn σ)}
    (quiet : Quiet udi turns ((Turn.handle change).after backend))
    (spares : (afterAll (.handle change :: turns) backend).Spares udi) :
    (afterAll (.handle change :: turns) backend).Unknown udi := by
  have gone : Gone udi (afterAll (.handle change :: turns) backend) :=
    (Gone.ofLoses loses).afterAll quiet
  refine ⟨?_, ?_, ?_⟩
  · intro named
    exact (gone.yields_objectOf spares udi).mono
      (fun _ _ outcome => outcome.2 rfl named) fun _ => And.right
  · refine (gone.yields_contains spares udi).mono ?_ fun _ => And.right
    intro answer left outcome
    obtain ⟨still, rfl, _⟩ := outcome
    exact still.untracked
  · intro parent capability
    exact (gone.yields_list spares parent capability).mono
      (fun _ _ => And.right) fun _ _ => trivial

section Trays

def trayUdi : String := "/s/b/sr0"

/-- An optical drive whose tray is a block device of some size, and a disk. -/
def tray (size : UInt64) : MemoryService where
  objects := Std.ExtTreeMap.ofList [
    ("/s/d/dvd", Std.ExtTreeMap.ofList [
      ("s.Drive", Std.ExtTreeMap.ofList [
        ("MediaCompatibility", Value.texts ["optical_cd"])])]),
    (trayUdi, Std.ExtTreeMap.ofList [
      ("s.Block", Std.ExtTreeMap.ofList [
        ("Drive", Value.text "/s/d/dvd"), ("Size", Value.uint size)])])]

/-- The tray is filled or emptied. -/
def resize (size : UInt64) : Turn MemoryService :=
  .handle fun service =>
    service.change ⟨trayUdi, "s.Block", "Size"⟩ (.uint size)

def trayBackend (size : UInt64) : ServiceBackend MemoryService where
  settings := .ofConfig .compact
  cache := { service := tray size }

/-- The tray is looked for in every way. -/
def lookTurns : List (Turn MemoryService) :=
  [.objectOf trayUdi, .list none (some .block), .contains trayUdi]

theorem unknown_emptied_tray :
    ((Turn.list none none).after (trayBackend 700000000)).cache.tracks trayUdi =
      true ∧ DeviceEvent.Loses trayUdi
        ((resize 0).told ((Turn.list none none).after
          (trayBackend 700000000))) ∧
      (afterAll (resize 0 :: lookTurns)
        ((Turn.list none none).after (trayBackend 700000000))).Unknown
          trayUdi := by
  have loses : DeviceEvent.Loses trayUdi
      ((resize 0).told ((Turn.list none none).after (trayBackend 700000000))) :=
    ⟨[.changed trayUdi (Std.ExtTreeMap.ofList [("Size", Change.modified)])], [],
      by decide +kernel, List.not_mem_nil⟩
  refine ⟨by decide +kernel, loses, unknown_of_loses loses ?_ ?_⟩
  · decide +kernel
  · decide +kernel

/-- Without another device that is tracked, the next lookup loads the tray
again, and no event says that it was added. -/
theorem objectOf_emptied_tray :
    (resize 0).told ((resize 700000000).after (trayBackend 0)) =
        [.changed trayUdi (Std.ExtTreeMap.ofList [("Size", Change.modified)]),
          .removed trayUdi] ∧
      ((objectOf trayUdi).start
          (afterAll [resize 700000000, resize 0] (trayBackend 0))).1.toOption =
        some (some ⟨0, .tracked trayUdi⟩) := by
  decide +kernel

end Trays

end ServiceBackend

end Hotplug
