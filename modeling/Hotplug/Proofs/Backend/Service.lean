import Hotplug.Proofs.Backend.Effect
import Hotplug.Proofs.Backend.Numbering
import Hotplug.Proofs.Cache.Tracking

/-!
# What the steps of a service backend leave alone

Lookups only make objects, for identifiers that are tracked, and may load a
cache that is empty. Handling a signal queues the events that tell how the
tracked identifiers change, and lets go of the objects of those that are no
longer tracked.
-/

namespace Hotplug

namespace ServiceBackend

variable {σ α : Type}

/-- No object was let go of, those that were made are of tracked identifiers or
the service itself, and the tracked identifiers are the same unless there were
none. -/
structure Mild (before after : ServiceBackend σ) :
    Prop extends Succeeds before after where
  queue : after.queue = before.queue
  kept : ∀ (udi : String) kept, before.objects[udi]? = some kept →
    after.objects[udi]? = some kept
  made : ∀ (udi : String) kept, after.objects[udi]? = some kept →
    before.objects[udi]? = some kept ∨ udi = before.identifierPrefix ∨
      after.tracks udi = true
  tracked : after.tracks = before.tracks ∨ ∀ udi, before.tracks udi = false

namespace Mild

variable {first second third : ServiceBackend σ}

theorem refl (backend : ServiceBackend σ) : Mild backend backend :=
  ⟨.refl backend, rfl, fun _ _ => id, fun _ _ => .inl, .inl rfl⟩

theorem trans (one : Mild first second) (two : Mild second third) :
    Mild first third where
  toSucceeds := one.toSucceeds.trans two.toSucceeds
  queue := two.queue.trans one.queue
  kept udi kept held := two.kept udi kept (one.kept udi kept held)
  made udi kept held := by
    have samePrefix := identifierPrefix_eq one.settings
    rcases two.made udi kept held with heldSecond | isPrefix | tracked
    · rcases one.made udi kept heldSecond with heldFirst | isPrefix | tracked
      · exact .inl heldFirst
      · exact .inr (.inl isPrefix)
      · rcases two.tracked with same | none
        · exact .inr (.inr (same ▸ tracked))
        · rw [none udi] at tracked
          contradiction
    · exact .inr (.inl (isPrefix.trans samePrefix))
    · exact .inr (.inr tracked)
  tracked := by
    rcases one.tracked with sameFirst | noneFirst
    · rcases two.tracked with sameSecond | noneSecond
      · exact .inl (sameSecond.trans sameFirst)
      · exact .inr (sameFirst ▸ noneSecond)
    · exact .inr noneFirst

theorem ofCache {cache : Cache σ}
    (tracked : cache.tracks = first.cache.tracks ∨
      first.cache.devices.isEmpty = true) : Mild first { first with cache :=
  cache } where
  toSucceeds := by
    refine .ofFewer rfl rfl fun udi kept held => ⟨held, fun before => .inr ?_⟩
    rcases tracked with same | empty
    · exact (congrFun same udi).trans before
    · rw [tracks, Cache.tracks_eq_false_of_isEmpty empty] at before
      contradiction
  queue := rfl
  kept _ _ := id
  made _ _ := .inl
  tracked := tracked.imp_right Cache.tracks_eq_false_of_isEmpty

theorem ofKeep {udi : String} {object : ServiceObject}
    (absent : first.objects[udi]? = none)
    (reason : udi = first.identifierPrefix ∨ first.tracks udi = true)
    (formed : object = first.formOf udi) :
    Mild first (first.keep udi object).2 where
  toSucceeds := by
    subst formed
    exact .ofKeep first reason
  queue := rfl
  kept other kept held := by
    have apart : udi ≠ other := by
      intro same
      obtain rfl := same
      rw [absent] at held
      contradiction
    rw [getElem?_objects_keep, if_neg apart]
    exact held
  made other kept held := by
    rw [getElem?_objects_keep] at held
    split at held
    · next same =>
        subst same
        exact .inr reason
    · exact .inl held
  tracked := .inl rfl

end Mild

/-- Lookups, whether they answer or crash. -/
def mildness : Effect σ where
  leads := Mild
  crashes := Mild
  refl := Mild.refl
  trans := Mild.trans
  crashesLater := Mild.trans

/-- The step is mild, whether it answers or crashes. -/
def Gentle (step : Run (ServiceBackend σ) α) : Prop :=
  ∀ backend, step.Yields backend (fun _ => Mild backend) (Mild backend)

namespace Gentle

theorem pure (answer : α) :
    Gentle (Pure.pure answer : Run (ServiceBackend σ) α) :=
  Mild.refl

theorem bind {γ : Type} {step : Run (ServiceBackend σ) α}
    {next : α → Run (ServiceBackend σ) γ} (first : Gentle step)
    (later : ∀ answer, Gentle (next answer)) :
    Gentle (step >>= next) := by
  intro backend
  rw [Run.yields_bind]
  refine (first backend).mono ?_ fun _ failed => failed
  intro answer left mild
  exact (later answer left).mono (fun _ _ => mild.trans) fun _ => mild.trans

theorem get :
    Gentle (MonadState.get : Run (ServiceBackend σ) (ServiceBackend σ)) :=
  Mild.refl

theorem onCache {step : CacheSettings σ → Run (Cache σ) α}
    (gentle : ∀ settings, Cache.Gentle (step settings)) :
    Gentle (ServiceBackend.onCache step) := by
  intro backend
  rw [ServiceBackend.yields_onCache]
  exact (gentle backend.settings backend.cache).mono (fun _ _ => Mild.ofCache)
    fun _ => Mild.ofCache

theorem filterM {ids : List String}
    {step : String → Run (ServiceBackend σ) Bool}
    (gentle : ∀ udi, Gentle (step udi)) :
    Gentle (ids.filterM step) := by
  intro backend
  apply Run.yields_filterM (Mild backend) (Mild.refl backend)
  intro udi _ left mild
  exact (gentle udi left).mono (fun _ _ => mild.trans) fun _ => mild.trans

end Gentle

section Lookups

variable [Service σ]

theorem gentle_property (udi : String) (capability : Capability) (name : String)
    (reach : Reach) :
    Gentle (property udi capability name reach : Run (ServiceBackend σ) _) := by
  have read (key : PropertyKey) :
      mildness.Covers (onCache fun _ => Cache.read key reach :
          Run (ServiceBackend σ) _) :=
    Gentle.onCache fun _ => (Cache.sameTracked_read key reach).gentle
  exact Effect.Covers.property read udi capability name

theorem gentle_parentOf (udi : String) :
    Gentle (parentOf udi : Run (ServiceBackend σ) _) := by
  apply Gentle.get.bind
  intro backend
  dsimp only
  split
  · exact .pure _
  · exact (Gentle.onCache fun _ => (Cache.sameTracked_read _ _).gentle).bind
      fun _ => .pure _

theorem gentle_isListed (parent : Option String)
    (capability : Option Capability) (udi : String) :
    Gentle (do
      if ← reports udi capability then isUnder udi parent else return false :
      Run (ServiceBackend σ) Bool) := by
  have reported : Gentle (reports udi capability :
      Run (ServiceBackend σ) _) := by
    cases capability with
    | none => exact .pure true
    | some capability =>
        exact (Gentle.get.bind fun _ => .pure _).bind fun _ => .pure _
  have placed : Gentle (isUnder udi parent : Run (ServiceBackend σ) _) := by
    cases parent with
    | none => exact .pure true
    | some parent => exact (gentle_parentOf udi).bind fun _ => .pure _
  apply reported.bind
  intro answer
  split
  · exact placed
  · exact .pure false

theorem gentle_list (parent : Option String) (capability : Option Capability) :
    Gentle (list parent capability : Run (ServiceBackend σ) _) :=
  (Gentle.onCache fun _ => Cache.gentle_identifiers).bind fun _ =>
    Gentle.filterM (gentle_isListed parent capability)

theorem gentle_deviceCapabilities (object : ServiceObject) :
    Gentle (deviceOf object :
      Device (Run (ServiceBackend σ))).capabilities := by
  cases object with
  | root udi => exact .pure _
  | tracked udi => exact Gentle.get.bind fun _ => .pure _

theorem gentle_deviceProperty (object : ServiceObject) (capability : Capability)
    (name : String) (reach : Reach) :
    Gentle ((deviceOf object : Device (Run (ServiceBackend σ))).property
      capability name reach) := by
  cases object with
  | root udi => exact .pure _
  | tracked udi => exact gentle_property udi capability name reach

theorem gentle_deviceParent (object : ServiceObject) :
    Gentle (deviceOf object : Device (Run (ServiceBackend σ))).parent := by
  cases object with
  | root udi => exact .pure _
  | tracked udi => exact (gentle_parentOf udi).bind fun _ => .pure _

/-- An object that is made is kept, and one is made for every tracked
identifier. -/
theorem yields_objectOf (udi : String) (backend : ServiceBackend σ) :
    (objectOf udi).Yields backend
      (fun found left => Mild backend left ∧
        (∀ kept, found = some kept → left.objects[udi]? = some kept) ∧
        (left.tracks udi = true → ∃ kept, found = some kept))
      (Mild backend) := by
  rw [objectOf, Run.yields_bind, Run.yields_get]
  cases held : backend.objects[udi]? with
  | some kept =>
      refine ⟨Mild.refl backend, ?_, fun _ => ⟨kept, rfl⟩⟩
      intro other same
      cases same
      exact held
  | none =>
      dsimp only
      split
      · next isPrefix =>
          rw [Run.yields_bind, Run.yields_modifyGet]
          refine ⟨Mild.ofKeep held (.inl isPrefix) (if_pos isPrefix).symm, ?_,
            fun _ => ⟨_, rfl⟩⟩
          intro kept same
          cases same
          simp [keep]
      · next notPrefix =>
        rw [Run.yields_bind, yields_onCache]
        refine (Cache.yields_contains udi).mono ?_ fun _ => Mild.ofCache
        intro answer cache outcome
        obtain ⟨rfl, gentle⟩ := outcome
        split
        · next tracked =>
            rw [Run.yields_bind, Run.yields_modifyGet]
            refine ⟨(Mild.ofCache gentle).trans
              (Mild.ofKeep held (.inr tracked) (if_neg notPrefix).symm),
                ?_, fun _ => ⟨_, rfl⟩⟩
            intro kept same
            cases same
            simp [keep]
        · next untracked =>
            refine ⟨Mild.ofCache gentle, by simp, ?_⟩
            intro tracked
            exact (untracked tracked).elim

end Lookups

section Signals

/-- The events of a signal were queued, and objects were let go of that lost
their identifier by one of them. -/
structure Absorbed (before after : ServiceBackend σ)
    (events : List DeviceEvent) :
    Prop
    extends Succeeds before after where
  queue : after.queue = before.queue ++ events
  told : before.cache.Told after.cache events
  kept : ∀ (udi : String) kept, before.objects[udi]? = some kept →
    after.objects[udi]? = some kept ∨ .removed udi ∈ events
  held : ∀ (udi : String) kept, after.objects[udi]? = some kept →
    before.objects[udi]? = some kept ∧
      (after.tracks udi = true ∨ .removed udi ∉ events)

theorem objects_releaseRemoved {backend : ServiceBackend σ}
    {event : DeviceEvent} {udi : String} :
    (backend.releaseRemoved event).objects[udi]? =
      if event = .removed udi ∧ backend.tracks udi = false then none
      else backend.objects[udi]? := by
  cases event with
  | added other => simp [releaseRemoved]
  | removed other =>
      simp only [releaseRemoved]
      split
      · next tracked =>
          have test : ¬(DeviceEvent.removed other = .removed udi ∧
              backend.tracks udi = false) := by
            intro given
            obtain ⟨same, untracked⟩ := given
            cases same
            rw [tracks, tracked] at untracked
            contradiction
          rw [if_neg test]
      · next untracked =>
          rw [Std.ExtTreeMap.getElem?_erase]
          by_cases same : other = udi
          · subst same
            simp [tracks, untracked]
          · simp [same]
  | changed other changes => simp [releaseRemoved]

theorem foldl_releaseRemoved (events : List DeviceEvent)
    (backend : ServiceBackend σ) :
    (events.foldl releaseRemoved backend).settings = backend.settings ∧
      (events.foldl releaseRemoved backend).queue = backend.queue ∧
      (events.foldl releaseRemoved backend).cache = backend.cache ∧
      (events.foldl releaseRemoved backend).nextSerial = backend.nextSerial ∧
      ∀ udi : String, (events.foldl releaseRemoved backend).objects[udi]? =
        if .removed udi ∈ events ∧ backend.tracks udi = false then none
        else backend.objects[udi]? := by
  induction events generalizing backend with
  | nil => simp
  | cons event events induction =>
      have unchanged : (backend.releaseRemoved event).settings =
        backend.settings ∧
          (backend.releaseRemoved event).queue = backend.queue ∧
          (backend.releaseRemoved event).cache = backend.cache ∧
          (backend.releaseRemoved event).nextSerial = backend.nextSerial := by
        cases event with
        | added udi => exact ⟨rfl, rfl, rfl, rfl⟩
        | removed udi =>
            rw [releaseRemoved]
            split <;> exact ⟨rfl, rfl, rfl, rfl⟩
        | changed udi changes => exact ⟨rfl, rfl, rfl, rfl⟩
      obtain ⟨settings, queue, cache, serial⟩ := unchanged
      obtain ⟨settingsLater, queueLater, cacheLater, serialLater, objects⟩ :=
        induction (backend.releaseRemoved event)
      refine ⟨settingsLater.trans settings, queueLater.trans queue,
        cacheLater.trans cache, serialLater.trans serial, ?_⟩
      intro udi
      have sameTracks : (backend.releaseRemoved event).tracks udi =
          backend.tracks udi := by
        rw [tracks, tracks, cache]
      rw [List.foldl_cons, objects udi, objects_releaseRemoved, sameTracks]
      by_cases tracked : backend.tracks udi = true
      · simp [tracked]
      · have untracked : backend.tracks udi = false := by simpa using tracked
        by_cases here : event = .removed udi
        · simp [here, untracked]
        · have apart : ¬DeviceEvent.removed udi = event :=
            fun same => here same.symm
          simp [here, apart]

variable [Service σ]

theorem yields_absorb (signal : Signal) (backend : ServiceBackend σ) :
    (absorb signal).Yields backend (fun _ left => ∃ events,
      Absorbed backend left events)
      (fun left => Mild backend left ∧ left.tracks = backend.tracks) := by
  rw [absorb, Run.yields_bind, yields_onCache]
  refine (Cache.yields_absorb_told signal backend.cache).mono ?_ ?_
  · intro events cache told
    simp only [Run.yields_bind, Run.yields_modify, Run.yields_pure]
    refine ⟨events, ?_⟩
    obtain ⟨settings, queue, sameCache, serial, objects⟩ :=
      foldl_releaseRemoved events { backend with cache := cache }
    refine ⟨.ofFewer settings serial ?_, ?_, ?_, ?_, ?_⟩
    · intro udi kept held
      rw [objects udi] at held
      split at held
      · contradiction
      · next stays =>
          refine ⟨held, fun before => .inr ?_⟩
          rw [tracks, sameCache]
          refine Bool.of_not_eq_false fun gone => stays ⟨?_, gone⟩
          apply DeviceEvent.removed_mem_of_replay before
          exact (congrFun told.replayed udi).symm.trans gone
    · dsimp only
      rw [queue]
    · rw [sameCache]
      exact told
    · intro udi kept held
      rw [objects udi]
      split
      · next gone => exact .inr gone.1
      · exact .inl held
    · intro udi kept held
      rw [objects udi] at held
      split at held
      · contradiction
      · next stays =>
          refine ⟨held, ?_⟩
          rw [tracks, sameCache]
          by_cases tracked : cache.tracks udi = true
          · exact .inl tracked
          · right
            intro removed
            exact stays ⟨removed, by simpa [tracks] using tracked⟩
  · intro cache same
    exact ⟨Mild.ofCache (.inl same), same⟩

/-- After a reload the objects that are left are of tracked identifiers or the
service itself. -/
structure Reloaded (before after : ServiceBackend σ) :
    Prop extends Succeeds before after where
  queue : after.queue = before.queue
  kept : ∀ (udi : String) kept, before.objects[udi]? = some kept →
    after.tracks udi = true → after.objects[udi]? = some kept
  held : ∀ (udi : String) kept, after.objects[udi]? = some kept →
    before.objects[udi]? = some kept ∧
      (udi = after.identifierPrefix ∨ after.tracks udi = true)

theorem yields_reload (backend : ServiceBackend σ) :
    (Backend.reload : Run (ServiceBackend σ) _).Yields backend
      (fun ids left => Reloaded backend left ∧ ∀ udi, udi ∈ ids ↔
        left.tracks udi = true)
      (fun left => Mild backend left ∧ left.tracks = backend.tracks) := by
  simp only [Backend.reload, Run.yields_bind, onCache, Run.yields_get,
    Run.yields_zoom, Run.yields_modify, Run.yields_pure]
  refine (Cache.yields_reload_tracks backend.cache).mono ?_ ?_
  · intro ids cache tracked
    refine ⟨⟨.ofFewer rfl rfl ?_, rfl, ?_, ?_⟩, tracked⟩
    · intro udi kept held
      simp only [retainTracked, Std.ExtTreeMap.getElem?_filter',
        Option.filter_eq_some_iff, Bool.or_eq_true, beq_iff_eq] at held
      exact ⟨held.1, fun _ => held.2⟩
    · intro udi kept held isTracked
      simp only [retainTracked, Std.ExtTreeMap.getElem?_filter', held]
      exact if_pos (Bool.or_eq_true_iff.mpr (.inr isTracked))
    · intro udi kept held
      simp only [retainTracked, Std.ExtTreeMap.getElem?_filter',
        Option.filter_eq_some_iff, Bool.or_eq_true, beq_iff_eq] at held
      exact held
  · intro cache same
    exact ⟨Mild.ofCache (.inl same), same⟩

end Signals

end ServiceBackend

end Hotplug
