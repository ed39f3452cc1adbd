import Mathlib.Data.List.Infix
import Hotplug.Cache.RemovableMedia
import Hotplug.Proofs.Backend.Reading
import Hotplug.Proofs.Backend.Service
import Hotplug.Service.Memory

/-!
# Objects belong to tracked devices

The objects of a backend and the devices of its cache are kept apart, and are
changed by different steps. Still every object is that of a tracked device or of
the service itself, and a device that stays tracked keeps its object.
-/

namespace Hotplug

namespace ServiceBackend

variable {σ α : Type}

/-- What a device can be asked. -/
inductive Question where
  | parent
  | vendor
  | product
  | description
  | icon
  | capabilities
  | property (capability : Capability) (name : String) (reach : Reach)

/-- What can be done with a backend. Its service may change at any time, with a
signal or without one. -/
inductive Use (σ : Type) where
  | serve (change : σ → σ)
  | handle (signal : Signal)
  | reload
  | objectOf (udi : String)
  | list (parent : Option String) (capability : Option Capability)
  | drain
  | identifiers
  | contains (udi : String)
  | snapshot (udi : String)
  | read (reading : Reading)
  | ask (object : ServiceObject) (question : Question)

/-- A backend of which nothing was asked yet. -/
def untouched (settings : CacheSettings σ) (service : σ) :
    ServiceBackend σ where
  settings := settings
  cache := { service := service }

/-- Objects have numbers of their own, and none is let go of while its device is
tracked. -/
structure Passes (before after : ServiceBackend σ) :
    Prop extends Succeeds before after where
  retained : ∀ (udi : String) kept, before.objects[udi]? = some kept →
    after.tracks udi = true → after.objects[udi]? = some kept

theorem Mild.passes {before after : ServiceBackend σ}
    (mild : Mild before after) :
    Passes before after :=
  ⟨mild.toSucceeds, fun udi kept held _ => mild.kept udi kept held⟩

theorem Reloaded.passes {before after : ServiceBackend σ}
    (reloaded : Reloaded before after) :
    Passes before after :=
  ⟨reloaded.toSucceeds, reloaded.kept⟩

section Uses

variable [Service σ]

theorem gentle_reportedText (udi name : String) :
    Gentle (reportedText udi name : Run (ServiceBackend σ) _) :=
  (Gentle.onCache fun _ => (Cache.sameTracked_readAnywhere _ _ _).gentle).bind
    fun _ => .pure _

theorem gentle_descriptionOf (udi : String) :
    Gentle (descriptionOf udi : Run (ServiceBackend σ) _) := by
  refine (gentle_reportedText udi "IdLabel").bind fun label => ?_
  split
  · exact .pure _
  · exact (gentle_reportedText udi "Model").bind fun _ => .pure _

/-- The answer is not looked at. -/
def Question.put (device : Device (Run (ServiceBackend σ))) :
    Question → Run (ServiceBackend σ) Unit
  | parent => do let _ ← device.parent
  | vendor => do let _ ← device.vendor
  | product => do let _ ← device.product
  | description => do let _ ← device.description
  | icon => do let _ ← device.icon
  | capabilities => do let _ ← device.capabilities
  | property capability name reach =>
      do let _ ← device.property capability name reach

omit [Service σ] in
theorem Gentle.discard {step : Run (ServiceBackend σ) α}
    (gentle : Gentle step) :
    Gentle (do let _ ← step) :=
  gentle.bind fun _ => .pure _

theorem gentle_put (object : ServiceObject) (question : Question) :
    Gentle (question.put (deviceOf object) : Run (ServiceBackend σ) Unit) := by
  cases question with
  | parent => exact (gentle_deviceParent object).discard
  | capabilities => exact (gentle_deviceCapabilities object).discard
  | property capability name reach =>
      exact (gentle_deviceProperty object capability name reach).discard
  | vendor =>
      cases object with
      | root udi => exact (Gentle.pure _).discard
      | tracked udi =>
          exact ((gentle_reportedText udi _).bind fun _ => .pure _).discard
  | product =>
      cases object with
      | root udi => exact (Gentle.get.bind fun _ => .pure _).discard
      | tracked udi =>
          exact ((gentle_reportedText udi _).bind fun _ => .pure _).discard
  | description =>
      cases object with
      | root udi => exact (Gentle.get.bind fun _ => .pure _).discard
      | tracked udi => exact (gentle_descriptionOf udi).discard
  | icon =>
      cases object with
      | root udi => exact (Gentle.get.bind fun _ => .pure _).discard
      | tracked udi => exact (Gentle.get.bind fun _ => .pure _).discard

theorem gentle_reading (reading : Reading) :
    Gentle (reading.perform : Run (ServiceBackend σ) (Option Value)) := by
  have covers : mildness.Covers (reading.perform : Run (ServiceBackend σ)
      (Option Value)) :=
    .perform fun key => Gentle.onCache
      fun _ => (Cache.sameTracked_read key reading.reach).gentle
  exact covers

theorem gentle_snapshot (udi : String) :
    Gentle (onCache fun settings => Cache.snapshot? settings udi :
      Run (ServiceBackend σ) (Option Snapshot)) := by
  refine Gentle.onCache fun settings cache => ?_
  rw [Cache.snapshot?, Run.yields_bind]
  exact (Cache.gentle_loadIfEmpty cache).mono (fun _ _ => id) fun _ => id

theorem gentle_contains (udi : String) :
    Gentle (onCache fun settings => Cache.contains settings udi :
      Run (ServiceBackend σ) Bool) := by
  refine Gentle.onCache fun settings cache => ?_
  exact (Cache.yields_contains udi).mono (fun _ _ => And.right) fun _ => id

/-- An object is let go of only if no device has its identifier any more, though
the device may have been said to be removed. -/
theorem yields_absorb_passes (signal : Signal) (backend : ServiceBackend σ) :
    (absorb signal).Yields backend (fun _ => Passes backend)
      (Passes backend) := by
  have retained : (absorb signal).Yields backend
      (fun _ left => ∀ (udi : String) kept, backend.objects[udi]? = some kept →
        left.tracks udi = true → left.objects[udi]? = some kept)
            fun _ => True := by
    rw [absorb, Run.yields_bind, yields_onCache]
    refine (Run.yields_start _ _).mono ?_ fun _ _ => trivial
    intro events cache _
    simp only [Run.yields_bind, Run.yields_modify, Run.yields_pure]
    intro udi kept held tracked
    obtain ⟨_, _, sameCache, _, objects⟩ :=
      foldl_releaseRemoved events { backend with cache := cache }
    rw [tracks, sameCache] at tracked
    refine (objects udi).trans ((if_neg fun gone => ?_).trans held)
    rw [tracks, tracked] at gone
    cases gone.2
  refine ((yields_absorb signal backend).and retained).mono ?_ ?_
  · intro _ left outcome
    obtain ⟨⟨events, absorbed⟩, keeps⟩ := outcome
    exact ⟨absorbed.toSucceeds, keeps⟩
  · intro left outcome
    exact outcome.1.1.passes

namespace Use

def perform : Use σ → Run (ServiceBackend σ) Unit
  | serve change =>
      modify fun backend =>
        { backend with cache := { backend.cache with
          service := change backend.cache.service } }
  | handle signal => do let _ ← absorb signal
  | reload => do let _ ← (Backend.reload : Run (ServiceBackend σ) _)
  | objectOf udi => do let _ ← ServiceBackend.objectOf udi
  | list parent capability => do let _ ← ServiceBackend.list parent capability
  | drain => do let _ ← (Backend.drain : Run (ServiceBackend σ) _)
  | identifiers => do let _ ← onCache Cache.identifiers
  | contains udi =>
      do let _ ← onCache fun settings => Cache.contains settings udi
  | snapshot udi =>
      do let _ ← onCache fun settings => Cache.snapshot? settings udi
  | read reading => do let _ ← reading.perform
  | ask object question => question.put (deviceOf object)

/-- The backend after a use, where what a crashed step has done stays done. -/
def after (use : Use σ) (backend : ServiceBackend σ) : ServiceBackend σ :=
  (use.perform.start backend).2

theorem passes (use : Use σ) (backend : ServiceBackend σ) :
    Passes backend (use.after backend) := by
  have gently {step : Run (ServiceBackend σ) Unit} (gentle : Gentle step) :
      Passes backend (step.start backend).2 :=
    ((gentle backend).mono (fun _ _ => Mild.passes) fun _ => Mild.passes).left
  have discarded {α : Type} {step : Run (ServiceBackend σ) α}
      (yields : step.Yields backend (fun _ => Passes backend)
        (Passes backend)) :
      Passes backend ((do let _ ← step : Run (ServiceBackend σ) Unit).start
          backend).2 := by
    apply Run.Yields.left
    rw [Run.yields_bind]
    exact yields
  cases use with
  | serve change =>
      have served : Mild backend { backend with
          cache := { backend.cache with
              service := change backend.cache.service } } :=
        .ofCache (.inl rfl)
      exact served.passes
  | handle signal => exact discarded (yields_absorb_passes signal backend)
  | reload =>
      refine discarded ((yields_reload backend).mono ?_ ?_)
      · exact fun _ _ outcome => outcome.1.passes
      · exact fun _ outcome => outcome.1.passes
  | objectOf udi =>
      exact discarded ((yields_objectOf udi backend).mono
        (fun _ _ outcome => outcome.1.passes) fun _ => Mild.passes)
  | list parent capability =>
      exact gently (gentle_list parent capability).discard
  | drain =>
      exact ⟨.ofFewer rfl rfl fun _ _ held => ⟨held, .inr⟩,
        fun _ _ held _ => held⟩
  | identifiers =>
      exact gently (Gentle.onCache fun _ => Cache.gentle_identifiers).discard
  | contains udi => exact gently (gentle_contains udi).discard
  | snapshot udi => exact gently (gentle_snapshot udi).discard
  | read reading => exact gently (gentle_reading reading).discard
  | ask object question => exact gently (gentle_put object question)

end Use

def afterUses (uses : List (Use σ)) (backend : ServiceBackend σ) :
    ServiceBackend σ :=
  uses.foldl (fun left use => use.after left) backend

variable {backend : ServiceBackend σ} {udi : String} {kept : Kept ServiceObject}

theorem wellKept_afterUses (given : backend.WellKept) (uses : List (Use σ)) :
    (afterUses uses backend).WellKept := by
  induction uses generalizing backend with
  | nil => exact given
  | cons use uses induction =>
      exact induction ((use.passes backend).wellKept given)

theorem retained_afterUses (held : backend.objects[udi]? = some kept)
    {uses : List (Use σ)}
    (tracked : ∀ earlier ∈ uses.inits,
      (afterUses earlier backend).tracks udi = true) :
    (afterUses uses backend).objects[udi]? = some kept := by
  induction uses generalizing backend with
  | nil => exact held
  | cons use uses induction =>
      have stays (earlier : List (Use σ)) (member : earlier ∈ uses.inits) :
          (afterUses earlier (use.after backend)).tracks udi = true :=
        tracked (use :: earlier) (by simpa using member)
      refine induction ((use.passes backend).retained udi kept held ?_) stays
      exact stays [] (by simp)

theorem start_objectOf_of_held (held : backend.objects[udi]? = some kept) :
    (objectOf udi).start backend = (.ok (some kept), backend) := by
  apply Run.Yields.start_eq
  rw [objectOf, Run.yields_bind, Run.yields_get, held]
  exact ⟨rfl, rfl⟩

theorem start_contains_of_tracked (tracked : backend.tracks udi = true) :
    (onCache fun settings => Cache.contains settings udi).start backend =
      (.ok true, backend) := by
  have filled : ¬backend.cache.devices.isEmpty = true := by
    intro empty
    rw [tracks, Cache.tracks_eq_false_of_isEmpty empty] at tracked
    cases tracked
  apply Run.Yields.start_eq
  rw [yields_onCache, Cache.contains, Run.yields_bind, Cache.loadIfEmpty,
    Run.yields_bind, Run.yields_get, if_neg filled]
  exact ⟨tracked, rfl⟩

/-- There is an object for an identifier exactly if it is contained, or that of
the service itself. To find out may crash in both ways alike. -/
theorem isSome_objectOf (housed : backend.WellKept) (udi : String) :
    ((objectOf udi).start backend).1.map Option.isSome =
      if udi = backend.identifierPrefix then .ok true
      else ((onCache fun settings => Cache.contains settings udi).start
        backend).1 := by
  cases held : backend.objects[udi]? with
  | some kept =>
      rw [start_objectOf_of_held held]
      split
      · rfl
      · next named =>
          have tracked := (housed.housed udi kept held).resolve_left named
          rw [start_contains_of_tracked tracked]
          rfl
  | none =>
      rw [objectOf, Run.start_bind, Run.start_get]
      simp only [held]
      rw [identifierPrefix]
      split
      · rfl
      · rw [Run.start_bind]
        rcases (onCache fun settings => Cache.contains settings udi).start
            backend with
          ⟨reason | answer, left⟩
        · rfl
        · cases answer <;> rfl

/-- Whatever is done with a new backend, every object is that of a tracked
device or of the service itself. So an object is answered for the service itself
and for exactly those other identifiers that are contained, and it is the same
object as before if its device has been tracked ever since. -/
theorem objects_afterUses (settings : CacheSettings σ) (service : σ)
    (uses : List (Use σ)) :
    let backend := afterUses uses (untouched settings service)
    (∀ (udi : String) kept, backend.objects[udi]? = some kept →
      udi = backend.identifierPrefix ∨ backend.tracks udi = true) ∧
    (∀ udi, ((objectOf udi).start backend).1.map Option.isSome =
      if udi = backend.identifierPrefix then .ok true
      else ((onCache fun settings => Cache.contains settings udi).start
        backend).1) ∧
    ∀ udi kept found, (objectOf udi).start backend = (.ok (some kept), found) →
      ∀ later : List (Use σ),
        (∀ earlier ∈ later.inits, (afterUses earlier found).tracks udi = true) →
        (objectOf udi).start (afterUses later found) =
            (.ok (some kept), afterUses later found) := by
  intro backend
  have wellKept : backend.WellKept :=
    wellKept_afterUses (.ofEmpty fun udi => by simp [untouched]) uses
  refine ⟨wellKept.housed, isSome_objectOf wellKept, ?_⟩
  intro udi kept found answered later tracked
  have asked := yields_objectOf udi backend
  rw [Run.Yields, answered] at asked
  exact start_objectOf_of_held (retained_afterUses (asked.2.1 kept rfl) tracked)

end Uses

section Formatting

def diskUdi : String := "/s/b/sda"

def fileSystem : String := "s.Filesystem"

/-- A disk with a file system, and another device. -/
def formatted : MemoryService where
  objects := Std.ExtTreeMap.ofList [
    (diskUdi, Std.ExtTreeMap.ofList [("s.Block", ∅), (fileSystem, ∅)]),
    ("/s/d/dvd", Std.ExtTreeMap.ofList [
      ("s.Drive", ∅)])]

/-- The file system is taken from the disk, the other device goes without a
signal, and all is loaded again. -/
def formatUses : List (Use MemoryService) :=
  [.handle (formatted.remove diskUdi [fileSystem]).1,
    .serve fun service => (service.remove "/s/d/dvd"
      ["s.Drive"]).2,
    .drain, .objectOf "/s/d/dvd", .reload]

/-- The disk is said to be removed and added, and keeps its object; the other
device does not. -/
theorem objects_afterUses_formatUses :
    let backend := afterUses [.contains diskUdi]
      (untouched (.ofConfig .compact) formatted)
    let found := ((objectOf diskUdi).start backend).2
    (objectOf diskUdi).start backend =
      (.ok (some ⟨0, .tracked diskUdi⟩), found) ∧
      (∀ earlier ∈ formatUses.inits,
        (afterUses earlier found).tracks diskUdi = true) ∧
      (afterUses (formatUses.take 1) found).queue =
        [.removed diskUdi, .added diskUdi] ∧
      (afterUses formatUses found).objects.size = 1 ∧
      ((objectOf diskUdi).start (afterUses formatUses found)).1 =
        .ok (some ⟨0, .tracked diskUdi⟩) := by
  intro backend found
  have answered : (objectOf diskUdi).start backend =
      (.ok (some ⟨0, .tracked diskUdi⟩), found) :=
    Prod.ext (by decide +kernel) rfl
  have tracked : ∀ earlier ∈ formatUses.inits,
      (afterUses earlier found).tracks diskUdi = true := by
    decide +kernel
  obtain ⟨_, _, same⟩ := objects_afterUses (.ofConfig .compact) formatted
    [.contains diskUdi]
  refine ⟨answered, tracked, by decide +kernel, by decide +kernel, ?_⟩
  exact congrArg Prod.fst (same diskUdi _ found answered formatUses tracked)

end Formatting

end ServiceBackend

end Hotplug
