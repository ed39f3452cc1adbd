import Hotplug.Cache.Signals
import Hotplug.Proofs.Named
import Hotplug.Proofs.Yields

/-!
# Handling signals, step by step

What the handling of a signal comes to once the filters are passed. A change of
an object that is not tracked leaves the cache as it is, so the two branches of
a change are one.
-/

namespace Hotplug

namespace Cache

variable {σ : Type} {cache : Cache σ} {udi : String}

theorem preserves_call {τ α : Type} {view : Cache σ → τ}
    (same : ∀ cache service, view { cache with service := service } =
      view cache)
    (step : Run σ α) :
    (call step).Preserves view := by
  intro seen cache before
  rw [call, Run.yields_zoom]
  exact (Run.yields_start _ _).mono (fun _ _ _ => (same cache _).trans before)
    fun _ _ => (same cache _).trans before

theorem tracks_iff :
    cache.tracks udi = true ↔ cache.devices[udi]?.isSome = true := by
  simp [tracks]

theorem getElem?_of_untracked (untracked : cache.tracks udi = false) :
    cache.devices[udi]? = none := by
  rw [Bool.eq_false_iff, Ne, tracks_iff] at untracked
  simpa using untracked

theorem getElem?_onDevice {change : Snapshot → Snapshot} {other : String} :
    (cache.onDevice udi change).devices[other]? =
      if udi = other then cache.devices[other]?.map change else
        cache.devices[other]? := by
  rw [onDevice, Std.ExtTreeMap.getElem?_modify]
  by_cases same : udi = other
  · subst other
    simp
  · simp [same]

theorem onDevice_of_untracked (untracked : cache.devices[udi]? = none)
    (change : Snapshot → Snapshot) : cache.onDevice udi change = cache := by
  have devices : (cache.onDevice udi change).devices = cache.devices := by
    apply Std.ExtTreeMap.ext_getElem?
    intro other
    rw [getElem?_onDevice]
    by_cases same : udi = other
    · simp [← same, untracked]
    · simp [same]
  change { cache with devices := (cache.onDevice udi change).devices } = cache
  rw [devices]

theorem onDevice_of_tracked {snapshot : Snapshot}
    (tracked : cache.devices[udi]? = some snapshot)
    (change : Snapshot → Snapshot) :
    cache.onDevice udi change =
      { cache with devices := cache.devices.insert udi (change snapshot) } := by
  have devices : (cache.onDevice udi change).devices =
      cache.devices.insert udi (change snapshot) := by
    apply Std.ExtTreeMap.ext_getElem?
    intro other
    rw [getElem?_onDevice, Std.ExtTreeMap.getElem?_insert]
    by_cases same : udi = other
    · simp [← same, tracked]
    · simp [same]
  change { cache with devices := (cache.onDevice udi change).devices } = _
  rw [devices]

@[simp] theorem tracks_onDevice {change : Snapshot → Snapshot}
    {other : String} :
    (cache.onDevice udi change).tracks other = cache.tracks other := by
  rw [Bool.eq_iff_iff, tracks_iff, tracks_iff, getElem?_onDevice]
  by_cases same : udi = other <;> simp [same]

variable {settings : CacheSettings σ}

/-- The event of a change, which an object that is not tracked does not have. -/
def changeReport (cache : Cache σ) (udi : String) (changes : Changes) :
    List DeviceEvent :=
  if cache.tracks udi && !changes.isEmpty then [.changed udi changes] else []

/-- The size that a change of the baseline interface tells, if it tells one. -/
def reportedSize? (config : Config) (interface : String)
    (changed : Properties) :
    Option Value :=
  if interface = config.baselineInterface then changed[config.sizeProperty]?
    else none

theorem absorbChanged_of_dropped {interface : String} {changed : Properties}
    {invalidated : List String}
    (dropped : udi = "" ∨ ¬Text.startsBy udi settings.config.identifierPrefix =
      true ∨ settings.config.leavesOut udi = true) :
    absorbChanged settings udi interface changed invalidated = pure [] := by
  rw [absorbChanged, if_pos dropped]

/-- A change is applied first, and then a size that it tells is judged. -/
theorem yields_absorbChanged_iff {interface : String} {changed : Properties}
    {invalidated : List String} {after : List DeviceEvent → Cache σ → Prop}
    {failed : Cache σ → Prop}
    (admitted : ¬(udi = "" ∨
      ¬Text.startsBy udi settings.config.identifierPrefix = true ∨
      settings.config.leavesOut udi = true)) :
    (absorbChanged settings udi interface changed invalidated).Yields
      cache after failed ↔
      match reportedSize? settings.config interface changed.plain with
      | some size =>
          (absorbMedia settings udi (cache.tracks udi) (size.toUInt64?.getD 0)
              changed.plain).Yields
            (cache.onDevice udi fun snapshot =>
              snapshot.applyChanges interface changed.plain invalidated)
            (fun events left => after
              (cache.changeReport udi (modifications changed.plain
                invalidated) ++ events) left)
            failed
      | none =>
          after (cache.changeReport udi
            (modifications changed.plain invalidated))
            (cache.onDevice udi fun snapshot =>
              snapshot.applyChanges interface changed.plain invalidated) := by
  simp only [absorbChanged, if_neg admitted, Run.yields_bind,
    Run.yields_get, reportedSize?]
  by_cases tracked : cache.tracks udi = true
  · simp only [tracked, ↓reduceIte, Run.yields_bind,
      Run.yields_modify, changeReport]
    cases (if interface = settings.config.baselineInterface then
      changed.plain[settings.config.sizeProperty]? else none) <;> simp
  · have untracked : cache.devices[udi]? = none := by
      rw [tracks_iff] at tracked
      simpa using tracked
    simp only [tracked, Bool.false_eq_true, ↓reduceIte, changeReport]
    rw [onDevice_of_untracked untracked]
    cases (if interface = settings.config.baselineInterface then
      changed.plain[settings.config.sizeProperty]? else none) <;> simp

/-- The judge is asked about a device that is tracked and has no size, or that
is not tracked and has one. Only its consent changes what is tracked. -/
theorem yields_absorbMedia_iff {size : UInt64} {changed : Properties}
    {after : List DeviceEvent → Cache σ → Prop} {failed : Cache σ → Prop} :
    (absorbMedia settings udi (cache.tracks udi) size changed).Yields
      cache after failed ↔ if cache.tracks udi = decide (size = 0) then
        (settings.judge udi settings.config.baselineInterface
          cache.devices[udi]?).Yields cache.service
          (fun consents service =>
            match consents, cache.tracks udi with
            | false, _ => after [] { cache with service := service }
            | true, true =>
                after [.removed udi]
                  { cache with
                    service := service, devices := cache.devices.erase udi }
            | true, false =>
                after [.added udi]
                  { cache with
                    service := service
                    devices := cache.devices.insert udi
                      (Snapshot.empty.put settings.config.baselineInterface
                        changed) })
          fun service => failed { cache with service := service }
      else after [] cache := by
  have filled : 0 < size ↔ ¬size = 0 := by
    rw [UInt64.lt_iff_toNat_lt, ← UInt64.toNat_inj]
    exact Nat.pos_iff_ne_zero
  rw [absorbMedia]
  cases tracked : cache.tracks udi with
  | true =>
      by_cases empty : size = 0
      · subst empty
        simp only [Bool.not_true, Bool.false_and, Bool.true_and,
          BEq.rfl, Bool.not_false,
          Bool.and_false, Bool.false_eq_true, ↓reduceIte, decide_true,
            Run.yields_bind,
          Run.yields_get, call, Run.yields_zoom]
        apply Run.yields_congr ?_ fun _ => Iff.rfl
        intro consents service
        have still : tracks { cache with service := service } udi =
          true := tracked
        cases consents <;> simp [still]
      · simp [empty]
  | false =>
      by_cases empty : size = 0
      · simp [empty]
      · have absent := getElem?_of_untracked tracked
        simp only [empty, filled, absent, not_false_eq_true,
          Bool.not_false, decide_true,
          decide_false, Bool.true_and, Bool.false_and,
            Bool.and_self, Bool.not_true,
          Bool.false_eq_true, ↓reduceIte, Run.yields_bind, Run.yields_get,
            call, Run.yields_zoom]
        apply Run.yields_congr ?_ fun _ => Iff.rfl
        intro consents service
        have still : tracks { cache with service := service } udi =
          false := tracked
        cases consents <;> simp [still]

/-- What the judge of media says of an object. -/
def verdict (settings : CacheSettings σ) (service : σ) (udi : String)
    (cached : Option Snapshot) :
    Except Crash Bool :=
  ((settings.judge udi settings.config.baselineInterface cached).start
    service).1

/-- The service as the judge of media leaves it. -/
def consulted (settings : CacheSettings σ) (cache : Cache σ) (udi : String) :
    σ :=
  ((settings.judge udi settings.config.baselineInterface
    cache.devices[udi]?).start cache.service).2

/-- The judge consents that a device without a size goes, or that an object with
one becomes a device. -/
def Consents (settings : CacheSettings σ) (cache : Cache σ) (udi : String)
    (size : UInt64) :
    Prop :=
  cache.tracks udi = decide (size = 0) ∧
    verdict settings cache.service udi cache.devices[udi]? = .ok true

/-- What a size comes to once it is judged. -/
structure Judged (settings : CacheSettings σ) (udi : String) (size : UInt64)
    (changed : Properties) (before : Cache σ) (events : List DeviceEvent)
    (after : Cache σ) :
    Prop where
  claims : after.inflight = before.inflight
  service : after.service = before.service ∨ after.service =
    consulted settings before udi
  removed : Consents settings before udi size → before.tracks udi = true →
    events = [.removed udi] ∧ after.devices = before.devices.erase udi
  added : Consents settings before udi size → before.tracks udi = false →
    events = [.added udi] ∧ after.devices = before.devices.insert udi
      (Snapshot.empty.put settings.config.baselineInterface changed)
  rests : ¬Consents settings before udi size → events = [] ∧
    after.devices = before.devices

theorem Judged.cases {size : UInt64} {changed : Properties}
    {events : List DeviceEvent} {after : Cache σ}
    (judged : Judged settings udi size changed cache events after) :
    (events = [] ∧ after.devices = cache.devices) ∨
      (cache.tracks udi = false ∧ events = [.added udi] ∧ after.devices =
        cache.devices.insert udi
        (Snapshot.empty.put settings.config.baselineInterface changed)) ∨
      (cache.tracks udi = true ∧ events = [.removed udi] ∧
        after.devices = cache.devices.erase udi) := by
  by_cases consents : Consents settings cache udi size
  · cases tracked : cache.tracks udi with
    | true => exact .inr (.inr ⟨rfl, judged.removed consents tracked⟩)
    | false => exact .inr (.inl ⟨rfl, judged.added consents tracked⟩)
  · exact .inl (judged.rests consents)

theorem yields_absorbMedia_judged {size : UInt64} {changed : Properties} :
    (absorbMedia settings udi (cache.tracks udi) size changed).Yields cache
      (Judged settings udi size changed cache)
      fun left => left = { cache with
        service := consulted settings cache udi } ∧
        ∃ reason, verdict settings cache.service udi cache.devices[udi]? =
            .error reason := by
  rw [yields_absorbMedia_iff]
  by_cases asked : cache.tracks udi = decide (size = 0)
  · rw [if_pos asked]
    refine (Run.yields_start _ _).mono ?_ ?_
    · intro consents service ran
      have judged : verdict settings cache.service udi cache.devices[udi]? =
          .ok consents :=
        congrArg Prod.fst ran
      have left : consulted settings cache udi = service :=
        congrArg Prod.snd ran
      have agreed : Consents settings cache udi size ↔ consents = true := by
        simp [Consents, asked, judged]
      cases consents <;> cases known : cache.tracks udi <;>
        constructor <;> simp_all
    · rintro service ⟨reason, ran⟩
      have left : consulted settings cache udi = service :=
        congrArg Prod.snd ran
      exact ⟨by rw [left], reason, congrArg Prod.fst ran⟩
  · rw [if_neg asked]
    have rests : ¬Consents settings cache udi size :=
      fun consents => asked consents.1
    constructor <;> simp [rests]

end Cache

end Hotplug
