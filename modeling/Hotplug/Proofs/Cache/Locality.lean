import Hotplug.Cache.RemovableMedia
import Hotplug.Proofs.Cache.Signals
import Hotplug.Service.Memory

/-!
# Signals about different devices commute

Handling a signal looks at nothing in a cache but at what is cached of the
device of the signal, and changes nothing else there. While the service repeats
its answers, it makes no difference which of two signals about different devices
is handled first.
-/

namespace Hotplug

namespace Run

variable {σ α β : Type} {rest : σ → Prop}

/-- Whenever the step answers in a state of rest, it gives the same answer and
leaves a state of rest. -/
def Repeats (rest : σ → Prop) (step : Run σ α) : Prop :=
  ∃ answer, ∀ state, rest state →
    step.Yields state (fun given left => given = answer ∧ rest left)
      fun _ => True

namespace Repeats

theorem pure (answer : α) : Repeats rest (Pure.pure answer : Run σ α) :=
  ⟨answer, fun _ rests => ⟨rfl, rests⟩⟩

theorem bind {step : Run σ α} {next : α → Run σ β} (first : Repeats rest step)
    (later : ∀ answer, Repeats rest (next answer)) :
    Repeats rest (step >>= next) := by
  obtain ⟨answer, answers⟩ := first
  obtain ⟨last, finishes⟩ := later answer
  refine ⟨last, fun state rests => ?_⟩
  rw [yields_bind]
  refine (answers state rests).mono ?_ fun _ crashed => crashed
  rintro given left ⟨rfl, restsLeft⟩
  exact finishes left restsLeft

end Repeats

end Run

/-- The service and the judge of media give the same answers as often as they
are asked. -/
def CacheSettings.Steady {σ : Type} [Service σ] (settings : CacheSettings σ)
    (service : σ) :
    Prop :=
  ∃ rest : σ → Prop, rest service ∧
    (∀ udi interface, Run.Repeats rest (Service.getAll udi interface)) ∧
    ∀ udi cached, Run.Repeats rest
      (settings.judge udi settings.config.baselineInterface cached)

theorem MediaRule.repeats_judge {σ : Type} [Service σ] {rest : σ → Prop}
    (rule : MediaRule)
    (properties : ∀ key, Run.Repeats rest (Service.getProperty key))
    (udi baseline : String) (cached : Option Snapshot) :
    Run.Repeats rest (rule.judge udi baseline cached) := by
  have named : Run.Repeats rest (rule.driveValue? udi baseline cached) := by
    dsimp only [driveValue?]
    split
    · exact .pure _
    · refine (properties _).bind fun reply => ?_
      split
      · exact .pure _
      · exact .pure _
  refine named.bind fun value => ?_
  split
  · exact .pure _
  · split
    · exact .pure _
    · exact (properties _).bind fun _ => .pure _

theorem MemoryService.steady_ofConfig (config : Config)
    (service : MemoryService) :
    (CacheSettings.ofConfig config).Steady service := by
  refine ⟨fun left => left.forgetCalls = service.forgetCalls, rfl,
    fun udi interface => ?_, ?_⟩
  · refine ⟨service.answerAll udi interface, fun left same => ⟨?_, same⟩⟩
    change left.forgetCalls.answerAll udi interface =
      service.forgetCalls.answerAll udi interface
    rw [same]
  · intro udi cached
    refine MediaRule.repeats_judge _ (fun key => ?_) udi _ cached
    refine ⟨service.answerProperty key, fun left same => ⟨?_, same⟩⟩
    change left.forgetCalls.answerProperty key =
      service.forgetCalls.answerProperty key
    rw [same]

namespace Cache

variable {σ α β : Type} {rest : σ → Prop} {udi : String}

/-- What is cached of one device has become `result`, and all else is as it
was. -/
structure Replaced (rest : σ → Prop) (udi : String) (result : Option Snapshot)
    (before after : Cache σ) : Prop where
  rests : rest after.service
  here : after.devices[udi]? = result
  elsewhere : ∀ other : String, other ≠ udi → after.devices[other]? =
    before.devices[other]?

/-- From one snapshot of a device the step always gives the same answer and
leaves the same snapshot, whatever else is cached, and it leaves all else
alone. -/
def Becomes (rest : σ → Prop) (udi : String) (found : Option Snapshot)
    (answer : α) (result : Option Snapshot) (step : Run (Cache σ) α) :
    Prop :=
  ∀ cache : Cache σ, rest cache.service → cache.devices[udi]? = found →
    step.Yields cache (fun given left => given = answer ∧
      Replaced rest udi result cache left) fun _ => True

/-- The step sees nothing of a cache but what is cached of one device. -/
def Local (rest : σ → Prop) (udi : String) (step : Run (Cache σ) α) : Prop :=
  ∀ found : Option Snapshot, ∃ answer result,
    Becomes rest udi found answer result step

/-- Steps on different devices give the same answers and leave the same
snapshots, whichever is taken first. -/
theorem Becomes.both {γ : Type} {other : String} {first : Run (Cache σ) α}
    {second : Run (Cache σ) β}
    {found foundOther result resultOther : Option Snapshot} {answer : α}
    {answerOther : β} (one : Becomes rest udi found answer result first)
    (two : Becomes rest other foundOther answerOther resultOther second)
    (apart : udi ≠ other) (pair : α → β → γ) {cache : Cache σ}
    (rests : rest cache.service) (here : cache.devices[udi]? = found)
    (there : cache.devices[other]? = foundOther) :
    (do
        let given ← first
        return pair given (← second) : Run (Cache σ) γ).Yields cache
      (fun given left => given = pair answer answerOther ∧
        left.devices[udi]? = result ∧ left.devices[other]? = resultOther ∧
        ∀ third : String, third ≠ udi → third ≠ other →
          left.devices[third]? = cache.devices[third]?)
      fun _ => True := by
  rw [Run.yields_bind]
  refine (one cache rests here).mono ?_ fun _ crashed => crashed
  rintro _ middle ⟨rfl, replaced⟩
  have still : middle.devices[other]? = foundOther :=
    (replaced.elsewhere other (Ne.symm apart)).trans there
  rw [Run.yields_bind]
  refine (two middle replaced.rests still).mono ?_ fun _ crashed => crashed
  rintro _ left ⟨rfl, again⟩
  refine ⟨rfl, (again.elsewhere udi apart).trans replaced.here, again.here, ?_⟩
  intro third notHere notThere
  exact (again.elsewhere third notThere).trans
    (replaced.elsewhere third notHere)

namespace Local

theorem pure (answer : α) :
    Local rest udi (Pure.pure answer : Run (Cache σ) α) :=
  fun found => ⟨answer, found,
    fun _ rests here => ⟨rfl, rests, here, fun _ _ => rfl⟩⟩

theorem bind {step : Run (Cache σ) α} {next : α → Run (Cache σ) β}
    (first : Local rest udi step)
    (later : ∀ answer, Local rest udi (next answer)) :
    Local rest udi (step >>= next) := by
  intro found
  obtain ⟨answer, middle, answers⟩ := first found
  obtain ⟨last, result, finishes⟩ := later answer middle
  refine ⟨last, result, fun cache rests here => ?_⟩
  rw [Run.yields_bind]
  refine (answers cache rests here).mono ?_ fun _ crashed => crashed
  rintro given left ⟨rfl, replaced⟩
  refine (finishes left replaced.rests replaced.here).mono ?_
    fun _ crashed => crashed
  rintro given final ⟨rfl, again⟩
  exact ⟨rfl, again.rests, again.here, fun other apart =>
    (again.elsewhere other apart).trans (replaced.elsewhere other apart)⟩

/-- What is done next depends on nothing but what is cached of the device. -/
theorem bindGet {next : Cache σ → Run (Cache σ) β}
    (each : ∀ found : Option Snapshot, ∃ step,
      (∀ cache : Cache σ, cache.devices[udi]? = found → next cache = step) ∧
        Local rest udi step) : Local rest udi (get >>= next) := by
  intro found
  obtain ⟨step, same, isLocal⟩ := each found
  obtain ⟨answer, result, answers⟩ := isLocal found
  refine ⟨answer, result, fun cache rests here => ?_⟩
  rw [Run.yields_bind, Run.yields_get, same cache here]
  exact answers cache rests here

theorem call {step : Run σ α} (repeats : Run.Repeats rest step) :
    Local rest udi (Cache.call step) := by
  obtain ⟨answer, answers⟩ := repeats
  refine fun found => ⟨answer, found, fun cache rests here => ?_⟩
  rw [Cache.call, Run.yields_zoom]
  refine (answers cache.service rests).mono ?_ fun _ crashed => crashed
  rintro given service ⟨rfl, restsLeft⟩
  exact ⟨rfl, restsLeft, here, fun _ _ => rfl⟩

theorem insert (snapshot : Snapshot) :
    Local rest udi (modify fun cache : Cache σ =>
      { cache with devices := cache.devices.insert udi snapshot }) := by
  refine fun found => ⟨⟨⟩, some snapshot, fun cache rests here =>
    ⟨rfl, rests, ?_, ?_⟩⟩
  · simp
  · intro other apart
    simp [Std.ExtTreeMap.getElem?_insert, Ne.symm apart]

theorem erase :
    Local rest udi (modify fun cache : Cache σ =>
      { cache with devices := cache.devices.erase udi }) := by
  refine fun found => ⟨⟨⟩, none, fun cache rests here => ⟨rfl, rests, ?_, ?_⟩⟩
  · simp
  · intro other apart
    simp [Std.ExtTreeMap.getElem?_erase, Ne.symm apart]

theorem onDevice (change : Snapshot → Snapshot) :
    Local rest udi (modify fun cache : Cache σ =>
      cache.onDevice udi change) := by
  refine fun found => ⟨⟨⟩, found.map change, fun cache rests here =>
    ⟨rfl, rests, ?_, ?_⟩⟩
  · rw [getElem?_onDevice, if_pos rfl, here]
  · intro other apart
    rw [getElem?_onDevice, if_neg (Ne.symm apart)]

theorem forM {items : List α} {step : α → Run (Cache σ) PUnit}
    (each : ∀ item, Local rest udi (step item)) :
    Local rest udi (items.forM step) := by
  induction items with
  | nil => exact .pure _
  | cons item items induction => exact (each item).bind fun _ => induction

end Local

theorem tracks_eq_isSome (cache : Cache σ) (udi : String) :
    cache.tracks udi = cache.devices[udi]?.isSome := by
  rw [tracks, Std.ExtTreeMap.contains_eq_isSome_getElem?]

section Signals

variable {settings : CacheSettings σ}

theorem local_absorbRemoved (settings : CacheSettings σ) (udi : String)
    (interfaces : List String) :
    Local rest udi (absorbRemoved settings udi interfaces) := by
  rw [absorbRemoved]
  split
  · exact .pure _
  · refine .bindGet fun found => ⟨?step, ?same, ?isLocal⟩
    case same =>
      intro cache here
      rw [here]
    case isLocal =>
      cases found with
      | none => exact .pure _
      | some snapshot =>
          dsimp only
          split
          · exact Local.erase.bind fun _ => .pure _
          · exact (Local.insert _).bind fun _ => .pure _

theorem local_absorbMedia
    (judge : ∀ udi cached, Run.Repeats rest
      (settings.judge udi settings.config.baselineInterface cached))
    (udi : String) (known : Bool) (size : UInt64) (changed : Properties) :
    Local rest udi (absorbMedia settings udi known size changed) := by
  rw [absorbMedia]
  dsimp only
  split
  · exact .pure _
  · refine .bindGet fun found => ⟨?step, ?same, ?isLocal⟩
    case same =>
      intro cache here
      rw [here]
    case isLocal =>
      refine (Local.call (judge udi _)).bind fun judged => ?_
      cases judged with
      | false => exact .pure _
      | true =>
          refine .bindGet fun found => ⟨?last, ?sameLast, ?isLocalLast⟩
          case sameLast =>
            intro cache here
            rw [tracks_eq_isSome, here]
          case isLocalLast =>
            split
            · exact (Local.insert _).bind fun _ => .pure _
            · split
              · exact Local.erase.bind fun _ => .pure _
              · exact .pure _

theorem local_absorbChanged
    (judge : ∀ udi cached, Run.Repeats rest
      (settings.judge udi settings.config.baselineInterface cached))
    (udi interface : String) (changed : Properties)
    (invalidated : List String) :
    Local rest udi (absorbChanged settings udi interface changed
      invalidated) := by
  rw [absorbChanged]
  dsimp only
  split
  · exact .pure _
  · refine .bindGet fun found => ⟨?step, ?same, ?isLocal⟩
    case same =>
      intro cache here
      rw [tracks_eq_isSome, here]
    case isLocal =>
      generalize (if interface = settings.config.baselineInterface then
        changed.plain[settings.config.sizeProperty]? else none) = size
      cases size with
      | none =>
          split
          · exact (Local.onDevice _).bind fun _ => .pure _
          · exact .pure _
      | some size =>
          have judged := local_absorbMedia judge udi found.isSome
            (size.toUInt64?.getD 0) changed.plain
          split
          · exact (Local.onDevice _).bind fun _ => judged.bind fun _ => .pure _
          · exact judged.bind fun _ => .pure _

variable [Service σ]

theorem local_refetch
    (getAll : ∀ udi interface, Run.Repeats rest (Service.getAll udi interface))
    (udi interface : String) :
    Local rest udi (refetch udi interface : Run (Cache σ) Unit) := by
  refine (Local.call (getAll udi interface)).bind fun reply => ?_
  cases reply with
  | ok properties => exact .onDevice _
  | error reason => exact .pure _

theorem local_absorbAdded
    (getAll : ∀ udi interface, Run.Repeats rest (Service.getAll udi interface))
    (udi : String) (interfaces : Interfaces) :
    Local rest udi (absorbAdded settings udi interfaces) := by
  rw [absorbAdded]
  dsimp only
  split
  · exact .pure _
  · refine .bindGet fun found => ⟨?step, ?same, ?isLocal⟩
    case same =>
      intro cache here
      rw [tracks_eq_isSome, here]
    case isLocal =>
      refine (Local.insert _).bind fun _ => ?_
      exact (Local.forM fun interface => local_refetch getAll udi
        interface).bind fun _ => .pure _

theorem local_absorb {settings : CacheSettings σ}
    (getAll : ∀ udi interface, Run.Repeats rest (Service.getAll udi interface))
    (judge : ∀ udi cached, Run.Repeats rest
      (settings.judge udi settings.config.baselineInterface cached))
    (signal : Signal) :
    Local rest signal.udi (absorb settings signal) := by
  cases signal with
  | interfacesAdded udi interfaces =>
      exact local_absorbAdded getAll udi interfaces
  | interfacesRemoved udi interfaces =>
      exact local_absorbRemoved settings udi interfaces
  | propertiesChanged udi interface changed invalidated =>
      exact local_absorbChanged judge udi interface changed invalidated

/-- Two signals about different devices, handled without a crash in either
order, leave the same devices with the same snapshots, and each of them returns
the same events. -/
theorem absorb_comm {settings : CacheSettings σ} {cache left leftBack : Cache σ}
    (steady : settings.Steady cache.service) {first second : Signal}
    (apart : first.udi ≠ second.udi)
    {events later eventsBack laterBack : List DeviceEvent}
    (forth : (do
        let events ← absorb settings first
        return (events, ← absorb settings second) : Run (Cache σ) _).start
      cache = (.ok (events, later), left))
    (back : (do
        let later ← absorb settings second
        return (← absorb settings first, later) : Run (Cache σ) _).start
      cache = (.ok (eventsBack, laterBack), leftBack)) :
    leftBack.devices = left.devices ∧ eventsBack = events ∧
      laterBack = later := by
  obtain ⟨rest, rests, getAll, judge⟩ := steady
  obtain ⟨_, _, one⟩ := local_absorb getAll judge first
    cache.devices[first.udi]?
  obtain ⟨_, _, two⟩ := local_absorb getAll judge second
    cache.devices[second.udi]?
  have forthYields := one.both two apart Prod.mk rests rfl rfl
  have backYields := two.both one (Ne.symm apart)
    (fun later events => (events, later)) rests rfl rfl
  rw [Run.Yields, forth] at forthYields
  rw [Run.Yields, back] at backYields
  obtain ⟨answers, here, there, elsewhere⟩ := forthYields
  obtain ⟨answersBack, thereBack, hereBack, elsewhereBack⟩ := backYields
  refine ⟨?_, ?_⟩
  · apply Std.ExtTreeMap.ext_getElem?
    intro udi
    by_cases isFirst : udi = first.udi
    · rw [isFirst, hereBack, here]
    · by_cases isSecond : udi = second.udi
      · rw [isSecond, thereBack, there]
      · rw [elsewhereBack udi isSecond isFirst, elsewhere udi isFirst isSecond]
  · exact Prod.ext_iff.mp (answersBack.trans answers.symm)

end Signals

section Desk

def discUdi : String := "/s/b/sr0"

def stickUdi : String := "/s/b/sdb"

/-- A disc in an optical drive, beside a stick. -/
def desk : MemoryService where
  objects := Std.ExtTreeMap.ofList [
    ("/s/d/dvd", Std.ExtTreeMap.ofList [
      ("s.Drive", Std.ExtTreeMap.ofList [
        ("MediaCompatibility", Value.texts ["optical_cd"])])]),
    (discUdi, Std.ExtTreeMap.ofList [
      ("s.Block", Std.ExtTreeMap.ofList [
        ("Drive", Value.text "/s/d/dvd"), ("Size", Value.uint 0)])]),
    (stickUdi, Std.ExtTreeMap.ofList [
      ("s.Block", ∅), ("s.Partition", ∅)])]

def deskCache : Cache MemoryService where
  service := desk
  devices := admitted .compact desk.objects

/-- The disc is taken out. -/
def ejection : Signal :=
  .propertiesChanged discUdi "s.Block"
    (Std.ExtTreeMap.ofList [("Size", Value.uint 0)]) []

/-- The stick is formatted, and its partition is loaded again. -/
def formatting : Signal :=
  .interfacesAdded stickUdi (Std.ExtTreeMap.ofList [("s.Filesystem", ∅)])

def ejectionFirst :
    Except Crash (List DeviceEvent × List DeviceEvent) × Cache MemoryService :=
  (do
    let events ← absorb (.ofConfig .compact) ejection
    return (events, ← absorb (.ofConfig .compact) formatting) :
      Run (Cache MemoryService) _).start deskCache

def formattingFirst :
    Except Crash (List DeviceEvent × List DeviceEvent) × Cache MemoryService :=
  (do
    let later ← absorb (.ofConfig .compact) formatting
    return (← absorb (.ofConfig .compact) ejection, later) :
      Run (Cache MemoryService) _).start deskCache

theorem absorb_comm_desk :
    ejectionFirst.1.toOption = some
        ([.changed discUdi (Std.ExtTreeMap.ofList [("Size", Change.modified)]),
          .removed discUdi], [.added stickUdi]) ∧
      formattingFirst.1.toOption = ejectionFirst.1.toOption ∧
      formattingFirst.2.devices = ejectionFirst.2.devices := by
  have told : ejectionFirst.1.toOption = some
      ([.changed discUdi (Std.ExtTreeMap.ofList [("Size", Change.modified)]),
        .removed discUdi], [.added stickUdi]) := by decide +kernel
  have answered : formattingFirst.1.isOk = true := by decide +kernel
  refine ⟨told, ?_⟩
  rcases forth : ejectionFirst with ⟨reason | ⟨events, later⟩, left⟩
  · rw [forth] at told
    cases told
  · rcases back : formattingFirst with ⟨reason | ⟨eventsBack, laterBack⟩,
      leftBack⟩
    · rw [back] at answered
      cases answered
    · obtain ⟨devices, rfl, rfl⟩ :=
        absorb_comm (MemoryService.steady_ofConfig .compact desk)
          (by decide) forth back
      exact ⟨rfl, devices⟩

end Desk

end Cache

end Hotplug
