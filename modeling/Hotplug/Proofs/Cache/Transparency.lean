import Hotplug.Proofs.Cache.Upkeep

/-!
# A cache shows what its service holds

A service in memory is changed, and each change is announced to the cache;
between changes the cache is reloaded and read in any way. After every such run
a fetching read answers exactly what the service holds at that moment.
-/

namespace Hotplug

namespace MemoryService

/-- A change of the content that comes with a signal. -/
inductive Edit where
  | add (udi : String) (interfaces : Interfaces)
  | remove (udi : String) (interfaces : List String)
  | change (key : PropertyKey) (value : Value)
  | changeQuietly (key : PropertyKey) (value : Value)

namespace Edit

def udi : Edit → String
  | add udi _ => udi
  | remove udi _ => udi
  | change key _ => key.udi
  | changeQuietly key _ => key.udi

def applyTo (service : MemoryService) : Edit → Signal × MemoryService
  | add udi interfaces => service.add udi interfaces
  | remove udi interfaces => service.remove udi interfaces
  | change key value => service.change key value
  | changeQuietly key value => service.changeQuietly key value

/-- The properties whose values a change may change. -/
def Touches : Edit → PropertyKey → Prop
  | add udi interfaces, key =>
      key.udi = udi ∧ interfaces[key.interface]?.isSome = true
  | remove udi interfaces, key => key.udi = udi ∧ key.interface ∈ interfaces
  | change changed _, key => key = changed
  | changeQuietly changed _, key => key = changed

theorem open_applyTo {service : MemoryService} (isOpen : service.Open)
    (edit : Edit) :
    (edit.applyTo service).2.Open := by
  cases edit with
  | add udi interfaces => exact ⟨isOpen.noneHidden, isOpen.noneFailing⟩
  | change key value => exact ⟨isOpen.noneHidden, isOpen.noneFailing⟩
  | changeQuietly key value => exact ⟨isOpen.noneHidden, isOpen.noneFailing⟩
  | remove udi interfaces =>
      simp only [applyTo, MemoryService.remove]
      split
      · exact isOpen
      · split <;> exact ⟨isOpen.noneHidden, isOpen.noneFailing⟩

theorem value?_applyTo (service : MemoryService) (edit : Edit)
    {key : PropertyKey} (untouched : ¬edit.Touches key) :
    (edit.applyTo service).2.value? key = service.value? key := by
  cases edit with
  | add udi interfaces =>
      simp only [applyTo, MemoryService.value?, properties?_add]
      simp only [Touches, not_and, Bool.not_eq_true, Option.isSome_eq_false_iff,
        Option.isNone_iff_eq_none] at untouched
      by_cases same : key.udi = udi
      · simp [same, untouched same]
      · simp [Ne.symm same]
  | remove udi interfaces =>
      simp only [applyTo, MemoryService.value?, properties?_remove]
      rw [if_neg]
      intro given
      obtain ⟨same, member⟩ := given
      exact untouched ⟨same.symm, member⟩
  | change changed value =>
      simp [applyTo, MemoryService.change, value?_store, Ne.symm untouched]
  | changeQuietly changed value =>
      simp [applyTo, MemoryService.changeQuietly, value?_store,
        Ne.symm untouched]

end Edit

end MemoryService

open MemoryService (Edit)

namespace MediaRule

theorem keeps_getProperty (content : MemoryService) (key : PropertyKey) :
    Run.Keeps (fun service : MemoryService => service.forgetCalls = content)
      (Service.getProperty key) := by
  intro service same
  exact same

theorem judge_onlyAsks (rule : MediaRule) :
    (rule.judge : MediaJudge MemoryService).OnlyAsks := by
  intro udi baseline cached service
  have named : (rule.driveValue? udi baseline cached).Yields service
      (fun _ left => left.forgetCalls = service.forgetCalls)
      (fun left => left.forgetCalls = service.forgetCalls) := by
    simp only [driveValue?]
    split
    · rfl
    · rw [Run.yields_bind]
      refine (keeps_getProperty _ _ service rfl).mono ?_ (fun _ same => same)
      intro reply left same
      rcases reply with reason | value
      · exact same
      · exact same
  have judged : (rule.judge udi baseline cached).Yields service
      (fun _ left => left.forgetCalls = service.forgetCalls)
      (fun left => left.forgetCalls = service.forgetCalls) := by
    simp only [judge, Run.yields_bind]
    refine named.mono ?_ (fun _ same => same)
    intro value left same
    split
    · exact same
    · split
      · exact same
      · rw [Run.yields_bind]
        exact (keeps_getProperty _ _ left same).mono (fun _ _ asked => asked)
          (fun _ asked => asked)
  exact judged.left

end MediaRule

namespace Cache

/-- What happens to a cache over a service in memory. -/
inductive Turn where
  /-- The service changes, and the cache handles the signal of the change. -/
  | edit (edit : Edit)
  | reload
  | identifiers
  | contains (udi : String)
  | snapshot (udi : String)
  | read (key : PropertyKey) (reach : Reach)
  | readAnywhere (udi property : String) (reach : Reach)

/-- Whether only an object under a prefix is changed. -/
def Turn.isUnder (start : String) : Turn → Bool
  | .edit change => Text.startsBy change.udi start
  | _ => true

variable {settings : CacheSettings MemoryService}

def perform (settings : CacheSettings MemoryService) :
    Turn → Run (Cache MemoryService) Unit
  | .edit edit => do
      let (signal, service) := edit.applyTo (← get).service
      modify fun cache => { cache with service := service }
      let _ ← absorb settings signal
  | .reload => do let _ ← Cache.reload settings
  | .identifiers => do let _ ← Cache.identifiers settings
  | .contains udi => do let _ ← Cache.contains settings udi
  | .snapshot udi => do let _ ← Cache.snapshot? settings udi
  | .read key reach => do let _ ← Cache.read key reach
  | .readAnywhere udi property reach =>
      do let _ ← Cache.readAnywhere udi property reach

/-- The cache after a run, where what a crashed step has done stays done. -/
def afterAll (settings : CacheSettings MemoryService) (turns : List Turn)
    (cache : Cache MemoryService) : Cache MemoryService :=
  turns.foldl (fun cache turn => ((perform settings turn).start cache).2) cache

/-- After a change of the service the slots of what the change touches are
stale. -/
theorem Coherent.edited {config : Config} {cache : Cache MemoryService}
    (coherent : cache.Coherent config Fresh) (edit : Edit) :
    Coherent config edit.Touches
      { cache with service := (edit.applyTo cache.service).2 } := by
  refine ⟨edit.open_applyTo coherent.isOpen, coherent.idle,
    coherent.admitted, ?_⟩
  intro key snapshot found slot has
  by_cases touched : edit.Touches key
  · exact .inr touched
  · left
    rw [edit.value?_applyTo cache.service touched]
    exact (coherent.tells key snapshot found slot has).resolve_right
      fun stale => stale

theorem keeps_edit (onlyAsks : settings.judge.OnlyAsks)
    (prefixed : settings.config.identifierPrefix ≠ "")
    (baselineAdmitted : settings.config.admitsInterface
      settings.config.baselineInterface = true)
    {edit : Edit}
    (owned : Text.startsBy edit.udi settings.config.identifierPrefix = true) :
    Run.Keeps (Coherent settings.config Fresh)
      (perform settings (.edit edit)) := by
  intro cache coherent
  have named : edit.udi ≠ "" := by
    intro noName
    obtain ⟨rest, split⟩ := Text.startsBy_iff.mp owned
    rw [noName] at split
    exact prefixed (by simpa using (String.append_eq_empty_iff.mp split.symm).1)
  have edited := coherent.edited edit
  simp only [perform, Run.yields_bind, Run.yields_get, Run.yields_modify]
  cases edit with
  | add udi interfaces =>
      refine (yields_absorbAdded baselineAdmitted named ?_ edited).mono
        (fun _ _ absorbed => absorbed) (fun _ impossible => impossible.elim)
      intro interface properties announced
      change (cache.service.add udi interfaces).2.properties? udi interface =
        some properties
      simp [MemoryService.properties?_add, announced]
  | remove udi interfaces =>
      exact (yields_absorbRemoved named edited).mono
        (fun _ _ absorbed => absorbed) (fun _ impossible => impossible.elim)
  | change key value =>
      refine yields_absorbChanged onlyAsks named owned ?_ ?_
      · intro name told changedTo
        change (cache.service.store key value).value? _ = some told
        rw [Std.ExtTreeMap.getElem?_insert] at changedTo
        by_cases same : key.property = name
        · subst name
          simpa [MemoryService.value?_store] using changedTo
        · simp [same] at changedTo
      · refine ⟨edited.isOpen, edited.idle, edited.admitted, ?_⟩
        intro other snapshot found slot has
        refine (edited.tells other snapshot found slot has).imp_right
          fun touched => ?_
        obtain rfl : other = key := touched
        simp
  | changeQuietly key value =>
      refine yields_absorbChanged onlyAsks named owned ?_ ?_
      · intro name told changedTo
        simp at changedTo
      · refine ⟨edited.isOpen, edited.idle, edited.admitted, ?_⟩
        intro other snapshot found slot has
        refine (edited.tells other snapshot found slot has).imp_right
          fun touched => ?_
        obtain rfl : other = key := touched
        simp

theorem keeps_perform (onlyAsks : settings.judge.OnlyAsks)
    (prefixed : settings.config.identifierPrefix ≠ "")
    (baselineAdmitted : settings.config.admitsInterface
      settings.config.baselineInterface = true)
    {turn : Turn}
    (owned : turn.isUnder settings.config.identifierPrefix = true) :
    Run.Keeps (Coherent settings.config Fresh) (perform settings turn) := by
  cases turn with
  | edit edit => exact keeps_edit onlyAsks prefixed baselineAdmitted owned
  | reload =>
      intro cache coherent
      simp only [perform, Run.yields_bind, Run.yields_pure]
      exact (yields_reload coherent).mono (fun _ _ reloaded => reloaded)
        (fun _ impossible => impossible.elim)
  | identifiers =>
      intro cache coherent
      simp only [perform, identifiers, Run.yields_bind, Run.yields_get,
        Run.yields_pure]
      exact keeps_loadIfEmpty cache coherent
  | contains udi =>
      intro cache coherent
      simp only [perform, contains, Run.yields_bind, Run.yields_get,
        Run.yields_pure]
      exact keeps_loadIfEmpty cache coherent
  | snapshot udi =>
      intro cache coherent
      simp only [perform, snapshot?, Run.yields_bind, Run.yields_get,
        Run.yields_pure]
      exact keeps_loadIfEmpty cache coherent
  | read key reach =>
      intro cache coherent
      simp only [perform, Run.yields_bind, Run.yields_pure]
      exact keeps_read key reach cache coherent
  | readAnywhere udi property reach =>
      intro cache coherent
      simp only [perform, Run.yields_bind, Run.yields_pure]
      exact keeps_readAnywhere udi property reach cache coherent

theorem coherent_afterAll (onlyAsks : settings.judge.OnlyAsks)
    (prefixed : settings.config.identifierPrefix ≠ "")
    (baselineAdmitted : settings.config.admitsInterface
      settings.config.baselineInterface = true)
    {turns : List Turn}
    (owned : ∀ turn ∈ turns,
      turn.isUnder settings.config.identifierPrefix = true)
    {cache : Cache MemoryService}
    (coherent : cache.Coherent settings.config Fresh) :
    (afterAll settings turns cache).Coherent settings.config Fresh := by
  induction turns generalizing cache with
  | nil => exact coherent
  | cons turn turns induction =>
      have performed := keeps_perform onlyAsks prefixed baselineAdmitted
        (owned turn (by simp)) cache coherent
      exact induction (fun later member => owned later (by simp [member]))
        performed.left

/-- After every run over an open service, a fetching read of an interface that
the device has answers the value that the service holds, made plain, and nothing
exactly if the service holds none. -/
theorem read_afterAll_eq_value (onlyAsks : settings.judge.OnlyAsks)
    (prefixed : settings.config.identifierPrefix ≠ "")
    (baselineAdmitted : settings.config.admitsInterface
      settings.config.baselineInterface = true)
    {service : MemoryService} (isOpen : service.Open) {turns : List Turn}
    (owned : ∀ turn ∈ turns,
      turn.isUnder settings.config.identifierPrefix = true)
    {key : PropertyKey}
    (carried : (afterAll settings turns { service := service }).hasInterface
      key.udi key.interface = true) :
    ((read key .fetched).start
        (afterAll settings turns { service := service })).1 =
      .ok (((afterAll settings turns { service := service }).service.value?
        key).map Value.plain) := by
  have fresh : Coherent settings.config Fresh { service := service } :=
    ⟨isOpen, rfl, by simp, by simp⟩
  have coherent := coherent_afterAll onlyAsks prefixed
    baselineAdmitted owned fresh
  obtain ⟨answer, left, start, _, exact⟩ :=
    (yields_read coherent key .fetched).exists_start
  rw [start, exact rfl carried]

def labelKey : PropertyKey :=
  ⟨"/s/b/sda", "s.Block", "IdLabel"⟩

/-- The label is read while there is none, an interface arrives, and a label is
set. -/
def labelTurns : List Turn :=
  [.identifiers, .read labelKey .fetched,
    .edit (.add labelKey.udi
      (Std.ExtTreeMap.ofList [("s.Filesystem", ∅)])),
    .edit (.changeQuietly labelKey (.bytes [100, 97, 116, 97, 0]))]

def unlabelled : MemoryService where
  objects := Std.ExtTreeMap.ofList
    [(labelKey.udi, Std.ExtTreeMap.ofList [(labelKey.interface, ∅)])]

theorem read_afterAll_labelTurns :
    ((read labelKey .fetched).start
      (afterAll (.ofConfig .compact) labelTurns { service := unlabelled })).1 =
      .ok (some (.text "data")) := by
  have held : (afterAll (.ofConfig .compact) labelTurns
    { service := unlabelled }).service.value?
      labelKey = some (.bytes [100, 97, 116, 97, 0]) := by decide +kernel
  rw [read_afterAll_eq_value (MediaRule.judge_onlyAsks _) (by decide)
    (by decide) ⟨rfl, rfl⟩ (by decide) (by decide +kernel), held]
  exact congrArg Except.ok (by decide +kernel)

end Cache

end Hotplug
