import Hotplug.Proofs.Backend.Service
import Hotplug.Proofs.Cache.Foreseen
import Hotplug.Proofs.Predicate.Evaluation

/-!
# What a backend can be foreseen to answer

While its service rests, a backend lists the same devices and answers the same
about them, whatever was asked before. This holds for the properties that are
asked of any interface if their names are watched, and for all others if their
names are not.
-/

namespace Hotplug

namespace Predicate

mutual

/-- The properties that the predicate compares, with the capabilities it
names. -/
def comparisons : Predicate → List (Capability × String)
  | empty => []
  | invalid => []
  | is _ => []
  | compare capability property _ _ => [(capability, property)]
  | all operands => comparisonsOf operands
  | any operands => comparisonsOf operands

def comparisonsOf : List Predicate → List (Capability × String)
  | [] => []
  | operand :: rest => comparisons operand ++ comparisonsOf rest

end

/-- The names of the properties that are compared whatever interface has
them. -/
def genericNames (predicate : Predicate) : List String :=
  predicate.comparisons.filterMap fun compared =>
    if compared.1 = .genericInterface then some compared.2 else none

/-- The names that are read of single interfaces to compare a property. -/
def singleReads (config : Config) : Capability × String → List String
  | (capability, name) =>
      if capability = .genericInterface then []
      else if capability = .storageAccess ∧
        (name = StorageView.mountPathProperty ∨
          name = StorageView.accessibleProperty) then
        name :: config.mountPointsProperty.toList
      else [name]

/-- The names that a query reads of single interfaces. -/
def namesRead (config : Config) (predicate : Predicate)
    (parent : Option String) :
    List String :=
  predicate.comparisons.flatMap (singleReads config) ++
    if parent.isSome then config.parentProperty.toList else []

/-- No property is compared whatever interface has it, and read of a single
one. -/
def Unmixed (config : Config) (predicate : Predicate) (parent : Option String) :
    Prop :=
  ∀ name ∈ predicate.genericNames, name ∉ predicate.namesRead config parent

section Judgement

variable {τ : Type} {device : Device (Run τ)} {steady : τ → Prop}

theorem determined_reports
    (capabilities : Run.Determined steady steady device.capabilities)
    (capability : Capability) :
    Run.Determined steady steady (device.reports capability) :=
  capabilities.bind fun _ => .pure _

theorem determined_comparisonSelects
    (capabilities : Run.Determined steady steady device.capabilities)
    {capability : Capability} {property : String}
    (answers : Run.Determined steady steady
      (device.property capability property .fetched))
    (op : Comparator) (literal : Value) :
    Run.Determined steady steady
      (comparisonSelects device capability property op literal) := by
  refine (determined_reports capabilities capability).bind fun reported => ?_
  cases reported with
  | false => exact .pure false
  | true =>
      refine answers.bind fun value => ?_
      cases value with
      | none => exact .pure false
      | some actual => exact .pure _

mutual

theorem determined_selects
    (capabilities : Run.Determined steady steady device.capabilities)
    (predicate : Predicate)
    (answers : ∀ compared ∈ predicate.comparisons,
      Run.Determined steady steady
      (device.property compared.1 compared.2 .fetched)) :
    Run.Determined steady steady (predicate.selects device) := by
  cases predicate with
  | empty => exact .pure true
  | invalid => exact .pure false
  | is capability => exact determined_reports capabilities capability
  | compare capability property op literal =>
      exact determined_comparisonSelects capabilities
        (answers (capability, property) (by simp [comparisons])) op literal
  | all operands => exact determined_selectsAll capabilities operands answers
  | any operands => exact determined_selectsAny capabilities operands answers

theorem determined_selectsAll
    (capabilities : Run.Determined steady steady device.capabilities)
    (operands : List Predicate)
    (answers : ∀ compared ∈ comparisonsOf operands,
      Run.Determined steady steady
      (device.property compared.1 compared.2 .fetched)) :
    Run.Determined steady steady (selectsAll device operands) := by
  cases operands with
  | nil => exact .pure true
  | cons operand rest =>
      refine (determined_selects capabilities operand fun compared member =>
        answers compared (List.mem_append_left _ member)).bind fun answer => ?_
      cases answer with
      | false => exact .pure false
      | true =>
          exact determined_selectsAll capabilities rest fun compared member =>
            answers compared (List.mem_append_right _ member)

theorem determined_selectsAny
    (capabilities : Run.Determined steady steady device.capabilities)
    (operands : List Predicate)
    (answers : ∀ compared ∈ comparisonsOf operands,
      Run.Determined steady steady
      (device.property compared.1 compared.2 .fetched)) :
    Run.Determined steady steady (selectsAny device operands) := by
  cases operands with
  | nil => exact .pure false
  | cons operand rest =>
      refine (determined_selects capabilities operand fun compared member =>
        answers compared (List.mem_append_left _ member)).bind fun answer => ?_
      cases answer with
      | true => exact .pure true
      | false =>
          exact determined_selectsAny capabilities rest fun compared member =>
            answers compared (List.mem_append_right _ member)

end

end Judgement

end Predicate

namespace Outlook

variable {σ : Type}

def identifierPrefix (outlook : Outlook σ) : String :=
  outlook.settings.config.identifierPrefix

/-- There is an object for the identifier, or one will be made. -/
def Offers (outlook : Outlook σ) (udi : String) : Prop :=
  udi = outlook.identifierPrefix ∨ outlook.devices.contains udi = true

/-- The object that is made for an identifier. -/
def formOf (outlook : Outlook σ) (udi : String) : ServiceObject :=
  if udi = outlook.identifierPrefix then .root udi else .tracked udi

/-- The capabilities that the interfaces of a device mean. -/
def capabilitiesOf (outlook : Outlook σ) (udi : String) : List Capability :=
  let names := (outlook.devices[udi]?.map Snapshot.names).getD []
  let meant := names.filterMap outlook.settings.config.meaning?
  Capability.collect fun capability =>
    capability == .genericInterface || meant.contains capability

end Outlook

namespace ServiceBackend

variable {σ α : Type} {outlook : Outlook σ} {backend : ServiceBackend σ}
  {udi name : String}

/-- The cache of the backend is as foreseen, loaded or not. -/
structure Holds (outlook : Outlook σ) (backend : ServiceBackend σ) : Prop where
  settings : backend.settings = outlook.settings
  cache : outlook.Covers backend.cache

/-- The cache of the backend is loaded. -/
structure Displays (outlook : Outlook σ) (backend : ServiceBackend σ) :
    Prop where
  settings : backend.settings = outlook.settings
  cache : outlook.Shows backend.cache

theorem Displays.holds (displays : Displays outlook backend) :
    Holds outlook backend :=
  ⟨displays.settings, .inl displays.cache⟩

theorem Holds.displays (holds : Holds outlook backend)
    (tracked : backend.tracks udi = true) :
    Displays outlook backend := by
  rcases holds.cache with shows | awaits
  · exact ⟨holds.settings, shows⟩
  · rw [tracks, Cache.tracks_eq_false_of_isEmpty awaits.empty] at tracked
    contradiction

theorem Holds.identifierPrefix (holds : Holds outlook backend) :
    backend.identifierPrefix = outlook.identifierPrefix := by
  rw [ServiceBackend.identifierPrefix, config, holds.settings]
  rfl

theorem answers_onCache {step : CacheSettings σ → Run (Cache σ) α} {answer : α}
    {before : Cache σ → Prop} {start : ServiceBackend σ → Prop}
    (answers : Run.Answers before outlook.Shows (step outlook.settings) answer)
    (settings : ∀ backend, start backend → backend.settings = outlook.settings)
    (viewed : ∀ backend, start backend → before backend.cache) :
    Run.Answers start (Displays outlook) (onCache step) answer := by
  intro backend holds
  rw [onCache, Run.yields_bind, Run.yields_get, settings backend holds]
  exact answers.zoom viewed
    (fun whole holds cache shows => ⟨settings whole holds, shows⟩) backend holds

theorem determined_onCache {step : CacheSettings σ → Run (Cache σ) α}
    (determined : Run.Determined outlook.Shows outlook.Shows
      (step outlook.settings)) :
    Run.Determined (Displays outlook) (Displays outlook) (onCache step) := by
  obtain ⟨answer, _, answers⟩ := determined
  exact ⟨answer, trivial, answers_onCache answers
    (fun _ displays => displays.settings) fun _ displays => displays.cache⟩

variable [Service σ]

theorem determined_firstRead (right : outlook.Right) (udi : String)
    (unwatched : name ∉ outlook.watched) (interfaces : List String) :
    Run.Determined (Displays outlook) (Displays outlook)
      (firstRead udi name .fetched interfaces) := by
  induction interfaces with
  | nil => exact .pure none
  | cons interface rest induction =>
      have read : Run.Determined (Displays outlook) (Displays outlook)
          (onCache fun _ => Cache.read ⟨udi, interface, name⟩ .fetched) :=
        determined_onCache (Outlook.determined_read right (.inl unwatched))
      have asked : Run.Determined (Displays outlook) (Displays outlook)
          ((onCache fun _ => Cache.read ⟨udi, interface, name⟩ .fetched) >>=
              fun answer => answer.elim (firstRead udi name .fetched rest)
                  fun value => pure (some value)) := by
        refine read.bind fun answer => ?_
        cases answer with
        | some value => exact .pure _
        | none => exact induction
      cases present : outlook.devices[udi]?.any
          fun snapshot => snapshot.hasInterface interface with
      | true =>
          refine Run.Settles.bindGet (fun backend displays => ?_) asked
          rw [displays.cache.hasInterface, present, if_pos rfl]
          refine congrArg (_ >>= ·) (funext fun answer => ?_)
          cases answer <;> rfl
      | false =>
          refine Run.Settles.bindGet (fun backend displays => ?_) induction
          rw [displays.cache.hasInterface, present]
          rfl

theorem determined_capabilityProperty (right : outlook.Right) (udi : String)
    (capability : Capability) (unwatched : name ∉ outlook.watched) :
    Run.Determined (Displays outlook) (Displays outlook)
      (capabilityProperty udi capability name .fetched) := by
  refine Run.Settles.bindGet (fun backend displays => ?_)
    (determined_firstRead right udi unwatched
      (outlook.settings.config.interfacesOf capability))
  rw [config, displays.settings]

theorem determined_mountPoints (right : outlook.Right) (udi : String)
    (unwatched : ∀ points, outlook.settings.config.mountPointsProperty =
      some points → points ∉ outlook.watched) :
    Run.Determined (Displays outlook) (Displays outlook)
      (mountPoints udi .fetched) := by
  cases reported : outlook.settings.config.mountPointsProperty with
  | none =>
      refine Run.Settles.bindGet (fun backend displays => ?_)
        (Run.Determined.pure none)
      rw [config, displays.settings, reported]
  | some points =>
      have read :=
        determined_capabilityProperty right udi .storageAccess
          (unwatched points reported)
      refine Run.Settles.bindGet (fun backend displays => ?_)
        (read.map fun value => (value.bind mountPointsIn).map fun points =>
          points.filter (· != ""))
      rw [config, displays.settings, reported]

theorem determined_derivedProperty (right : outlook.Right) (udi : String)
    (unwatched : name = StorageView.mountPathProperty ∨
      name = StorageView.accessibleProperty → ∀ points,
      outlook.settings.config.mountPointsProperty = some points →
      points ∉ outlook.watched) :
    Run.Determined (Displays outlook) (Displays outlook)
      (derivedProperty udi name .fetched) := by
  unfold derivedProperty
  split
  · next path =>
      exact (determined_mountPoints right udi (unwatched (.inl path))).map _
  · split
    · next flag =>
        exact (determined_mountPoints right udi (unwatched (.inr flag))).map _
    · exact .pure none

/-- A property is answered as foreseen if it is either watched and asked of any
interface, or not watched, nor the one it is derived from, and asked of those
that mean a capability. -/
theorem determined_property (right : outlook.Right) (udi : String)
    {capability : Capability}
    (generic : capability = .genericInterface → name ∈ outlook.watched)
    (single : ∀ read ∈ Predicate.singleReads outlook.settings.config
      (capability, name), read ∉ outlook.watched) :
    Run.Determined (Displays outlook) (Displays outlook)
      (property udi capability name .fetched) := by
  unfold property
  split
  · next isGeneric =>
      exact determined_onCache
        (Outlook.determined_readAnywhere right udi (generic isGeneric))
  · next isSpecial =>
      have unwatched : name ∉ outlook.watched := by
        refine single name ?_
        simp only [Predicate.singleReads, if_neg isSpecial]
        split <;> simp
      refine (determined_capabilityProperty right udi capability unwatched).bind
        fun answer => ?_
      cases answer with
      | some value => exact .pure _
      | none =>
          dsimp only
          split
          · next storage =>
              refine determined_derivedProperty right udi
                  fun derived points reported => single points ?_
              simp [Predicate.singleReads, storage, derived, reported]
          · exact .pure none

theorem determined_parentOf (right : outlook.Right) (udi : String)
    (unwatched : ∀ parent, outlook.settings.config.parentProperty =
      some parent → parent ∉ outlook.watched) :
    Run.Determined (Displays outlook) (Displays outlook) (parentOf udi) := by
  cases reported : outlook.settings.config.parentProperty with
  | none =>
      refine Run.Settles.bindGet (fun backend displays => ?_)
        (Run.Determined.pure outlook.settings.config.identifierPrefix)
      simp only [config, displays.settings, reported]
  | some parent =>
      have read : Run.Determined (Displays outlook) (Displays outlook)
          (onCache fun _ => Cache.read
              ⟨udi, outlook.settings.config.baselineInterface,
                parent⟩ .fetched) :=
        determined_onCache (Outlook.determined_read right
          (.inl (unwatched parent reported)))
      refine Run.Settles.bindGet (fun backend displays => ?_)
          (read.map fun value => ((value.bind Value.toText?).filter
            fun path => path != "" && path != "/").getD
          outlook.settings.config.identifierPrefix)
      simp only [config, displays.settings, reported]

omit [Service σ] in
theorem Displays.capabilitiesOf {backend : ServiceBackend σ}
    (displays : Displays outlook backend) (udi : String) :
    backend.capabilitiesOf udi = outlook.capabilitiesOf udi := by
  rw [ServiceBackend.capabilitiesOf, displays.cache.interfacesOf, config,
    displays.settings]
  rfl

theorem answers_capabilities (udi : String) :
    Run.Answers (Displays outlook) (Displays outlook)
      (trackedDevice udi : Device (Run (ServiceBackend σ))).capabilities
      (outlook.capabilitiesOf udi) :=
  fun _ displays => ⟨displays.capabilitiesOf udi, displays⟩

theorem answers_identifiers (right : outlook.Right) :
    Run.Answers (Holds outlook) (Displays outlook) (onCache Cache.identifiers)
      outlook.devices.keys :=
  answers_onCache (Outlook.answers_identifiers right)
    (fun _ holds => holds.settings) fun _ holds => holds.cache

section Listing

variable {parent : Option String} {parentAt : String → String}

theorem answers_reports (capability : Option Capability) (udi : String) :
    Run.Answers (Displays outlook) (Displays outlook) (reports udi capability)
      (capability.all (outlook.capabilitiesOf udi).contains) := by
  cases capability with
  | none => exact fun _ displays => ⟨rfl, displays⟩
  | some capability =>
      exact (answers_capabilities udi).bind fun _ displays => ⟨rfl, displays⟩

theorem answers_isUnder
    (answers : ∀ place ∈ parent, Run.Answers (Displays outlook)
      (Displays outlook) (parentOf udi) (parentAt udi)) :
    Run.Answers (Displays outlook) (Displays outlook) (isUnder udi parent)
      (parent.all (parentAt udi == ·)) := by
  cases parent with
  | none => exact fun _ displays => ⟨rfl, displays⟩
  | some place =>
      exact (answers place rfl).bind fun _ displays => ⟨rfl, displays⟩

/-- A backend lists those devices that answer what is asked for. Their parents
matter only where one is given. -/
theorem answers_list (right : outlook.Right)
    (answers : ∀ place ∈ parent, ∀ udi, Run.Answers (Displays outlook)
      (Displays outlook) (parentOf udi) (parentAt udi))
    (capability : Option Capability) :
    Run.Answers (Holds outlook) (Displays outlook) (list parent capability)
      (outlook.devices.keys.filter fun udi =>
        capability.all (outlook.capabilitiesOf udi).contains &&
          parent.all (parentAt udi == ·)) := by
  refine (answers_identifiers right).bind (.filterM (fun udi => ?_) _)
  refine (answers_reports capability udi).bind ?_
  cases capability.all (outlook.capabilitiesOf udi).contains with
  | false => exact fun _ displays => ⟨rfl, displays⟩
  | true => exact answers_isUnder fun place given => answers place given udi

end Listing

section Querying

/-- The names that a query compares whatever interface has them are watched, and
it reads nothing of single interfaces under these. -/
structure Watches (outlook : Outlook σ) (predicate : Predicate)
    (parent : Option String) :
    Prop where
  watched : outlook.watched = predicate.genericNames
  unmixed : predicate.Unmixed outlook.settings.config parent

variable {predicate : Predicate} {parent : Option String}

omit [Service σ] in
theorem Watches.notMem (watches : Watches outlook predicate parent)
    {read : String}
    (reads : read ∈ predicate.namesRead outlook.settings.config parent) :
    read ∉ outlook.watched := by
  rw [watches.watched]
  exact fun generic => watches.unmixed read generic reads

/-- Of a loaded backend, what a query compares is answered as foreseen. -/
theorem determined_compared (right : outlook.Right)
    (watches : Watches outlook predicate parent) (udi : String) :
    ∀ compared ∈ predicate.comparisons, Run.Determined (Displays outlook)
      (Displays outlook) (property udi compared.1 compared.2 .fetched) := by
  intro compared member
  refine determined_property right udi ?_ ?_
  · intro generic
    rw [watches.watched]
    exact List.mem_filterMap.mpr ⟨compared, member, if_pos generic⟩
  · intro read reads
    exact watches.notMem (List.mem_append_left _
      (List.mem_flatMap.mpr ⟨compared, member, reads⟩))

/-- A backend lists the same devices each time, and only those it is foreseen to
hold. -/
theorem settles_list (right : outlook.Right)
    (watches : Watches outlook predicate parent)
    (capability : Option Capability) :
    Run.Settles (fun ids => ∀ udi ∈ ids, outlook.devices.contains udi = true)
      (Holds outlook) (Displays outlook) (list parent capability) := by
  have placed : ∃ parentAt : String → String, ∀ place ∈ parent, ∀ udi,
      Run.Answers (Displays outlook) (Displays outlook) (parentOf udi)
          (parentAt udi) := by
    cases parent with
    | none => exact ⟨fun _ => "", fun _ none => by cases none⟩
    | some parent =>
        have determined (udi : String) : Run.Determined (Displays outlook)
          (Displays outlook) (parentOf udi) := by
          refine determined_parentOf right udi fun name reported =>
            watches.notMem (List.mem_append_right _ ?_)
          simp [reported]
        choose parentAt _ answers using determined
        exact ⟨parentAt, fun _ _ => answers⟩
  obtain ⟨parentAt, answers⟩ := placed
  refine ⟨_, fun udi member => ?_, answers_list right answers capability⟩
  exact Std.ExtTreeMap.contains_iff_mem.mpr
    (Std.ExtTreeMap.mem_keys.mp (List.mem_filter.mp member).1)

end Querying

theorem yields_objectOf_foreseen (right : outlook.Right)
    (holds : Holds outlook backend) (wellKept : backend.WellKept)
    (udi : String) :
    (objectOf udi).Yields backend
      (fun found left => (found.isSome = true ↔ outlook.Offers udi) ∧
        Holds outlook left ∧
        (Displays outlook backend → Displays outlook left) ∧
        (found.isSome = true → udi ≠ outlook.identifierPrefix →
          Displays outlook left))
      fun _ => False := by
  rw [objectOf, Run.yields_bind, Run.yields_get]
  cases held : backend.objects[udi]? with
  | some kept =>
      have housed := wellKept.housed udi kept held
      rw [holds.identifierPrefix] at housed
      refine ⟨⟨fun _ => ?_, fun _ => rfl⟩, holds, id, fun _ notPrefix => ?_⟩
      · refine housed.imp_right fun tracked => ?_
        rw [← (holds.displays tracked).cache.tracks]
        exact tracked
      · exact holds.displays (housed.resolve_left notPrefix)
  | none =>
      change Run.Yields (if udi = backend.identifierPrefix then _ else _) _ _ _
      rw [holds.identifierPrefix]
      split
      · next isPrefix =>
          exact ⟨⟨fun _ => .inl isPrefix, fun _ => rfl⟩,
            ⟨holds.settings, holds.cache⟩,
            fun displays => ⟨displays.settings, displays.cache⟩,
              fun _ => (absurd isPrefix ·)⟩
      · next notPrefix =>
          have contains := Outlook.yields_contains right holds.cache udi
          rw [← holds.settings] at contains
          rw [Run.yields_bind, yields_onCache]
          refine contains.mono ?_ fun _ none => none
          intro answer cache outcome
          obtain ⟨rfl, shows⟩ := outcome
          have displays : Displays outlook { backend with cache := cache } :=
            ⟨holds.settings, shows⟩
          split
          · next contained =>
              exact ⟨⟨fun _ => .inr contained, fun _ => rfl⟩,
                ⟨holds.settings, .inl shows⟩,
                fun _ => ⟨holds.settings, shows⟩,
                  fun _ _ => ⟨holds.settings, shows⟩⟩
          · next missing =>
              refine ⟨⟨fun isSome => by simp at isSome, fun offers => ?_⟩,
                displays.holds, fun _ => displays, fun _ _ => displays⟩
              exact (missing (offers.resolve_left notPrefix)).elim

end ServiceBackend

end Hotplug
