import Hotplug.Proofs.Cache.Coherence

/-!
# Steps that keep a cache coherent

Reading and reloading keep a coherent cache coherent. Handling a truthful signal
makes a cache coherent again whose stale slots are among those of the signal.
-/

namespace Hotplug

namespace Cache

variable {settings : CacheSettings MemoryService} {cache : Cache MemoryService}
  {stale : PropertyKey → Prop} {config : Config}

section Calls

theorem yields_call_getProperty {key : PropertyKey}
    {after : Except ServiceError Value → Cache MemoryService → Prop}
    {failed : Cache MemoryService → Prop} :
    (call (Service.getProperty key)).Yields cache after failed ↔
      after (cache.service.answerProperty key)
        { cache with service := cache.service.record (.getProperty key) } := by
  rw [call, Run.yields_zoom]
  rfl

theorem yields_call_getAll {udi interface : String}
    {after : Except ServiceError Properties → Cache MemoryService → Prop}
    {failed : Cache MemoryService → Prop} :
    (call (Service.getAll udi interface)).Yields cache after failed ↔
      after (cache.service.answerAll udi interface)
        { cache with service := cache.service.record (.getAll
          udi interface) } := by
  rw [call, Run.yields_zoom]
  rfl

theorem yields_call_managedObjects
    {after : Except ServiceError Objects → Cache MemoryService → Prop}
    {failed : Cache MemoryService → Prop} :
    (call Service.managedObjects).Yields cache after failed ↔
      after (.ok cache.service.objects)
        { cache with service := cache.service.record .managedObjects } := by
  rw [call, Run.yields_zoom]
  rfl

theorem Judged.sameContent (onlyAsks : settings.judge.OnlyAsks) {udi : String}
    {size : UInt64} {changed : Properties} {events : List DeviceEvent}
    {left : Cache MemoryService}
    (judged : Judged settings udi size changed cache events left) :
    left.service.forgetCalls = cache.service.forgetCalls := by
  rcases judged.service with same | asked
  · rw [same]
  · rw [asked]
    exact onlyAsks _ _ _ _

end Calls

section Reading

theorem yields_reload (coherent : cache.Coherent settings.config stale) :
    (reload settings).Yields cache
      (fun _ left => left.Coherent settings.config Fresh) (fun _ => False) := by
  simp only [reload, Run.yields_bind, yields_call_managedObjects,
    Run.yields_modify, Run.yields_get, Run.yields_pure]
  refine ⟨?_, coherent.idle, ?_, ?_⟩
  · exact ⟨coherent.isOpen.noneHidden, coherent.isOpen.noneFailing⟩
  · intro udi snapshot found
    simp only [Except.toOption, Option.getD_some, admitted,
      Std.ExtTreeMap.getElem?_map, Std.ExtTreeMap.getElem?_filter'] at found
    cases held : cache.service.objects[udi]? with
    | none => simp [held] at found
    | some interfaces =>
        simp only [held, Option.filter_some, Option.map_eq_some_iff] at found
        obtain ⟨_, kept, _⟩ := found
        split at kept
        · next admits => simpa using (Bool.and_eq_true_iff.mp admits).2
        · contradiction
  · intro key snapshot found slot has
    left
    simp only [Except.toOption, Option.getD_some, admitted,
      Std.ExtTreeMap.getElem?_map, Std.ExtTreeMap.getElem?_filter'] at found
    cases held : cache.service.objects[key.udi]? with
    | none => simp [held] at found
    | some interfaces =>
        simp only [held, Option.filter_some, Option.map_eq_some_iff] at found
        obtain ⟨kept, passed, rfl⟩ := found
        split at passed
        · obtain rfl : interfaces = kept := by simpa using passed
          rw [Snapshot.slot?_ofInterfaces] at has
          have value : cache.service.value? key =
              interfaces[key.interface]?.bind (·[key.property]?) := by
            simp [MemoryService.value?, MemoryService.properties?, held]
          simp only [Interfaces.plain, Std.ExtTreeMap.getElem?_map] at has
          change slot.Tells (cache.service.value? key)
          rw [value]
          cases here : interfaces[key.interface]? with
          | none => simp [here] at has
          | some properties =>
              simp only [here, Option.map_some, Option.bind_some,
                Properties.getElem?_plain] at has
              obtain ⟨plain, isPlain, rfl⟩ := Option.map_eq_some_iff.mp has
              simpa [Slot.Tells] using isPlain
        · contradiction

theorem keeps_loadIfEmpty :
    Run.Keeps (Coherent settings.config Fresh) (loadIfEmpty settings) := by
  intro cache coherent
  simp only [loadIfEmpty, Run.yields_bind, Run.yields_get]
  split
  · simp only [Run.yields_bind, Run.yields_pure]
    exact (yields_reload coherent).mono (fun _ _ reloaded => reloaded)
      (fun _ impossible => impossible.elim)
  · simpa using coherent

/-- What a reader of a coherent cache may find without asking the service. -/
theorem Coherent.glance_eq (coherent : cache.Coherent config Fresh)
    {key : PropertyKey} {answer : Option Value}
    (settled : cache.glance key .fetched = .settled answer)
    (carried : cache.hasInterface key.udi key.interface = true) :
    answer = (cache.service.value? key).map Value.plain := by
  simp only [glance] at settled
  simp only [hasInterface] at carried
  cases found : cache.devices[key.udi]? with
  | none => simp [found] at carried
  | some snapshot =>
      simp only [found] at settled carried
      rw [if_pos carried] at settled
      cases has : snapshot.slot? key.interface key.property with
      | none => simp [has, coherent.idle] at settled
      | some slot =>
          have told := coherent.tells key snapshot found slot has
          simp only [has] at settled
          cases slot with
          | resolved value =>
              simp only [Glance.settled.injEq] at settled
              simpa [← settled, Slot.Tells, eq_comm] using told
          | absent =>
              simp only [Glance.settled.injEq] at settled
              simp only [Slot.Tells, or_false] at told
              simp [← settled, told]
          | unresolved => simp [coherent.idle] at settled

theorem Coherent.storeSlot (coherent : cache.Coherent config Fresh)
    (key : PropertyKey) :
    (cache.storeSlot key (slotOf (cache.service.answerProperty key))).Coherent
      config Fresh := by
  refine coherent.onDevice (fun _ _ stale => stale) ?_
  intro snapshot found interface property slot has
  left
  rw [Snapshot.slot?_update] at has
  split at has
  · next here =>
      obtain ⟨rfl, rfl, _⟩ := here
      rw [MemoryService.slotOf_answerProperty coherent.isOpen] at has
      obtain rfl := Option.some.inj has
      change Slot.Tells (cache.service.value? key) _
      cases held : cache.service.value? key <;> simp [Slot.Tells]
  · exact (coherent.tells ⟨key.udi, interface, property⟩ snapshot found
      slot has).resolve_right (fun impossible => impossible)

/-- Reading never crashes on a service in memory. It keeps the cache coherent,
and a fetching read of an interface that the device has answers what the service
holds. -/
theorem yields_read (coherent : cache.Coherent config Fresh) (key : PropertyKey)
    (reach : Reach) :
    (read key reach).Yields cache
      (fun answer left => left.Coherent config Fresh ∧
        (reach = .fetched → cache.hasInterface key.udi key.interface = true →
          answer = (cache.service.value? key).map Value.plain))
      (fun _ => False) := by
  simp only [read, Run.yields_bind, Run.yields_get]
  cases glanced : cache.glance key reach with
  | settled answer =>
      refine ⟨coherent, ?_⟩
      intro same carried
      obtain rfl := same
      exact coherent.glance_eq glanced carried
  | busy =>
      have idle := coherent.idle
      simp only [glance] at glanced
      repeat' split at glanced
      all_goals simp_all
  | free =>
      simp only [Run.yields_bind, Run.yields_modify,
        Run.yields_ensuring, fetchClaimed,
        yields_call_getProperty, Run.yields_pure]
      have fetched := coherent.storeSlot key
      refine ⟨⟨⟨coherent.isOpen.noneHidden, coherent.isOpen.noneFailing⟩, ?_,
        fetched.admitted, fetched.tells⟩, ?_⟩
      · simp [release, storeSlot, Cache.onDevice, claim, coherent.idle]
      · intro _ _
        change (slotOf (cache.service.answerProperty key)).value? = _
        rw [MemoryService.slotOf_answerProperty coherent.isOpen]
        cases cache.service.value? key <;> rfl

theorem keeps_read (key : PropertyKey) (reach : Reach) :
    Run.Keeps (Coherent config Fresh) (read key reach) := by
  intro cache coherent
  exact (yields_read coherent key reach).mono (fun _ _ both => both.1)
    (fun _ impossible => impossible.elim)

theorem keeps_readAnywhere (udi property : String) (reach : Reach) :
    Run.Keeps (Coherent config Fresh) (readAnywhere udi property reach) := by
  intro cache coherent
  simp only [readAnywhere, Run.yields_bind, Run.yields_get]
  split
  · exact coherent
  · exact keeps_read _ _ cache coherent

end Reading

section Signals

variable {udi : String}

/-- The slots of interfaces that wait to be loaded again, of those that the
service holds according to `holds`. -/
def Waiting (udi : String) (names : List String) (holds : String → Prop) :
    PropertyKey → Prop := fun key =>
  key.udi = udi ∧ key.interface ∈ names ∧ holds key.interface

theorem yields_refetch {first : String} {names : List String}
    {holds : String → Prop}
    (held : ∀ interface, holds interface →
      (cache.service.properties? udi interface).isSome = true)
    (coherent : cache.Coherent config (Waiting udi (first :: names) holds)) :
    (refetch udi first).Yields cache
      (fun _ left => left.Coherent config (Waiting udi names holds) ∧
        left.service.forgetCalls = cache.service.forgetCalls)
      (fun _ => False) := by
  have stillWaiting {key : PropertyKey}
    (waiting : Waiting udi (first :: names) holds key)
      (other : first ≠ key.interface) : Waiting udi names holds key := by
    obtain ⟨same, member, holding⟩ := waiting
    exact ⟨same, (List.mem_cons.mp member).resolve_left (Ne.symm other),
      holding⟩
  have recorded : Coherent config _
      { cache with service := cache.service.record (.getAll udi first) } :=
    coherent.of_sameContent rfl
  have answered := MemoryService.toOption_answerAll coherent.isOpen udi first
  simp only [refetch, Run.yields_bind, yields_call_getAll]
  cases reply : cache.service.answerAll udi first with
  | ok properties =>
      rw [reply] at answered
      refine ⟨recorded.onDevice
        (fun key other waiting => (other waiting.1).elim) ?_, rfl⟩
      intro snapshot found interface property slot has
      rw [Snapshot.slot?_put] at has
      by_cases here : first = interface
      · left
        subst interface
        rw [if_pos rfl, Properties.getElem?_plain] at has
        obtain ⟨value, isPlain, rfl⟩ := Option.map_eq_some_iff.mp has
        change (cache.service.value? ⟨udi, first, property⟩).map Value.plain =
          some value
        simpa [MemoryService.value?, ← answered, Except.toOption] using isPlain
      · rw [if_neg here] at has
        exact (recorded.tells ⟨udi, interface, property⟩ snapshot found
          slot has).imp_right fun waiting => stillWaiting waiting here
  | error reason =>
      rw [reply] at answered
      refine ⟨⟨recorded.isOpen, recorded.idle, recorded.admitted, ?_⟩, rfl⟩
      intro key snapshot found slot has
      refine (recorded.tells key snapshot found slot has).imp_right
        fun waiting => ?_
      refine stillWaiting waiting ?_
      intro same
      obtain rfl := same
      have holding := held _ waiting.2.2
      rw [← answered] at holding
      contradiction

theorem yields_refetchAll {names : List String} {holds : String → Prop}
    (held : ∀ interface, holds interface →
      (cache.service.properties? udi interface).isSome = true)
    (coherent : cache.Coherent config (Waiting udi names holds)) :
    (names.forM (refetch udi)).Yields cache
      (fun _ left => left.Coherent config Fresh) (fun _ => False) := by
  induction names generalizing cache with
  | nil =>
      refine ⟨coherent.isOpen, coherent.idle, coherent.admitted, ?_⟩
      intro key snapshot found slot has
      exact (coherent.tells key snapshot found slot has).imp_right
        fun waiting => by simpa using waiting.2.1
  | cons first names induction =>
      rw [Run.yields_forM_cons]
      refine (yields_refetch held coherent).mono ?_
        (fun _ impossible => impossible)
      intro _ left outcome
      obtain ⟨settled, same⟩ := outcome
      refine induction ?_ settled
      intro interface holding
      have unchanged : left.service.objects = cache.service.objects := by
        simpa [MemoryService.forgetCalls]
          using congrArg MemoryService.objects same
      simpa only [MemoryService.properties?, unchanged]
        using held interface holding

theorem yields_absorbAdded {interfaces : Interfaces}
    (baselineAdmitted : settings.config.admitsInterface
      settings.config.baselineInterface = true)
    (named : udi ≠ "")
    (truthful : ∀ interface properties,
      interfaces[interface]? = some properties →
      cache.service.properties? udi interface = some properties)
    (coherent : cache.Coherent settings.config fun key => key.udi = udi ∧
      interfaces[key.interface]?.isSome = true) :
    (absorbAdded settings udi interfaces).Yields cache
      (fun _ left => left.Coherent settings.config Fresh) (fun _ => False) := by
  simp only [absorbAdded]
  split
  · next dropped =>
      have untracked := coherent.untracked_of_leavesOut
        (dropped.resolve_left named)
      exact coherent.of_untracked untracked fun _ other stale =>
        (other stale.1).elim
  · next admitted =>
      have kept : settings.config.leavesOut udi = false := by
        simpa using fun leftOut => admitted (Or.inr leftOut)
      simp only [Run.yields_bind, Run.yields_get, Run.yields_modify,
        Run.yields_pure]
      have held (interface : String)
        (holding : interfaces[interface]?.isSome = true) :
          (cache.service.properties? udi interface).isSome = true := by
        obtain ⟨properties, found⟩ := Option.isSome_iff_exists.mp holding
        simp [truthful interface properties found]
      refine yields_refetchAll held
        (coherent.insert kept (fun _ other stale => (other stale.1).elim) ?_)
      intro interface property slot has
      rw [Snapshot.slot?_announce] at has
      split at has
      · next properties found =>
          left
          obtain ⟨_, announced⟩ := Option.ite_none_right_eq_some.mp found
          rw [Option.map_map, Option.map_eq_some_iff] at has
          obtain ⟨value, here, rfl⟩ := has
          simp [MemoryService.value?, truthful interface properties announced,
            here, Slot.Tells]
      · next notTaken =>
          cases found : cache.devices[udi]? with
          | none => simp [found] at has
          | some snapshot =>
              simp only [found, Option.getD_some] at has ⊢
              refine (coherent.tells ⟨udi, interface, property⟩
                snapshot found slot has).imp_right
                  fun stale => ⟨rfl, ?_, stale.2⟩
              have carried : interface ∈ snapshot.interfaces := by
                rw [Snapshot.slot?_eq_bind] at has
                rw [Std.ExtTreeMap.mem_iff_isSome_getElem?]
                cases slots : snapshot.interfaces[interface]? <;>
                  simp [slots] at has ⊢
              -- The baseline is not loaded again, so it must have been taken
              -- over.
              have notBaseline :
                  interface ≠ settings.config.baselineInterface := by
                intro same
                obtain rfl := same
                rw [if_pos baselineAdmitted] at notTaken
                simp [notTaken] at stale
              simp [Snapshot.names, carried, notBaseline]

theorem yields_absorbRemoved {interfaces : List String} (named : udi ≠ "")
    (coherent : cache.Coherent settings.config fun key =>
      key.udi = udi ∧ key.interface ∈ interfaces) :
    (absorbRemoved settings udi interfaces).Yields cache
      (fun _ left => left.Coherent settings.config Fresh) (fun _ => False) := by
  have elsewhere (key : PropertyKey) (other : key.udi ≠ udi)
      (stale : key.udi = udi ∧ key.interface ∈ interfaces) :
        Fresh key := other stale.1
  simp only [absorbRemoved]
  split
  · next dropped =>
      have untracked := coherent.untracked_of_leavesOut
        (dropped.resolve_left named)
      exact coherent.of_untracked untracked elsewhere
  · simp only [Run.yields_bind, Run.yields_get]
    split
    · next untracked => exact coherent.of_untracked untracked elsewhere
    · next snapshot found =>
        split
        · simp only [Run.yields_bind, Run.yields_modify, Run.yields_pure]
          exact coherent.erase elsewhere
        · simp only [Run.yields_bind, Run.yields_modify, Run.yields_pure]
          refine coherent.insert (coherent.admitted udi snapshot found)
            elsewhere ?_
          intro interface property slot has
          rw [Snapshot.slot?_foldl_drop] at has
          obtain ⟨notTaken, has⟩ := Option.ite_none_left_eq_some.mp has
          exact (coherent.tells ⟨udi, interface, property⟩ snapshot found
            slot has).imp_right fun stale => notTaken stale.2

theorem yields_absorbMedia (onlyAsks : settings.judge.OnlyAsks) {size : UInt64}
    {changed : Properties} (kept : settings.config.leavesOut udi = false)
    (truthful : ∀ name value, changed[name]? = some value →
      (cache.service.value? ⟨udi, settings.config.baselineInterface, name⟩).map
      Value.plain = some value)
    (coherent : cache.Coherent settings.config Fresh) :
    (absorbMedia settings udi (cache.tracks udi) size changed).Yields cache
      (fun _ left => left.Coherent settings.config Fresh)
      (fun left => left.Coherent settings.config Fresh) := by
  have elsewhere (key : PropertyKey) (_ : key.udi ≠ udi) (stale : Fresh key) :
    Fresh key := stale
  refine yields_absorbMedia_judged.mono ?_ ?_
  · rintro events ⟨service, devices, inflight⟩ judged
    have same : service.forgetCalls = cache.service.forgetCalls :=
      judged.sameContent onlyAsks
    have asked := coherent.of_sameContent same
    obtain rfl : inflight = cache.inflight := judged.claims
    rcases judged.cases with ⟨-, rfl⟩ | ⟨-, -, rfl⟩ | ⟨-, -, rfl⟩
    · exact asked
    · refine asked.insert kept elsewhere ?_
      intro interface property slot has
      left
      rw [Snapshot.slot?_put] at has
      split at has
      · next here =>
          subst interface
          obtain ⟨value, changedTo, rfl⟩ := Option.map_eq_some_iff.mp has
          have unchanged : service.objects = cache.service.objects := by
            simpa [MemoryService.forgetCalls]
              using congrArg MemoryService.objects same
          have told := truthful property value changedTo
          simpa only [Slot.Tells, MemoryService.value?,
            MemoryService.properties?, unchanged] using told
      · simp at has
    · exact asked.erase elsewhere
  · rintro left ⟨rfl, -⟩
    exact coherent.of_sameContent (onlyAsks _ _ _ _)

/-- Changed properties with the values of the service, and invalidated ones,
make the cache coherent. -/
theorem yields_absorbChanged (onlyAsks : settings.judge.OnlyAsks)
    {interface : String} {changed : Properties} {invalidated : List String}
    (named : udi ≠ "")
    (owned : Text.startsBy udi settings.config.identifierPrefix = true)
    (truthful : ∀ name value, changed[name]? = some value →
      cache.service.value? ⟨udi, interface, name⟩ = some value)
    (coherent : cache.Coherent settings.config fun key => key.udi = udi ∧
      key.interface = interface ∧
      (changed[key.property]?.isSome = true ∨ key.property ∈ invalidated)) :
    (absorbChanged settings udi interface changed invalidated).Yields cache
      (fun _ left => left.Coherent settings.config Fresh)
      (fun left => left.Coherent settings.config Fresh) := by
  by_cases dropped : udi = "" ∨
    ¬Text.startsBy udi settings.config.identifierPrefix = true ∨
      settings.config.leavesOut udi = true
  · have leftOut : settings.config.leavesOut udi = true := by
      simpa [named, owned] using dropped
    have untracked := coherent.untracked_of_leavesOut leftOut
    rw [absorbChanged_of_dropped dropped]
    exact coherent.of_untracked untracked fun _ other stale =>
      (other stale.1).elim
  · have kept : settings.config.leavesOut udi = false := by
      simpa [named, owned] using dropped
    have changedCache : Coherent settings.config Fresh
        (cache.onDevice udi fun snapshot =>
          snapshot.applyChanges interface changed.plain invalidated) := by
      refine coherent.onDevice (fun _ other stale => (other stale.1).elim) ?_
      intro snapshot found other property slot has
      left
      rw [Snapshot.slot?_applyChanges, Properties.getElem?_plain] at has
      by_cases here : interface = other
      · subst other
        rw [if_pos rfl] at has
        cases isChanged : changed[property]? with
        | some value =>
            obtain rfl : Slot.resolved value.plain = slot := by
              simpa [isChanged] using has
            simp [Slot.Tells, truthful property value isChanged]
        | none =>
            simp only [isChanged, Option.map_none] at has
            split at has
            · obtain rfl := Option.some.inj has
              trivial
            · next valid =>
                have told := coherent.tells ⟨udi, interface, property⟩
                  snapshot found slot has
                simpa [isChanged, valid] using told
      · rw [if_neg here] at has
        have told := coherent.tells ⟨udi, other, property⟩
          snapshot found slot has
        simpa [Ne.symm here] using told
    rw [yields_absorbChanged_iff dropped]
    split
    · next size reported =>
        obtain ⟨isBaseline, _⟩ := Option.ite_none_right_eq_some.mp reported
        rw [← tracks_onDevice]
        refine yields_absorbMedia onlyAsks kept ?_ changedCache
        intro name value changedTo
        rw [Properties.getElem?_plain] at changedTo
        obtain ⟨raw, isChanged, rfl⟩ := Option.map_eq_some_iff.mp changedTo
        have told := truthful name raw isChanged
        rw [isBaseline] at told
        change (cache.service.value? _).map Value.plain = _
        simp [told]
    · exact changedCache

end Signals

end Cache

end Hotplug
