import Hotplug.Proofs.Cache.Outline
import Hotplug.Proofs.Cache.Transparency

/-!
# Caches that list what a reload would list

A reload makes a cache complete, and so does the first question to a cache that
is empty; the signals of the service keep it so. Emptiness is all that tells a
cache that was never loaded from one that is loaded, so an object that is
announced to an empty cache before it is loaded hides those that the service
held already.
-/

namespace Hotplug

namespace Cache

variable {config : Config} {settings : CacheSettings MemoryService}
  {cache : Cache MemoryService} {udi : String}

section Reading

theorem yields_reload_complete (cache : Cache MemoryService) :
    (reload settings).Yields cache
      (fun ids left => ids = (admitted settings.config
        cache.service.objects).keys ∧ left.Complete settings.config)
      (fun _ => False) := by
  simp only [reload, Run.yields_bind, yields_call_managedObjects,
    Run.yields_modify, Run.yields_get, Run.yields_pure]
  refine ⟨rfl, ?_⟩
  intro udi
  change Outlines (admitted settings.config cache.service.objects)[udi]?
    (listed? settings.config cache.service.objects udi)
  rw [getElem?_admitted]
  cases listed? settings.config cache.service.objects udi with
  | none => exact .missing
  | some interfaces =>
      exact .present fun _ => Snapshot.hasInterface_ofInterfaces interfaces

/-- Once the cache is complete or still empty, the first question makes it
complete. -/
theorem yields_loadIfEmpty_complete
    (ready : cache.Complete settings.config ∨ cache.devices.isEmpty = true) :
    (loadIfEmpty settings).Yields cache
      (fun _ left => left.Complete settings.config ∧
        left.service.objects = cache.service.objects)
      (fun _ => False) := by
  rw [loadIfEmpty, Run.yields_bind, Run.yields_get]
  split
  · rw [Run.yields_bind]
    have kept : (reload settings).Yields cache
        (fun _ left => left.service.objects = cache.service.objects)
            (fun _ => True) := by
      simp only [reload, Run.yields_bind, yields_call_managedObjects,
        Run.yields_modify, Run.yields_get, Run.yields_pure]
      rfl
    exact ((yields_reload_complete cache).and kept).mono
      (fun _ _ both => ⟨both.1.2, both.2⟩) fun _ none => none.1
  · next filled => exact ⟨ready.resolve_right filled, rfl⟩

theorem keeps_read_complete (key : PropertyKey) (reach : Reach) :
    Run.Keeps (Complete config) (read key reach) := by
  intro cache complete
  rw [read, Run.yields_bind, Run.yields_get]
  split
  · exact complete
  · exact complete
  · simp only [Run.yields_bind, Run.yields_modify,
      Run.yields_ensuring, fetchClaimed,
      yields_call_getProperty, Run.yields_pure]
    have stored : Complete config
        (cache.storeSlot key (slotOf (cache.service.answerProperty key))) :=
      complete.onDevice fun _ _ _ => Snapshot.hasInterface_update
    exact stored

theorem keeps_readAnywhere_complete (udi property : String) (reach : Reach) :
    Run.Keeps (Complete config) (readAnywhere udi property reach) := by
  intro cache complete
  rw [readAnywhere, Run.yields_bind, Run.yields_get]
  split
  · exact complete
  · exact keeps_read_complete _ reach cache complete

end Reading

section Signals

theorem yields_refetches_complete {objects : Objects} {names : List String}
    (carried : ∀ snapshot, cache.devices[udi]? = some snapshot → ∀ name ∈ names,
      snapshot.hasInterface name = true)
    (complete : cache.Complete config)
    (same : cache.service.objects = objects) :
    (names.forM (refetch udi)).Yields cache
      (fun _ left => left.Complete config ∧ left.service.objects = objects)
      (fun _ => False) := by
  have held : ∀ left : Cache MemoryService, left.Complete config →
      left.service.objects = objects → ∀ snapshot,
        left.devices[udi]? = some snapshot →
        ∀ name ∈ names, snapshot.hasInterface name = true := by
    intro left completeLeft sameLeft snapshot found name member
    have here := completeLeft udi
    have before := complete udi
    rw [sameLeft, found] at here
    rw [same] at before
    generalize listed? config objects udi = listed at here before
    cases here with
    | present outlined =>
        generalize first : cache.devices[udi]? = earlier at before
        cases before with
        | present outlinedBefore =>
            rw [outlined, ← outlinedBefore]
            exact carried _ first name member
  refine Run.yields_forM
    (fun left : Cache MemoryService => left.Complete config ∧
      left.service.objects = objects)
    ⟨complete, same⟩ ?_
  intro name member left outcome
  obtain ⟨completeLeft, sameLeft⟩ := outcome
  rw [refetch, Run.yields_bind, yields_call_getAll]
  have recorded : Complete config
      { left with service := left.service.record (.getAll udi name) } :=
    completeLeft.of_sameContent rfl
  cases left.service.answerAll udi name with
  | error reason => exact ⟨recorded, sameLeft⟩
  | ok properties =>
      refine ⟨recorded.onDevice ?_, sameLeft⟩
      intro snapshot found interface
      rw [Snapshot.put, Snapshot.hasInterface_insert_iff]
      refine ⟨?_, .inr⟩
      rintro (rfl | has)
      · exact held left completeLeft sameLeft snapshot found name member
      · exact has

theorem yields_absorbAdded_complete {interfaces : Interfaces} (named : udi ≠ "")
    (rooted : settings.config.isUnderRoot udi = true)
    (admits : ∀ interface ∈ interfaces,
      settings.config.admitsInterface interface = true)
    (complete : cache.Complete settings.config) :
    (absorbAdded settings udi interfaces).Yields
      { cache with service := (cache.service.add udi interfaces).2 }
      (fun _ left => left.Complete settings.config) (fun _ => False) := by
  have elsewhere (other : String) (apart : udi ≠ other) :
      (cache.service.add udi interfaces).2.objects[other]? =
          cache.service.objects[other]? := by
    rw [MemoryService.getElem?_objects_add, if_neg apart]
  rw [absorbAdded]
  split
  · next dropped =>
      exact complete.ofLeftOut (dropped.resolve_left named) elsewhere
  · next taken =>
      have kept : settings.config.leavesOut udi = false := by
        simpa using fun leftOut => taken (.inr leftOut)
      simp only [Run.yields_bind, Run.yields_get, Run.yields_modify,
        Run.yields_pure]
      have listed (objects : Objects) : listed? settings.config objects udi =
          objects[udi]? := by
        simp [listed?, rooted, kept]
      have before := (complete udi).getD_iff
      rw [listed] at before
      refine (yields_refetches_complete ?_ ?_ rfl).mono (fun _ _ => And.left)
        fun _ => id
      · intro snapshot found name member
        simp only [Std.ExtTreeMap.getElem?_insert_self,
          Option.some.injEq] at found
        subst found
        apply Snapshot.hasInterface_announce_iff.mpr
        left
        rw [Snapshot.hasInterface_iff_mem]
        simpa [Snapshot.names] using (List.mem_filter.mp member).1
      · refine complete.replaced ?_ elsewhere ?_
        · intro other apart
          simp [Std.ExtTreeMap.getElem?_insert, apart]
        · rw [listed, MemoryService.getElem?_objects_add, if_pos rfl,
            Std.ExtTreeMap.getElem?_insert_self]
          refine .present fun interface => ?_
          rw [Snapshot.hasInterface_announce_iff,
            mem_foldl_insert_toList, before,
            and_iff_left_of_imp (admits interface), or_comm]

theorem yields_absorbRemoved_complete {interfaces : List String}
    (named : udi ≠ "") (rooted : settings.config.isUnderRoot udi = true)
    (complete : cache.Complete settings.config) :
    (absorbRemoved settings udi interfaces).Yields
      { cache with service := (cache.service.remove udi interfaces).2 }
      (fun _ left => left.Complete settings.config) (fun _ => False) := by
  have elsewhere (other : String) (apart : udi ≠ other) :
      (cache.service.remove udi interfaces).2.objects[other]? =
        cache.service.objects[other]? := by
    rw [MemoryService.getElem?_objects_remove, if_neg apart]
  rw [absorbRemoved]
  split
  · next dropped =>
      exact complete.ofLeftOut (dropped.resolve_left named) elsewhere
  · next taken =>
      have kept : settings.config.leavesOut udi = false := by
        simpa using fun leftOut => taken (.inr leftOut)
      have listed (objects : Objects) : listed? settings.config objects udi =
          objects[udi]? := by
        simp [listed?, rooted, kept]
      have before := complete udi
      have after := @MemoryService.getElem?_objects_remove cache.service
        udi udi interfaces
      rw [listed] at before
      rw [if_pos rfl] at after
      simp only [Run.yields_bind, Run.yields_get]
      generalize found : cache.devices[udi]? = cached at before
      generalize held : cache.service.objects[udi]? = object at before after
      cases before with
      | missing =>
          refine complete.replaced (fun _ _ => rfl) elsewhere ?_
          rw [listed, found, after]
          exact .missing
      | @present snapshot present outlined =>
          have outlinedLeft (interface : String) :
              (interfaces.foldl Snapshot.drop snapshot).hasInterface interface =
                true ↔ interface ∈ MemoryService.without
                    interfaces present := by
            rw [Snapshot.hasInterface_foldl_drop, outlined,
              MemoryService.mem_without]
          have emptied : (interfaces.foldl Snapshot.drop snapshot).isEmpty =
              (MemoryService.without interfaces present).isEmpty := by
            rw [Bool.eq_iff_iff, Snapshot.isEmpty_iff, Named.isEmpty_iff_forall]
            simp [outlinedLeft]
          rw [Option.bind_some, ← emptied] at after
          dsimp only
          split
          · next empty =>
              rw [if_pos empty] at after
              refine complete.replaced ?_ elsewhere ?_
              · intro other apart
                simp [Std.ExtTreeMap.getElem?_erase, apart]
              · rw [listed, after]
                simpa using Outlines.missing
          · next filled =>
              rw [if_neg filled] at after
              refine complete.replaced ?_ elsewhere ?_
              · intro other apart
                simp [Std.ExtTreeMap.getElem?_insert, apart]
              · rw [listed, after]
                simpa using Outlines.present outlinedLeft

/-- The judge says of a device, as it is cached now, that it may hold removable
media. -/
def JudgedRemovable (settings : CacheSettings MemoryService)
    (cache : Cache MemoryService) (udi : String) :
    Prop :=
  ((settings.judge udi settings.config.baselineInterface
    cache.devices[udi]?).start cache.service).1.toOption = some true

theorem yields_absorbMedia_of_denied (onlyAsks : settings.judge.OnlyAsks)
    (denied : ¬JudgedRemovable settings cache udi) (size : UInt64)
    (changed : Properties) :
    (absorbMedia settings udi (cache.tracks udi) size changed).Yields cache
      (fun _ left => ∃ service : MemoryService,
        service.forgetCalls = cache.service.forgetCalls ∧
          left = { cache with service := service })
      (fun left => ∃ service : MemoryService,
        service.forgetCalls = cache.service.forgetCalls ∧
          left = { cache with service := service }) := by
  have refused : ¬Consents settings cache udi size := by
    rintro ⟨-, agreed⟩
    apply denied
    rw [JudgedRemovable]
    exact congrArg Except.toOption agreed
  refine yields_absorbMedia_judged.mono ?_ ?_
  · rintro events ⟨service, devices, inflight⟩ judged
    obtain rfl : inflight = cache.inflight := judged.claims
    obtain rfl : devices = cache.devices := (judged.rests refused).2
    exact ⟨service, judged.sameContent onlyAsks, rfl⟩
  · rintro left ⟨rfl, -⟩
    exact ⟨_, onlyAsks _ _ _ _, rfl⟩

theorem yields_absorbChanged_of_denied (onlyAsks : settings.judge.OnlyAsks)
    {interface : String} {changed : Properties} {invalidated : List String}
    (denied : ∀ size, reportedSize? settings.config interface changed.plain =
      some size → ¬JudgedRemovable settings (cache.onDevice udi
        fun snapshot => snapshot.applyChanges interface changed.plain
      invalidated) udi) :
    (absorbChanged settings udi interface changed invalidated).Yields cache
      (fun _ left => left = cache ∨ ∃ service : MemoryService,
        service.forgetCalls = cache.service.forgetCalls ∧
          left = { cache.onDevice udi (fun snapshot =>
            snapshot.applyChanges interface changed.plain
              invalidated) with service := service })
      (fun left => left = cache ∨ ∃ service : MemoryService,
        service.forgetCalls = cache.service.forgetCalls ∧
          left = { cache.onDevice udi (fun snapshot =>
            snapshot.applyChanges interface changed.plain invalidated) with
              service := service }) := by
  by_cases dropped : udi = "" ∨
    ¬Text.startsBy udi settings.config.identifierPrefix = true ∨
      settings.config.leavesOut udi = true
  · rw [absorbChanged_of_dropped dropped]
    exact .inl rfl
  · rw [yields_absorbChanged_iff dropped]
    cases reported : reportedSize? settings.config interface changed.plain with
    | none => exact .inr ⟨cache.service, rfl, rfl⟩
    | some size =>
        have judged := yields_absorbMedia_of_denied onlyAsks
          (denied size reported) (size.toUInt64?.getD 0) changed.plain
        rw [tracks_onDevice] at judged
        exact judged.mono (fun _ _ => .inr) fun _ => .inr

theorem Complete.stored (complete : cache.Complete config) {key : PropertyKey}
    (value : Value)
    (held : (cache.service.properties? key.udi key.interface).isSome = true) :
    Complete config { cache with
      service := cache.service.store key value } := by
  have after := @MemoryService.getElem?_objects_store cache.service
    key.udi key value
  have elsewhere (other : String) (apart : key.udi ≠ other) :
      (cache.service.store key value).objects[other]? =
          cache.service.objects[other]? := by
    rw [MemoryService.getElem?_objects_store, if_neg apart]
  refine complete.replaced (fun _ _ => rfl) elsewhere ?_
  have here := complete key.udi
  rw [if_pos rfl] at after
  rw [listed?] at here ⊢
  split
  · next admits =>
      rw [if_pos admits] at here
      rw [after]
      obtain ⟨interfaces, isHeld, holds⟩ : ∃ interfaces,
          cache.service.objects[key.udi]? = some interfaces ∧
              key.interface ∈ interfaces := by
        rw [MemoryService.properties?, Option.isSome_iff_exists] at held
        obtain ⟨properties, found⟩ := held
        obtain ⟨interfaces, isHeld, carried⟩ := Option.bind_eq_some_iff.mp found
        exact ⟨interfaces, isHeld,
          by simp [Std.ExtTreeMap.mem_iff_isSome_getElem?, carried]⟩
      rw [isHeld] at here ⊢
      generalize cache.devices[key.udi]? = cached at here
      cases here with
      | present same =>
          refine .present fun interface => ?_
          rw [same, Option.getD_some, Std.ExtTreeMap.mem_insert,
            Std.LawfulEqCmp.compare_eq_iff_eq]
          refine ⟨.inr, ?_⟩
          rintro (rfl | member)
          · exact holds
          · exact member
  · next leftOut =>
      rwa [if_neg leftOut] at here

theorem Complete.hasInterface_of_held (complete : cache.Complete config)
    {key : PropertyKey}
    (held : (cache.service.properties? key.udi key.interface).isSome = true)
    {snapshot : Snapshot} (found : cache.devices[key.udi]? = some snapshot) :
    snapshot.hasInterface key.interface = true := by
  have here := complete key.udi
  rw [found, listed?] at here
  split at here
  · rw [MemoryService.properties?] at held
    generalize cache.service.objects[key.udi]? = object at here held
    cases here with
    | present same =>
        rw [same, Std.ExtTreeMap.mem_iff_isSome_getElem?]
        simpa using held
  · cases here

end Signals

section Runs

open MemoryService (Edit)

/-- The cache is complete, or nothing was loaded yet. -/
def Ready (config : Config) (cache : Cache MemoryService) : Prop :=
  cache.Complete config ∨ cache.devices.isEmpty = true

/-- A cache whose service has changed a property, when the change has reached
the device and a size that it tells is not yet judged. -/
def withChange (key : PropertyKey) (value : Value)
    (cache : Cache MemoryService) :
    Cache MemoryService :=
  onDevice key.udi
    (fun snapshot => snapshot.applyChanges key.interface
      (Properties.plain ((∅ : Properties).insert key.property value)) [])
    { cache with service := cache.service.store key value }

/-- A change of the service that a cache can follow. Interfaces that are added
lie in the namespace, and while the cache is empty there is nothing else that it
has not loaded. A property that is changed is one of an interface that the
service holds, and no size of removable media. -/
def FollowsEdit (settings : CacheSettings MemoryService)
    (cache : Cache MemoryService) :
    Edit → Prop
  | .add _ interfaces =>
      (∀ interface ∈ interfaces.keys,
        settings.config.admitsInterface interface = true) ∧
        (cache.devices.isEmpty = true →
          (admitted settings.config cache.service.objects).isEmpty = true)
  | .remove _ _ => True
  | .change key value =>
      (cache.service.properties? key.udi key.interface).isSome = true ∧
        (key.interface = settings.config.baselineInterface →
          key.property = settings.config.sizeProperty →
            ¬JudgedRemovable settings (cache.withChange key value) key.udi)
  | .changeQuietly key _ =>
      (cache.service.properties? key.udi key.interface).isSome = true

/-- What is read changes nothing, and what is changed lies under the tracked
roots. -/
def Follows (settings : CacheSettings MemoryService)
    (cache : Cache MemoryService) :
    Turn → Prop
  | .edit edit => edit.udi ≠ "" ∧ settings.config.isUnderRoot edit.udi = true ∧
      FollowsEdit settings cache edit
  | _ => True

/-- The cache can follow every change of a run. -/
def FollowsAll (settings : CacheSettings MemoryService) :
    List Turn → Cache MemoryService → Prop
  | [], _ => True
  | turn :: turns, cache => Follows settings cache turn ∧
      FollowsAll settings turns ((perform settings turn).start cache).2

instance : Decidable (JudgedRemovable settings cache udi) :=
  inferInstanceAs (Decidable (_ = _))

instance : (edit : Edit) → Decidable (FollowsEdit settings cache edit)
  | .add _ _ => inferInstanceAs (Decidable (_ ∧ _))
  | .remove _ _ => inferInstanceAs (Decidable True)
  | .change _ _ => inferInstanceAs (Decidable (_ ∧ _))
  | .changeQuietly _ _ => inferInstanceAs (Decidable (_ = _))

instance : (turn : Turn) → Decidable (Follows settings cache turn)
  | .edit _ => inferInstanceAs (Decidable (_ ∧ _))
  | .reload | .identifiers | .contains _ | .snapshot _ | .read _ _
  | .readAnywhere _ _ _ =>
      inferInstanceAs (Decidable True)

instance decidableFollowsAll (turns : List Turn) (cache : Cache MemoryService) :
    Decidable (FollowsAll settings turns cache) :=
  match turns with
  | [] => inferInstanceAs (Decidable True)
  | turn :: turns =>
      have := decidableFollowsAll turns ((perform settings turn).start cache).2
      inferInstanceAs (Decidable (_ ∧ _))

/-- An empty cache over a service that holds nothing for it is complete. -/
theorem Ready.complete (ready : cache.Ready config)
    (nothing : cache.devices.isEmpty = true →
      (admitted config cache.service.objects).isEmpty = true) :
    cache.Complete config := by
  rcases ready with complete | empty
  · exact complete
  · intro udi
    have absent := Named.isEmpty_iff_forall.mp (nothing empty) udi
    rw [getElem?_admitted, Option.map_eq_none_iff] at absent
    rw [Named.isEmpty_iff_forall.mp empty udi, absent]
    exact .missing

/-- A change of properties is followed by a cache that is empty, too. -/
theorem Ready.yields_absorbChanged (onlyAsks : settings.judge.OnlyAsks)
    (ready : cache.Ready settings.config) {key : PropertyKey} {value : Value}
    {changed : Properties} {invalidated : List String}
    (held : (cache.service.properties? key.udi key.interface).isSome = true)
    (denied : ∀ size, reportedSize? settings.config key.interface
      changed.plain = some size →
      ¬JudgedRemovable settings
      (onDevice key.udi (fun snapshot => snapshot.applyChanges key.interface
        changed.plain invalidated)
      { cache with service := cache.service.store key value }) key.udi) :
    (absorbChanged settings key.udi key.interface changed invalidated).Yields
      { cache with service := cache.service.store key value }
      (fun _ left => left.Ready settings.config)
          (fun left => left.Ready settings.config) := by
  have stored : Ready settings.config
      { cache with service := cache.service.store key value } :=
    ready.imp_left fun complete => complete.stored value held
  have changedReady : Ready settings.config
      (onDevice key.udi
        (fun snapshot => snapshot.applyChanges key.interface
          changed.plain invalidated)
        { cache with service := cache.service.store key value }) := by
    rcases ready with complete | empty
    · left
      refine (complete.stored value held).onDevice
        fun snapshot found interface => ?_
      have carried := complete.hasInterface_of_held held found
      rw [Snapshot.hasInterface_applyChanges_iff]
      exact or_iff_left_of_imp fun named => named.1 ▸ carried
    · right
      have untracked :
        ({ cache with service := cache.service.store key value } :
          Cache MemoryService).devices[key.udi]? = none :=
        Named.isEmpty_iff_forall.mp empty key.udi
      rw [onDevice_of_untracked untracked]
      exact empty
  have outcome : ∀ left : Cache MemoryService,
      (left = { cache with service := cache.service.store key value } ∨
        ∃ service : MemoryService,
          service.forgetCalls = (cache.service.store key value).forgetCalls ∧
          left = { onDevice key.udi
              (fun snapshot => snapshot.applyChanges key.interface
                changed.plain invalidated)
              { cache with service := cache.service.store key value } with
                service := service }) → left.Ready settings.config := by
    rintro left (rfl | ⟨service, same, rfl⟩)
    · exact stored
    · exact changedReady.imp_left fun complete => complete.of_sameContent same
  exact (yields_absorbChanged_of_denied onlyAsks denied).mono
    (fun _ => outcome) outcome

theorem Ready.yields_edit (onlyAsks : settings.judge.OnlyAsks)
    (ready : cache.Ready settings.config) {edit : Edit}
    (follows : Follows settings cache (.edit edit)) :
    (perform settings (.edit edit)).Yields cache
      (fun _ left => left.Ready settings.config)
      (fun left => left.Ready settings.config) := by
  obtain ⟨named, rooted, follows⟩ := follows
  simp only [perform, Run.yields_bind, Run.yields_get, Run.yields_modify,
    Run.yields_pure]
  cases edit with
  | add udi interfaces =>
      obtain ⟨admits, nothing⟩ := follows
      simp only [Std.ExtTreeMap.mem_keys] at admits
      exact (yields_absorbAdded_complete named rooted admits
        (ready.complete nothing)).mono (fun _ _ => .inl) fun _ none => none.elim
  | remove udi interfaces =>
      rcases ready with complete | empty
      · exact (yields_absorbRemoved_complete named rooted complete).mono
          (fun _ _ => .inl) fun _ none => none.elim
      · change (absorbRemoved settings udi interfaces).Yields _ _ _
        rw [absorbRemoved]
        split
        · exact .inr empty
        · rw [Run.yields_bind, Run.yields_get,
            Named.isEmpty_iff_forall.mp empty udi]
          exact .inr empty
  | change key value =>
      obtain ⟨held, small⟩ := follows
      refine ready.yields_absorbChanged onlyAsks held ?_
      intro size reported
      obtain ⟨isBaseline, told⟩ := Option.ite_none_right_eq_some.mp reported
      refine small isBaseline ?_
      rw [Properties.getElem?_plain, Std.ExtTreeMap.getElem?_insert] at told
      by_cases same : key.property = settings.config.sizeProperty
      · exact same
      · simp [same] at told
  | changeQuietly key value =>
      refine ready.yields_absorbChanged onlyAsks follows ?_
      intro size reported
      obtain ⟨_, told⟩ := Option.ite_none_right_eq_some.mp reported
      simp [Properties.plain] at told

theorem Ready.yields_perform (onlyAsks : settings.judge.OnlyAsks)
    (ready : cache.Ready settings.config) {turn : Turn}
    (follows : Follows settings cache turn) :
    (perform settings turn).Yields cache
      (fun _ left => left.Ready settings.config)
      (fun left => left.Ready settings.config) := by
  have loaded : (loadIfEmpty settings).Yields cache
    (fun _ left => left.Ready settings.config)
      (fun left => left.Ready settings.config) :=
    (yields_loadIfEmpty_complete ready).mono (fun _ _ both => .inl both.1)
      fun _ none => none.elim
  -- Nothing is read of what is not tracked.
  have idle : ∀ key reach, cache.devices.isEmpty = true →
      (read key reach).Yields cache (fun _ left => left.Ready settings.config)
        (fun left => left.Ready settings.config) := by
    intro key reach empty
    rw [read, Run.yields_bind, Run.yields_get, glance,
      Named.isEmpty_iff_forall.mp empty key.udi]
    exact .inr empty
  cases turn with
  | edit edit => exact ready.yields_edit onlyAsks follows
  | reload =>
      simp only [perform, Run.yields_bind, Run.yields_pure]
      exact (yields_reload_complete cache).mono (fun _ _ both => .inl both.2)
        fun _ none => none.elim
  | identifiers =>
      simpa only [perform, Cache.identifiers, Run.yields_bind, Run.yields_get,
        Run.yields_pure] using loaded
  | contains udi =>
      simpa only [perform, Cache.contains, Run.yields_bind, Run.yields_get,
        Run.yields_pure] using loaded
  | snapshot udi =>
      simpa only [perform, snapshot?, Run.yields_bind, Run.yields_get,
        Run.yields_pure] using loaded
  | read key reach =>
      simp only [perform, Run.yields_bind, Run.yields_pure]
      rcases ready with complete | empty
      · exact (keeps_read_complete key reach cache complete).mono
          (fun _ _ => .inl) fun _ => .inl
      · exact idle key reach empty
  | readAnywhere udi property reach =>
      simp only [perform, Run.yields_bind, Run.yields_pure]
      rcases ready with complete | empty
      · exact (keeps_readAnywhere_complete udi property reach
          cache complete).mono (fun _ _ => .inl) fun _ => .inl
      · rw [Cache.readAnywhere, Run.yields_bind, Run.yields_get,
          Named.isEmpty_iff_forall.mp empty udi]
        exact .inr empty

theorem Ready.afterAll (onlyAsks : settings.judge.OnlyAsks) {turns : List Turn}
    (ready : cache.Ready settings.config)
    (follows : FollowsAll settings turns cache) :
    (afterAll settings turns cache).Ready settings.config := by
  induction turns generalizing cache with
  | nil => exact ready
  | cons turn turns induction =>
      exact induction (ready.yields_perform onlyAsks follows.1).left follows.2

/-- A new cache over a service with any objects, after any run of changes that
it can follow, mixed with reads of all kinds: it lists exactly the identifiers
that a reload would list, which are those that the service holds and the
configuration admits. -/
theorem identifiers_afterAll_eq_reload (onlyAsks : settings.judge.OnlyAsks)
    {service : MemoryService} {turns : List Turn}
    (follows : FollowsAll settings turns { service := service }) :
    ((identifiers settings).start
      (afterAll settings turns { service := service })).1 =
        ((reload settings).start
          (afterAll settings turns { service := service })).1 ∧
      ((reload settings).start
          (afterAll settings turns { service := service })).1 =
        .ok (admitted settings.config
          (afterAll settings turns
            { service := service }).service.objects).keys := by
  have fresh : Ready settings.config { service := service } := .inr (by simp)
  have ready := fresh.afterAll onlyAsks follows
  generalize afterAll settings turns { service := service } = cache at ready
  have listed : (identifiers settings).Yields cache
      (fun ids _ => ids = (admitted settings.config cache.service.objects).keys)
      fun _ => False := by
    rw [identifiers, Run.yields_bind]
    refine (yields_loadIfEmpty_complete ready).mono ?_ fun _ none => none
    intro _ left outcome
    obtain ⟨complete, objects⟩ := outcome
    rw [Run.yields_bind, Run.yields_get, Run.yields_pure, ← objects]
    exact complete.keys_eq
  obtain ⟨_, _, asked, rfl⟩ := listed.exists_start
  obtain ⟨_, _, reloaded, rfl, _⟩ := (yields_reload_complete cache).exists_start
  rw [asked, reloaded]
  exact ⟨rfl, rfl⟩

/-- A disk is announced beside another one. -/
def secondDisk : Turn :=
  .edit (.add "/s/b/sdb"
    (Std.ExtTreeMap.ofList [("s.Block", ∅)]))

/-- The disks are listed, another one is announced and grows, and the first one
goes. -/
def exchangeTurns : List Turn :=
  [.identifiers, secondDisk,
    .edit (.change ⟨"/s/b/sdb",
      "s.Block", "Size"⟩ (.uint 7)),
    .edit (.remove labelKey.udi [labelKey.interface])]

theorem identifiers_afterAll_exchangeTurns :
    FollowsAll (.ofConfig .compact) exchangeTurns { service :=
  unlabelled } ∧
      ((identifiers (.ofConfig .compact)).start
        (afterAll (.ofConfig .compact) exchangeTurns
          { service := unlabelled })).1 =
        .ok ["/s/b/sdb"] := by
  have follows : FollowsAll (.ofConfig .compact) exchangeTurns
      { service := unlabelled } := by
    decide +kernel
  have listed := identifiers_afterAll_eq_reload
    (MediaRule.judge_onlyAsks _) follows
  refine ⟨follows, listed.1.trans (listed.2.trans ?_)⟩
  exact congrArg Except.ok (by decide +kernel)

/-- A disk that is announced before anything was asked hides the one that the
service holds already. -/
theorem identifiers_afterAll_secondDisk :
    ((identifiers (.ofConfig .compact)).start
        (afterAll (.ofConfig .compact) [secondDisk]
          { service := unlabelled })).1.toOption =
      some ["/s/b/sdb"] ∧
    ((reload (.ofConfig .compact)).start
        (afterAll (.ofConfig .compact) [secondDisk]
          { service := unlabelled })).1.toOption =
      some ["/s/b/sda", "/s/b/sdb"] := by
  decide +kernel

end Runs

end Cache

end Hotplug
