import Hotplug.Proofs.Hub.Anchored
import Hotplug.Proofs.Hub.Validity

/-!
# Handles after everything was loaded again

Loading all backends again parts no handle from a device that is still tracked.
But it looks at no slot: a slot whose object is gone stays so, also if its
identifier is tracked again, and finding the identifier once more uses the slot
as it is. So of the handles of tracked devices those are valid afterwards that
were valid before, and those whose slot is made by finding them.
-/

namespace Hotplug

namespace Hub

variable {n : Nat} {σ κ ω : Type}
  {start hub left : Hub n (ServiceBackend σ) ServiceObject κ ω} {i : Fin n}
  {udi : String} {backend : ServiceBackend σ} {found : List Handle}
  {ids : List String} {done rest : List (Fin n)}

/-- Nothing but the count of the slot has changed, if there is one; or it was
made, with an object that a backend which was loaded again keeps for the
identifier. -/
def Settled (start : Hub n (ServiceBackend σ) ServiceObject κ ω)
    (done : List (Fin n)) (hub : Hub n (ServiceBackend σ) ServiceObject κ ω)
    (udi : String) :
    Prop :=
  hub.registry.slots[udi]?.map (·.object) =
    start.registry.slots[udi]?.map (·.object) ∨
    start.registry.slots[udi]? = none ∧ ∃ i ∈ done, ∃ kept,
      hub.registry.slots[udi]?.map (·.object) = some (some ⟨i, kept⟩) ∧
        (hub.backendAt i).objects[udi]? = some kept

/-- The backends that were loaded again are `done`. They have kept the objects
of what they still track. -/
structure Swept (start : Hub n (ServiceBackend σ) ServiceObject κ ω)
    (done : List (Fin n)) (hub : Hub n (ServiceBackend σ) ServiceObject κ ω) :
    Prop where
  routing : SameRouting start hub
  held : hub.held = start.held
  others : ∀ i, i ∉ done → hub.backendAt i = start.backendAt i
  succeeds : ∀ i, ServiceBackend.Succeeds (start.backendAt i) (hub.backendAt i)
  retained : ∀ i (udi : String) kept,
    (start.backendAt i).objects[udi]? = some kept →
    hub.tracksAt i udi = true → (hub.backendAt i).objects[udi]? = some kept
  settled : ∀ udi, Settled start done hub udi

namespace Swept

theorem refl (hub : Hub n (ServiceBackend σ) ServiceObject κ ω) :
    Swept hub [] hub where
  routing := ⟨rfl, fun _ => rfl⟩
  held := rfl
  others _ _ := rfl
  succeeds i := .refl (hub.backendAt i)
  retained _ _ _ held _ := held
  settled _ := .inl rfl

theorem ofReloaded (swept : Swept start done hub) (once : i ∉ done)
    (reloaded : ServiceBackend.Reloaded (hub.backendAt i) backend) :
    Swept start (done ++ [i]) (hub.withBackend i backend) where
  routing := swept.routing.ofBackend reloaded.settings
  held := swept.held
  others j notDone := by
    have apart : i ≠ j := by
      intro same
      simp [same] at notDone
    rw [backendAt_withBackend, if_neg apart]
    exact swept.others j fun earlier => notDone (List.mem_append_left _ earlier)
  succeeds j := by
    rw [backendAt_withBackend]
    split
    · next same =>
        subst same
        exact (swept.succeeds i).trans reloaded.toSucceeds
    · exact swept.succeeds j
  retained j udi kept held tracked := by
    rw [tracksAt_withBackend] at tracked
    rw [backendAt_withBackend]
    split at tracked
    · next same =>
        subst same
        rw [if_pos rfl]
        rw [← swept.others i once] at held
        exact reloaded.kept udi kept held tracked
    · next different =>
        rw [if_neg different]
        exact swept.retained j udi kept held tracked
  settled udi := by
    rcases swept.settled udi with same | ⟨absent, j, earlier, kept, bound, held⟩
    · exact .inl same
    · have apart : i ≠ j := by
        intro same
        exact once (same ▸ earlier)
      refine .inr ⟨absent, j, List.mem_append_left _ earlier, kept, bound, ?_⟩
      rw [backendAt_withBackend, if_neg apart]
      exact held

theorem ofMild (swept : Swept start done hub) (member : i ∈ done)
    (mild : ServiceBackend.Mild (hub.backendAt i) backend)
    (same : backend.tracks = (hub.backendAt i).tracks) :
    Swept start done (hub.withBackend i backend) where
  routing := swept.routing.ofBackend mild.settings
  held := swept.held
  others j notDone := by
    have apart : i ≠ j := by
      intro same
      exact notDone (same ▸ member)
    rw [backendAt_withBackend, if_neg apart]
    exact swept.others j notDone
  succeeds j := by
    rw [backendAt_withBackend]
    split
    · next equal =>
        subst equal
        exact (swept.succeeds i).trans mild.toSucceeds
    · exact swept.succeeds j
  retained j udi kept held tracked := by
    rw [tracksAt_withBackend_of_same same] at tracked
    have before := swept.retained j udi kept held tracked
    rw [backendAt_withBackend]
    split
    · next equal =>
        subst equal
        exact mild.kept udi kept before
    · exact before
  settled udi := by
    rcases swept.settled udi with same | ⟨absent, j, earlier, kept, bound, held⟩
    · exact .inl same
    · refine .inr ⟨absent, j, earlier, kept, bound, ?_⟩
      rw [backendAt_withBackend]
      split
      · next equal =>
          subst equal
          exact mild.kept udi kept held
      · exact held

theorem ofSlots (swept : Swept start done hub)
    {change : HandleTable (ObjectRef n ServiceObject) →
      HandleTable (ObjectRef n ServiceObject)}
    (settled : ∀ udi : String, (change hub.registry.slots)[udi]?.map
      (·.object) = hub.registry.slots[udi]?.map (·.object) ∨
      Settled start done (hub.onSlots change) udi) :
    Swept start done (hub.onSlots change) where
  routing := ⟨swept.routing.roster, swept.routing.prefixes⟩
  held := swept.held
  others := swept.others
  succeeds := swept.succeeds
  retained := swept.retained
  settled udi := by
    rcases settled udi with same | isSettled
    · have before := swept.settled udi
      rw [Settled, ← same] at before
      exact before
    · exact isSettled

end Swept

section Validity

variable [Service σ]

/-- The backend that owns the identifier tracks it. -/
def Tracked (udi : String) (hub : Hub n (ServiceBackend σ) ServiceObject κ ω) :
    Prop :=
  ∃ i, hub.route? udi = some i ∧ hub.tracksAt i udi = true

namespace Swept

/-- An object of what is still tracked lives on, and no other one takes its
number. -/
theorem isAlive_iff (swept : Swept start done hub)
    {ref : ObjectRef n ServiceObject}
    (reserved : (start.backendAt ref.backend).Reserves udi ref.kept.serial)
    (tracked : hub.tracksAt ref.backend udi = true) :
    hub.isAlive ref = true ↔ start.isAlive ref = true := by
  have keeps := reserved.keeps_iff (swept.succeeds ref.backend)
    fun kept held => swept.retained ref.backend udi kept held tracked
  rw [isAlive, isAlive, Bool.or_eq_true, Bool.or_eq_true, keeps, swept.held]

/-- The handles of a tracked device are valid if they were so before, or if
their slot was made in the meantime. -/
theorem isValid_iff (swept : Swept start done hub) (anchored : start.Anchored)
    (isTracked : hub.Tracked udi) :
    hub.isValid ⟨udi, true⟩ = true ↔ start.isValid ⟨udi, true⟩ = true ∨
      start.registry.slots[udi]? = none ∧ ∃ slot, hub.registry.slots[udi]? =
        some slot := by
  obtain ⟨i, route, tracked⟩ := isTracked
  rw [swept.routing.route?] at route
  simp only [isValid, object?, if_true, HandleTable.object?]
  rcases swept.settled udi with same | ⟨absent, j, _, kept, bound, held⟩
  · cases before : start.registry.slots[udi]? with
    | none =>
        rw [before] at same
        have absent := Option.map_eq_none_iff.mp same
        simp [absent]
    | some slot =>
        rw [before] at same
        obtain ⟨after, present, sameObject⟩ := Option.map_eq_some_iff.mp same
        simp only [present, Option.bind_some, HandleSlot.living,
          sameObject, reduceCtorEq, false_and, or_false]
        cases object : slot.object with
        | none => simp
        | some ref =>
            obtain rfl : ref.backend = i :=
              Option.some.inj
                ((anchored.routed udi slot ref before object).symm.trans route)
            have alive := swept.isAlive_iff
              (anchored.reserved udi slot ref before object) tracked
            simp only [Option.isSome_filter, Option.any_some, alive]
  · have alive : hub.isAlive ⟨j, kept⟩ = true := isAlive_of_kept held
    obtain ⟨slot, present, object⟩ := Option.map_eq_some_iff.mp bound
    simp [absent, present, HandleSlot.living, object, alive]

end Swept

end Validity

variable [Service σ]

section Rounds

def Slotted (udi : String) (hub : Hub n (ServiceBackend σ) ServiceObject κ ω) :
    Prop :=
  ∃ slot, hub.registry.slots[udi]? = some slot

/-- The same is tracked, and no slot has gone. -/
structure Widens (hub left : Hub n (ServiceBackend σ) ServiceObject κ ω) :
    Prop where
  tracks : ∀ i, left.tracksAt i = hub.tracksAt i
  slotted : ∀ udi, hub.Slotted udi → left.Slotted udi

/-- What was found is tracked, and what a backend tracks that was loaded again
is its own and has a slot. -/
structure Gathered (start : Hub n (ServiceBackend σ) ServiceObject κ ω)
    (done : List (Fin n)) (found : List Handle)
    (hub : Hub n (ServiceBackend σ) ServiceObject κ ω) :
    Prop
    extends Swept start done hub where
  owned : ∀ i ∈ done, ∀ udi, hub.tracksAt i udi = true →
    start.route? udi = some i
  slotted : ∀ i ∈ done, ∀ udi, hub.tracksAt i udi = true →
    udi ≠ "" → hub.Slotted udi
  listed : ∀ handle ∈ found, handle.bound = true →
    handle.udi ≠ "" ∧ ∃ i ∈ done, hub.tracksAt i handle.udi = true

/-- A backend that was loaded again tracks an identifier outside of its
prefix. -/
structure Strays (start : Hub n (ServiceBackend σ) ServiceObject κ ω)
    (done : List (Fin n)) (hub : Hub n (ServiceBackend σ) ServiceObject κ ω) :
    Prop where
  routing : SameRouting start hub
  stray : ∃ i ∈ done, ∃ udi, hub.tracksAt i udi = true ∧
    Text.startsBy udi (start.prefixAt i) = false

theorem Swept.yields_find (swept : Swept start done hub) (member : i ∈ done)
    (route : start.route? udi = some i) (tracked : hub.tracksAt i udi = true) :
    (find udi).Yields hub
      (fun handle left => Swept start done left ∧ Widens hub left ∧
        (udi ≠ "" → left.Slotted udi) ∧
          (handle.bound = true → handle.udi = udi ∧ udi ≠ ""))
      fun _ => True := by
  by_cases empty : udi = ""
  · subst empty
    exact yields_find_null.mpr ⟨swept, ⟨fun _ => rfl, fun _ => id⟩,
      by simp, by simp [Handle.null]⟩
  · cases present : hub.registry.slots[udi]? with
    | some slot =>
        rw [yields_find_of_slot empty present]
        refine ⟨swept.ofSlots ?_, ⟨fun _ => rfl, ?_⟩, ?_, fun _ => ⟨rfl, empty⟩⟩
        · intro other
          rw [Named.getElem?_insert]
          split
          · next same =>
              subst same
              exact .inl (by rw [present]; rfl)
          · exact .inl rfl
        · intro other slotted
          rw [Slotted, onSlots_slots, Named.getElem?_insert]
          split
          · exact ⟨_, rfl⟩
          · exact slotted
        · intro _
          exact ⟨_, Named.getElem?_insert.trans (if_pos rfl)⟩
    | none =>
        rw [yields_find_of_no_slot empty present]
        have mild : ∀ j backend, hub.route? udi = some j →
            ServiceBackend.Mild (hub.backendAt j) backend →
            Swept start done (hub.withBackend j backend) ∧
              ∀ k, (hub.withBackend j backend).tracksAt k = hub.tracksAt k := by
          intro j backend routed isMild
          obtain rfl : i = j := by
            rw [swept.routing.route?, route] at routed
            exact Option.some.inj routed
          have same : backend.tracks = (hub.backendAt i).tracks := by
            rcases isMild.tracked with same | none
            · exact same
            · rw [tracksAt, none udi] at tracked
              contradiction
          exact ⟨swept.ofMild member isMild same,
            fun k => tracksAt_withBackend_of_same same⟩
        have made : (makeObject udi).Yields hub
            (fun object left =>
              (Swept start done left ∧ ∀ k, left.tracksAt k = hub.tracksAt k) ∧
                Answered udi object left ∧ left.registry.slots =
                  hub.registry.slots)
            fun left => Swept start done left ∧ ∀ k,
                left.tracksAt k = hub.tracksAt k :=
          yields_makeObject_of_mild udi mild ⟨swept, fun _ => rfl⟩
        refine made.mono ?_ fun _ _ => trivial
        intro object left outcome
        obtain ⟨⟨sweptLeft, tracks⟩, answered, slots⟩ := outcome
        have acquired : ∀ other : String,
            (HandleTable.acquireWith left.isAlive udi object
              left.registry.slots)[other]? =
              if udi = other then some ⟨1, object⟩
                  else hub.registry.slots[other]? := by
          intro other
          rw [HandleTable.getElem?_acquireWith, slots, present]
          rfl
        refine ⟨sweptLeft.ofSlots ?_, ⟨tracks, ?_⟩, ?_, fun _ => ⟨rfl, empty⟩⟩
        · intro other
          rw [Settled, onSlots_slots, acquired]
          split
          · next same =>
              subst same
              have routed : left.route? udi = some i :=
                (sweptLeft.routing.route? udi).trans route
              obtain ⟨found, rfl, held, complete⟩ := answered.owned i routed
              obtain ⟨kept, rfl⟩ := complete
                ((congrFun (tracks i) udi).trans tracked)
              refine .inr (.inr ⟨?_, i, member, kept, rfl, held kept rfl⟩)
              rcases swept.settled udi with same | ⟨absent, _⟩
              · rw [present] at same
                exact Option.map_eq_none_iff.mp same.symm
              · exact absent
          · exact .inl (by rw [slots])
        · intro other slotted
          rw [Slotted, onSlots_slots, acquired]
          split
          · exact ⟨_, rfl⟩
          · exact slotted
        · intro _
          exact ⟨_, (acquired udi).trans (if_pos rfl)⟩

/-- Some identifiers of a hub were looked up, and handles of tracked ones were
found. -/
structure Seeking (start : Hub n (ServiceBackend σ) ServiceObject κ ω)
    (done : List (Fin n)) (hub : Hub n (ServiceBackend σ) ServiceObject κ ω)
    (seen : List String) (found : List Handle)
    (left : Hub n (ServiceBackend σ) ServiceObject κ ω) :
    Prop where
  swept : Swept start done left
  widens : Widens hub left
  slotted : ∀ udi ∈ seen, udi ≠ "" → left.Slotted udi
  listed : ∀ handle ∈ found, handle.bound = true →
    handle.udi ≠ "" ∧ ∃ i ∈ done, hub.tracksAt i handle.udi = true

theorem Seeking.yields_find {seen : List String}
    (seeking : Seeking start done hub seen found left) (member : i ∈ done)
    (route : start.route? udi = some i) (tracked : hub.tracksAt i udi = true) :
    (find udi).Yields left
      (fun handle => Seeking start done hub (seen ++ [udi]) (found ++ [handle]))
      fun _ => True := by
  have trackedLeft : left.tracksAt i udi = true :=
    (congrFun (seeking.widens.tracks i) udi).trans tracked
  refine (seeking.swept.yields_find member route trackedLeft).mono ?_
    fun _ => id
  intro handle final outcome
  obtain ⟨swept, widens, slotted, named⟩ := outcome
  refine ⟨swept, ⟨?_, ?_⟩, ?_, ?_⟩
  · exact fun j => (widens.tracks j).trans (seeking.widens.tracks j)
  · exact fun other before => widens.slotted other
      (seeking.widens.slotted other before)
  · intro other given nonempty
    rcases List.mem_append.mp given with earlier | now
    · exact widens.slotted other (seeking.slotted other earlier nonempty)
    · obtain rfl := List.mem_singleton.mp now
      exact slotted nonempty
  · intro other given bound
    rcases List.mem_append.mp given with earlier | now
    · exact seeking.listed other earlier bound
    · obtain rfl := List.mem_singleton.mp now
      obtain ⟨rfl, nonempty⟩ := named bound
      exact ⟨nonempty, i, member, tracked⟩

theorem Seeking.yields_findAll (seeking : Seeking start done hub [] found hub)
    (member : i ∈ done)
    (owned : ∀ udi, hub.tracksAt i udi = true → start.route? udi = some i)
    (answered : ∀ udi, udi ∈ ids ↔ hub.tracksAt i udi = true) :
    (findAll found ids).Yields hub (Seeking start done hub ids)
      fun _ => True := by
  apply Run.yields_foldlM_done (Seeking start done hub) seeking
  intro seen udi later split all left seekingLeft
  have tracked : hub.tracksAt i udi = true :=
    (answered udi).mp (by simp [split])
  rw [Run.yields_bind, yields_whileHolding]
  exact seekingLeft.yields_find member (owned udi tracked) tracked

theorem Gathered.yields_findAll (gathered : Gathered start done found hub)
    (once : i ∉ done)
    (reloaded : ServiceBackend.Reloaded (hub.backendAt i) backend)
    (owned : ∀ udi, backend.tracks udi = true → start.route? udi = some i)
    (answered : ∀ udi, udi ∈ ids ↔ backend.tracks udi = true) :
    (findAll found ids).Yields (hub.withBackend i backend)
      (Gathered start (done ++ [i])) fun _ => True := by
  have earlier : ∀ j ∈ done, (hub.withBackend i backend).tracksAt j =
      hub.tracksAt j := by
    intro j member
    have apart : i ≠ j := fun same => once (same ▸ member)
    rw [tracksAt_withBackend, if_neg apart]
  have now : (hub.withBackend i backend).tracksAt i = backend.tracks := by
    rw [tracksAt_withBackend, if_pos rfl]
  have seeking : Seeking start (done ++ [i])
    (hub.withBackend i backend) [] found (hub.withBackend i backend) := by
    refine ⟨gathered.ofReloaded once reloaded, ⟨fun _ => rfl, fun _ => id⟩,
      by simp, ?_⟩
    intro handle member bound
    obtain ⟨nonempty, j, before, tracked⟩ := gathered.listed handle member bound
    exact ⟨nonempty, j, List.mem_append_left _ before,
      by rwa [earlier j before]⟩
  rw [← now] at owned answered
  refine (seeking.yields_findAll (by simp) owned answered).mono ?_ fun _ => id
  intro all left outcome
  constructor
  · exact outcome.swept
  · intro j member udi tracked
    rw [outcome.widens.tracks] at tracked
    rcases List.mem_append.mp member with before | last
    · exact gathered.owned j before udi (earlier j before ▸ tracked)
    · obtain rfl := List.mem_singleton.mp last
      exact owned udi tracked
  · intro j member udi tracked nonempty
    rw [outcome.widens.tracks] at tracked
    rcases List.mem_append.mp member with before | last
    · exact outcome.widens.slotted udi
        (gathered.slotted j before udi (earlier j before ▸ tracked) nonempty)
    · obtain rfl := List.mem_singleton.mp last
      exact outcome.slotted udi ((answered udi).mpr tracked) nonempty
  · intro handle member bound
    obtain ⟨nonempty, j, before, tracked⟩ := outcome.listed handle member bound
    exact ⟨nonempty, j, before, by rwa [outcome.widens.tracks]⟩

theorem Strays.keeps_find (strays : Strays start done hub) (udi : String) :
    (find udi).Yields hub (fun _ => Strays start done) (Strays start done) := by
  obtain ⟨routing, j, member, stray, tracked, outside⟩ := strays
  have lasting := @keeps_find_of_lasting _ _ _ _ start j udi _ (hub.tracksAt j)
    ⟨stray, tracked⟩
  refine (lasting hub ⟨routing, rfl⟩).mono ?_ ?_
  · intro _ left outcome
    exact ⟨outcome.1, j, member, stray, by rwa [outcome.2], outside⟩
  · intro left outcome
    exact ⟨outcome.1, j, member, stray, by rwa [outcome.2], outside⟩

theorem Strays.release (strays : Strays start done hub) (handle : Handle) :
    Strays start done (hub.release handle) := by
  obtain ⟨routing, j, member, stray, tracked, outside⟩ := strays
  exact ⟨routing.release handle, j, member, stray,
    by rwa [tracksAt_release], outside⟩

theorem Strays.yields_findAll (strays : Strays start done hub) :
    (findAll found ids).Yields hub (fun _ => Strays start done) fun _ => True :=
  (yields_findAll_keeping (fun _ handle strays => strays.release handle)
    (fun udi _ _ strays => strays.keeps_find udi) strays).mono (fun _ _ => id)
      fun _ _ => trivial

theorem yields_round (apart : start.Apart)
    (split : start.registry.roster = done ++ i :: rest)
    (outcome : Gathered start done found hub ∨ Strays start done hub) :
    (do findAll found (← whileHolding found
      (atBackend i Backend.reload))).Yields hub
      (fun all left => Gathered start (done ++ [i]) all left ∨
        Strays start (done ++ [i]) left)
      fun _ => True := by
  have once : i ∉ done := apart.not_mem_of_split split
  have attached : i ∈ start.registry.roster := by simp [split]
  rw [Run.yields_bind, yields_whileHolding, yields_atBackend]
  refine (ServiceBackend.yields_reload (hub.backendAt i)).mono ?_
    fun _ _ => trivial
  intro ids backend reload
  obtain ⟨reloaded, answered⟩ := reload
  have strayed : Strays start (done ++ [i]) (hub.withBackend i backend) →
      (findAll found ids).Yields (hub.withBackend i backend)
        (fun all left => Gathered start (done ++ [i]) all left ∨
          Strays start (done ++ [i]) left)
        fun _ => True :=
    fun strays => strays.yields_findAll.mono (fun _ _ => .inr) fun _ => id
  rcases outcome with gathered | strays
  · by_cases owning : ∀ udi, backend.tracks udi = true →
        Text.startsBy udi (start.prefixAt i) = true
    · have owned : ∀ udi, backend.tracks udi = true →
          start.route? udi = some i :=
        fun udi tracked => apart.route?_eq_some attached (owning udi tracked)
      exact (gathered.yields_findAll once reloaded owned answered).mono
        (fun _ _ => .inl) fun _ => id
    · apply strayed
      refine ⟨gathered.routing.ofBackend reloaded.settings, i, by simp, ?_⟩
      obtain ⟨udi, stray⟩ := Classical.not_forall.mp owning
      obtain ⟨tracked, outside⟩ := Classical.not_imp.mp stray
      refine ⟨udi, ?_, by simpa using outside⟩
      rw [tracksAt_withBackend, if_pos rfl]
      exact tracked
  · apply strayed
    obtain ⟨routing, j, member, udi, tracked, outside⟩ := strays
    refine ⟨routing.ofBackend reloaded.settings, j,
      List.mem_append_left _ member, udi, ?_, outside⟩
    have apart : i ≠ j := fun same => once (same ▸ member)
    rw [tracksAt_withBackend, if_neg apart]
    exact tracked

theorem yields_everyDevice_gathered (apart : start.Apart) :
    everyDevice.Yields start
      (fun found left => Gathered start start.registry.roster found left ∨
        Strays start start.registry.roster left)
      fun _ => True := by
  rw [everyDevice, Run.yields_bind, Run.yields_get]
  apply Run.yields_foldlM_done
    (fun done found left => Gathered start done found left ∨
      Strays start done left)
  · exact .inl ⟨.refl start, by simp, by simp, by simp⟩
  · intro done i rest split found left outcome
    exact yields_round apart split outcome

theorem yields_reload_swept (apart : start.Apart) :
    reload.Yields start
      (fun _ left => Swept start start.registry.roster left ∧
        left.registry.slots = start.registry.slots)
      fun _ => True := by
  rw [reload, Run.yields_bind, Run.yields_get]
  apply Run.yields_foldlM_done
    (fun done _ left => Swept start done left ∧ left.registry.slots =
      start.registry.slots)
    ⟨.refl start, rfl⟩
  intro done i rest split count left outcome
  obtain ⟨swept, slots⟩ := outcome
  rw [Run.yields_bind, yields_atBackend]
  refine (ServiceBackend.yields_reload (left.backendAt i)).mono ?_
    fun _ _ => trivial
  intro ids backend reload
  exact ⟨swept.ofReloaded (apart.not_mem_of_split split) reload.1, slots⟩

/-- A load of all backends leaves those handles of tracked devices valid that
were so. -/
theorem isValid_reload_iff (anchored : start.Anchored) (apart : start.Apart)
    (answered : (reload.start start).1.isOk = true) {handle : Handle}
    (bound : handle.bound = true)
    (tracked : (reload.start start).2.Tracked handle.udi) :
    (reload.start start).2.isValid handle = true ↔
      start.isValid handle = true := by
  obtain ⟨_, swept, slots⟩ := (yields_reload_swept apart).of_isOk answered
  obtain ⟨udi, _⟩ := handle
  obtain rfl := bound
  rw [swept.isValid_iff anchored tracked, slots]
  constructor
  · intro given
    rcases given with valid | ⟨absent, slot, found⟩
    · exact valid
    · rw [absent] at found
      contradiction
  · exact .inl

/-- To find all devices leaves those handles of tracked devices valid that were
so, or that had no slot. -/
theorem isValid_everyDevice_iff (anchored : start.Anchored)
    (apart : start.Apart) {found : List Handle}
    (answered : (everyDevice.start start).1.toOption = some found)
    (owning : (everyDevice.start start).2.Owning) :
    (∀ handle ∈ found, handle.bound = true →
      handle.udi ≠ "" ∧ (everyDevice.start start).2.Tracked handle.udi) ∧
    ∀ handle : Handle, handle.bound = true → handle.udi ≠ "" →
      (everyDevice.start start).2.Tracked handle.udi →
      ((everyDevice.start start).2.isValid handle = true ↔
        start.isValid handle = true ∨ start.registry.slots[handle.udi]? =
          none) := by
  have outcome : Gathered start start.registry.roster found
    (everyDevice.start start).2 ∨
      Strays start start.registry.roster (everyDevice.start start).2 := by
    have yields := yields_everyDevice_gathered apart
    unfold Run.Yields at yields
    generalize everyDevice.start start = ran at answered yields
    rcases ran with ⟨reason | all, left⟩
    · cases answered
    · obtain rfl : all = found := Option.some.inj answered
      exact yields
  generalize (everyDevice.start start).2 = left at *
  rcases outcome with gathered | strays
  · constructor
    · intro handle member bound
      obtain ⟨nonempty, i, attached, tracked⟩ :=
        gathered.listed handle member bound
      refine ⟨nonempty, i, ?_, tracked⟩
      rw [gathered.routing.route?]
      exact gathered.owned i attached handle.udi tracked
    · intro handle bound nonempty tracked
      obtain ⟨udi, _⟩ := handle
      obtain rfl := bound
      rw [gathered.isValid_iff anchored tracked]
      obtain ⟨i, route, isTracked⟩ := tracked
      have attached : i ∈ start.registry.roster :=
        gathered.routing.roster ▸ (startsBy_of_route? route).1
      obtain ⟨slot, present⟩ :=
        gathered.slotted i attached udi isTracked nonempty
      constructor
      · exact Or.imp_right And.left
      · exact Or.imp_right fun absent => ⟨absent, slot, present⟩
  · obtain ⟨routing, i, attached, udi, tracked, outside⟩ := strays
    have inside := owning i (routing.roster ▸ attached) udi tracked
    rw [routing.prefixes, outside] at inside
    contradiction

end Rounds

end Hub

namespace World

variable {n : Nat} {σ κ μ : Type} [Service σ]

/-- Whatever was done to a new registry with backends apart: a resync leaves
exactly those handles of tracked devices valid that were valid before. After all
devices were found, each of them is tracked, and exactly those handles of
tracked devices are valid that were valid before or whose slot was not there. -/
theorem isValid_after_resync_iff {backends : Vector (ServiceBackend σ) n}
    (new : ∀ (i : Fin n) (udi : String), (backends.get i).objects[udi]? = none)
    {roster : List (Fin n)} {memory : μ} {pathExists : String → Bool}
    {depth : Nat}
    {react : κ → DeviceEvent → World n (ServiceBackend σ) ServiceObject κ μ →
      Conduct n (ServiceBackend σ) ServiceObject κ μ}
    (conduct : ∀ callback event world, (react callback event world).Orderly)
    {deeds : List (Deed n (ServiceBackend σ) ServiceObject κ μ)}
    (orderly : ∀ deed ∈ deeds, deed.Orderly)
    {world : World n (ServiceBackend σ) ServiceObject κ μ}
    (reached : (fresh backends roster memory).afterAll pathExists react
      depth deeds = world)
    (apart : Hub.Apart world) :
    ((Hub.reload.start world).1.isOk = true → ∀ handle : Handle,
      handle.bound = true → (Hub.reload.start world).2.Tracked handle.udi →
      ((Hub.reload.start world).2.isValid handle = true ↔
        world.isValid handle = true)) ∧
    ∀ found, (Hub.everyDevice.start world).1.toOption = some found →
      (Hub.everyDevice.start world).2.Owning →
      (∀ handle ∈ found, handle.bound = true →
        handle.udi ≠ "" ∧ (Hub.everyDevice.start world).2.Tracked handle.udi) ∧
      ∀ handle : Handle, handle.bound = true → handle.udi ≠ "" →
        (Hub.everyDevice.start world).2.Tracked handle.udi →
        ((Hub.everyDevice.start world).2.isValid handle = true ↔
          world.isValid handle = true ∨ world.registry.slots[handle.udi]? =
            none) := by
  subst reached
  have anchored := anchored_afterAll (anchored_fresh roster memory new)
    pathExists conduct depth orderly
  constructor
  · intro answered handle bound tracked
    exact Hub.isValid_reload_iff anchored apart answered bound tracked
  · intro found answered owning
    exact Hub.isValid_everyDevice_iff anchored apart answered owning

section Bench

def disk : String := "/s/d/disk"

def newDisk : String := "/s/d/new"

/-- The service gets a second disk, and announces nothing. -/
def plugIn : Deed 1 (ServiceBackend MemoryService) ServiceObject Unit Unit :=
  .atBackend (Fin.last 0) (ServiceBackend.onCache
      fun _ => Cache.call (modify fun service => service.put newDisk
        (Std.ExtTreeMap.ofList [("s.Drive", ∅)])))

/-- A new registry over the service with one disk, after some deeds. -/
def benchAfter
    (deeds : List (Deed 1 (ServiceBackend MemoryService)
      ServiceObject Unit Unit)) :
    World 1 (ServiceBackend MemoryService) ServiceObject Unit Unit :=
  (fresh Hub.bench.backends [Fin.last 0] ()).afterAll (fun _ => true)
    (fun _ _ _ => .rest) 0 deeds

theorem isValid_after_resync_plugIn :
    (Hub.reload.start (benchAfter [.find disk, plugIn])).2.isValid
      ⟨disk, true⟩ = true ∧
      (Hub.everyDevice.start (benchAfter [.find disk, plugIn])).2.isValid
        ⟨newDisk, true⟩ = true := by
  have new : ∀ (i : Fin 1) (udi : String),
      (Hub.bench.backends.get i).objects[udi]? = none := by
    intro i udi
    obtain rfl : i = Fin.last 0 := Subsingleton.elim i _
    exact Std.ExtTreeMap.getElem?_empty
  have orderly : ∀ deed ∈ [.find disk, plugIn], deed.Orderly := by
    intro deed member
    rcases List.mem_cons.mp member with rfl | member
    · trivial
    · obtain rfl := List.mem_singleton.mp member
      exact ServiceBackend.orderly_serve _
  have rests : ∀ (_ : Unit) (_ : DeviceEvent)
    (_ : World 1 (ServiceBackend MemoryService)
      ServiceObject Unit Unit),
        (.rest : Conduct 1 (ServiceBackend MemoryService)
        ServiceObject Unit Unit).Orderly := fun _ _ _ => trivial
  have both := isValid_after_resync_iff new rests orderly
    (show _ = benchAfter [.find disk, plugIn] from rfl) (by decide +kernel)
  constructor
  · refine (both.1 ?_ _ rfl ⟨0, ?_, ?_⟩).mpr ?_ <;> decide +kernel
  · have answered : (Hub.everyDevice.start
      (benchAfter [.find disk, plugIn])).1.toOption =
        some [⟨disk, true⟩, ⟨newDisk, true⟩] := by
      decide +kernel
    obtain ⟨_, valid⟩ := both.2 _ answered (by decide +kernel)
    refine (valid ⟨newDisk, true⟩ rfl ?_ ⟨0, ?_, ?_⟩).mpr (.inr ?_) <;>
      decide +kernel

/-- The handle of a disk that was looked up before it was there is not repaired,
and finding all devices answers another handle that is not valid. -/
theorem isValid_after_resync_foundEarly :
    ⟨newDisk, true⟩ ∈ (benchAfter [.find newDisk, plugIn]).client.handles ∧
      (Hub.reload.start (benchAfter [.find newDisk, plugIn])).2.tracksAt
        0 newDisk = true ∧
      (Hub.reload.start (benchAfter [.find newDisk, plugIn])).2.isValid
        ⟨newDisk, true⟩ = false ∧
      (Hub.everyDevice.start (benchAfter [.find newDisk, plugIn])).1.toOption =
        some [⟨disk, true⟩, ⟨newDisk, true⟩] ∧
      (Hub.everyDevice.start (benchAfter [.find newDisk, plugIn])).2.isValid
        ⟨newDisk, true⟩ = false := by
  decide +kernel

end Bench

end World

end Hotplug
