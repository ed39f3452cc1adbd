import Hotplug.Proofs.Backend.Table
import Hotplug.Proofs.Hub.Steps

/-!
# What queries answer

A query asks each backend for the capabilities that its predicate names, and
examines every listed device once. If the backends are truthfully surveyed by
censuses, it answers what the predicate selects in each of them.
-/

namespace Hotplug

namespace Hub

variable {n : Nat} {β ο κ ω : Type} [Backend β ο] {hub : Hub n β ο κ ω}
  {census : Fin n → Census β ο} {roster : List (Fin n)} {predicate : Predicate}
  {parent : Option String}

/-- The slot is bound to a living object that stands for the identifier. -/
def Binds (hub : Hub n β ο κ ω) (census : Census β ο) (i : Fin n) (udi : String)
    (slot : HandleSlot (ObjectRef n ο)) : Prop :=
  ∃ kept : Kept ο, slot.object = some ⟨i, kept⟩ ∧ hub.isAlive ⟨i, kept⟩ = true ∧
    census.stands udi kept (hub.backendAt i)

/-- Every attached backend is described by a truthful census, owns the
identifiers that it lists, and has bound the slots that they have. -/
structure Surveyed (hub : Hub n β ο κ ω) (census : Fin n → Census β ο)
    (roster : List (Fin n)) : Prop where
  attached : hub.registry.roster = roster
  truthful : ∀ i ∈ roster, (census i).Truthful
  holds : ∀ i ∈ roster, (census i).holds (hub.backendAt i)
  routed : ∀ i ∈ roster, ∀ udi, (census i).Listed udi → udi ≠ "" ∧
    hub.route? udi = some i
  bound : ∀ i ∈ roster, ∀ udi, (census i).Listed udi →
    ∀ slot, hub.registry.slots[udi]? = some slot →
      hub.Binds (census i) i udi slot

namespace Surveyed

variable {i : Fin n} {udi : String}

theorem withBackend (surveyed : hub.Surveyed census roster)
    (member : i ∈ roster) {backend : β}
    (onward : (census i).Onward (hub.backendAt i) backend) :
    (hub.withBackend i backend).Surveyed census roster where
  attached := surveyed.attached
  truthful := surveyed.truthful
  holds j attached := by
    rw [backendAt_withBackend]
    split
    · next equal =>
        subst equal
        exact onward.holds
    · exact surveyed.holds j attached
  routed j attached udi listed := by
    have truthful := surveyed.truthful i member
    rw [route?_withBackend]
    · exact surveyed.routed j attached udi listed
    · rw [truthful.describes backend onward.holds]
      exact (truthful.describes _ (surveyed.holds i member)).symm
  bound j attached udi listed slot found := by
    obtain ⟨kept, object, alive, stands⟩ :=
      surveyed.bound j attached udi listed slot found
    refine ⟨kept, object, ?_, ?_⟩
    · rw [isAlive, Bool.or_eq_true] at alive ⊢
      refine alive.imp_left ?_
      intro keeps
      rw [backendAt_withBackend]
      split
      · next equal =>
          subst equal
          exact onward.keeps udi kept stands keeps
      · exact keeps
    · rw [backendAt_withBackend]
      split
      · next equal =>
          subst equal
          exact onward.stands udi kept stands
      · exact stands

theorem onSlots (surveyed : hub.Surveyed census roster)
    {change : HandleTable (ObjectRef n ο) → HandleTable (ObjectRef n ο)}
    (bound : ∀ i ∈ roster, ∀ udi, (census i).Listed udi →
      ∀ slot, (change hub.registry.slots)[udi]? = some slot →
        hub.Binds (census i) i udi slot) :
    (hub.onSlots change).Surveyed census roster where
  attached := surveyed.attached
  truthful := surveyed.truthful
  holds := surveyed.holds
  routed := surveyed.routed
  bound := bound

/-- A listed identifier gets a handle of a slot that is bound. -/
theorem yields_find (surveyed : hub.Surveyed census roster)
    (member : i ∈ roster) (listed : (census i).Listed udi) :
    (find udi).Yields hub
      (fun handle left => handle = ⟨udi, true⟩ ∧ left.Surveyed census roster ∧
        ∃ slot, left.registry.slots[udi]? = some slot)
      fun _ => False := by
  obtain ⟨named, route⟩ := surveyed.routed i member udi listed
  cases found : hub.registry.slots[udi]? with
  | some slot =>
      rw [yields_find_of_slot named found]
      refine ⟨rfl, surveyed.onSlots ?_, by simp⟩
      intro j attached other otherListed changed otherFound
      rw [Named.getElem?_insert] at otherFound
      split at otherFound
      · next same =>
          subst same
          cases otherFound
          exact surveyed.bound j attached udi otherListed slot found
      · exact surveyed.bound j attached other otherListed changed otherFound
  | none =>
      have truthful := surveyed.truthful i member
      simp only [yields_find_of_no_slot named found, yields_makeObject,
        route, yields_atBackend]
      refine (truthful.resolves _ (surveyed.holds i member) udi listed).mono ?_
        fun _ none => none
      intro object backend outcome
      obtain ⟨onward, kept, rfl, stands, keeps⟩ := outcome
      have after := surveyed.withBackend member onward
      refine ⟨trivial, after.onSlots ?_,
        by simp [HandleTable.getElem?_acquireWith]⟩
      intro j attached other otherListed slot otherFound
      rw [HandleTable.getElem?_acquireWith] at otherFound
      split at otherFound
      · next same =>
          subst same
          -- The identifier is routed to one backend only.
          obtain rfl : j = i := by
            have otherRoute := (surveyed.routed j attached udi otherListed).2
            rw [route] at otherRoute
            exact (Option.some.inj otherRoute).symm
          cases otherFound
          refine ⟨kept, ?_, ?_, ?_⟩
          · simp [HandleTable.acquired, found, HandleSlot.isValid,
              HandleSlot.living]
          · rw [isAlive, backendAt_withBackend, if_pos rfl, keeps, Bool.true_or]
          · rw [backendAt_withBackend, if_pos rfl]
            exact stands
      · exact after.bound j attached other otherListed slot otherFound

theorem release (surveyed : hub.Surveyed census roster) (handle : Handle) :
    (hub.release handle).Surveyed census roster := by
  unfold Hub.release
  split
  · refine surveyed.onSlots ?_
    intro j attached udi listed slot found
    rw [HandleTable.getElem?_release] at found
    split at found
    · next same =>
        subst same
        cases before : hub.registry.slots[handle.udi]? with
        | none => simp [before] at found
        | some held =>
            rw [before, Option.bind_some, HandleTable.released] at found
            split at found
            · cases found
            · cases found
              exact surveyed.bound j attached handle.udi listed held before
    · exact surveyed.bound j attached udi listed slot found
  · exact surveyed

/-- Within the hub a device still answers as its profile says. -/
theorem answersAs_deviceAt (member : i ∈ roster) (kept : Kept ο) :
    (deviceAt ⟨i, kept⟩ : Device (Run (Hub n β ο κ ω))).AnswersAs
      ((census i).profile udi)
      fun left => left.Surveyed census roster ∧
        (census i).stands udi kept (left.backendAt i) where
  capabilities state steady := by
    obtain ⟨surveyed, stands⟩ := steady
    have holds := surveyed.holds i member
    have answers := (surveyed.truthful i member).answers _ holds udi kept stands
    refine yields_atBackend.mpr ?_
    refine (answers.capabilities _ ⟨holds, fun _ _ => id, fun _ _ _ => id⟩).mono
      ?_ fun _ => id
    intro reported backend outcome
    obtain ⟨same, onward⟩ := outcome
    refine ⟨same, surveyed.withBackend member onward, ?_⟩
    rw [backendAt_withBackend, if_pos rfl]
    exact onward.stands udi kept stands
  property state steady capability name reported := by
    obtain ⟨surveyed, stands⟩ := steady
    have holds := surveyed.holds i member
    have answers := (surveyed.truthful i member).answers _ holds udi kept stands
    refine yields_atBackend.mpr ?_
    refine (answers.property _ ⟨holds, fun _ _ => id, fun _ _ _ => id⟩
      capability name reported).mono ?_ fun _ => id
    intro value backend outcome
    obtain ⟨same, onward⟩ := outcome
    refine ⟨same, surveyed.withBackend member onward, ?_⟩
    rw [backendAt_withBackend, if_pos rfl]
    exact onward.stands udi kept stands

end Surveyed

section Examining

variable {i : Fin n} {udi : String}

/-- The handle of an identifier is answered if the predicate is true of its
device. -/
theorem yields_examine (surveyed : hub.Surveyed census roster)
    (member : i ∈ roster) (listed : (census i).Listed udi) :
    (examine predicate udi).Yields hub
      (fun found left =>
        found = (if predicate.truth ((census i).profile udi) then
          some ⟨udi, true⟩ else none) ∧ left.Surveyed census roster)
      fun _ => False := by
  rw [examine, Run.yields_bind]
  refine (surveyed.yields_find member listed).mono ?_ fun _ none => none
  intro handle left outcome
  obtain ⟨rfl, surveyedLeft, slot, found⟩ := outcome
  obtain ⟨kept, object, alive, stands⟩ :=
    surveyedLeft.bound i member udi listed slot found
  have living : left.object? ⟨udi, true⟩ = some ⟨i, kept⟩ := by
    simp [object?, HandleTable.object?, found, HandleSlot.living, object, alive]
  rw [Run.yields_bind, yields_whileHolding, yields_ask, living]
  refine (Predicate.yields_selects
    (Surveyed.answersAs_deviceAt member kept) predicate
    ⟨surveyedLeft, stands⟩).mono ?_ fun _ none => none
  intro matched final outcome
  obtain ⟨rfl, surveyedFinal, _⟩ := outcome
  split
  · exact ⟨rfl, surveyedFinal⟩
  · rw [Run.yields_bind, Run.yields_modify]
    exact ⟨rfl, surveyedFinal.release _⟩

/-- The handles of identifiers that are selected and were not seen before. -/
def unseen (census : Census β ο) (predicate : Predicate)
    (seen ids : List String) :
    List Handle :=
  (ids.filter fun udi =>
    !seen.contains udi && predicate.truth (census.profile udi)).map
      fun udi => ⟨udi, true⟩

/-- The devices of one listing are examined unless their backend listed them
before. -/
theorem yields_queryCapability (surveyed : hub.Surveyed census roster)
    (member : i ∈ roster) (state : QueryState) (capability : Capability) :
    (queryCapability predicate parent i state capability).Yields hub
      (fun after left =>
        (∀ udi, udi ∈ after.seen ↔
          udi ∈ state.seen ∨ udi ∈ (census i).listing parent capability) ∧
        after.found = state.found ++
          unseen (census i) predicate state.seen
            ((census i).listing parent capability) ∧
        left.Surveyed census roster)
      fun _ => False := by
  have truthful := surveyed.truthful i member
  have nodup := truthful.nodupListing parent capability
  simp only [queryCapability, Run.yields_bind, yields_whileHolding,
    yields_atBackend]
  refine (truthful.lists _ (surveyed.holds i member) parent capability).mono ?_
    fun _ none => none
  intro ids backend outcome
  obtain ⟨rfl, onward⟩ := outcome
  refine Run.yields_foldlM_done
    (fun (done : List String) (after : QueryState) (left : Hub n β ο κ ω) =>
      (∀ udi, udi ∈ after.seen ↔ udi ∈ state.seen ∨ udi ∈ done) ∧
      after.found = state.found ++ unseen (census i) predicate state.seen done ∧
      left.Surveyed census roster)
    ⟨by simp, by simp [unseen], surveyed.withBackend member onward⟩ ?_
  intro done udi rest split state left outcome
  obtain ⟨seen, found⟩ := state
  obtain ⟨memSeen, rfl, surveyedLeft⟩ := outcome
  have notDone : udi ∉ done := by
    rw [split] at nodup
    exact fun earlier => (List.nodup_append.mp nodup).2.2 udi
      earlier udi (by simp) rfl
  have memIff : udi ∈ seen ↔ udi ∈ state.seen := by simp [memSeen, notDone]
  rw [examineOnce]
  by_cases before : udi ∈ state.seen
  · rw [if_pos (by simpa using memIff.mpr before)]
    refine ⟨?_, by simp [unseen, before], surveyedLeft⟩
    intro other
    by_cases same : other = udi
    · subst same
      simp [memSeen, before]
    · simp [memSeen, same]
  · rw [if_neg (by simpa using fun member => before (memIff.mp member)),
      Run.yields_bind, yields_whileHolding]
    have listed : (census i).Listed udi := ⟨parent, capability, by simp [split]⟩
    refine (yields_examine surveyedLeft member listed).mono ?_
      fun _ none => none
    intro answer final outcome
    obtain ⟨rfl, surveyedFinal⟩ := outcome
    refine ⟨?_, ?_, surveyedFinal⟩
    · intro other
      simp only [List.mem_cons, memSeen, List.mem_append]
      grind
    · by_cases holds : predicate.truth ((census i).profile udi) = true
      · simp [unseen, before, holds]
      · simp [unseen, before, holds]

/-- Among what is listed for the next capability, the unseen is what it
leads. -/
theorem unseen_eq_selection (truthful : (census i).Truthful)
    {done rest : List Capability} {capability : Capability}
    (split : (census i).askedFor predicate = done ++ capability :: rest)
    {seen : List String}
    (memSeen : ∀ udi, udi ∈ seen ↔ ∃ earlier ∈ done,
      udi ∈ (census i).listing parent earlier) :
    unseen (census i) predicate seen ((census i).listing parent capability) =
      ((census i).selection predicate parent capability).map
        fun udi => ⟨udi, true⟩ := by
  rw [unseen, Census.selection]
  congr 1
  refine List.filter_congr ?_
  intro udi listed
  congr 1
  rw [Bool.eq_iff_iff]
  have leads := truthful.leading?_eq_some_iff split listed
  simp only [Bool.not_eq_true', List.contains_eq_mem,
    decide_eq_false_iff_not, memSeen, beq_iff_eq, leads, not_exists, not_and]

theorem yields_queryBackend (surveyed : hub.Surveyed census roster)
    (member : i ∈ roster) (found : List Handle) :
    (queryBackend predicate parent found i).Yields hub
      (fun all left =>
        all = found ++ (predicate.usedCapabilities.flatMap
          ((census i).selection predicate parent)).map
            (fun udi => ⟨udi, true⟩) ∧
        left.Surveyed census roster)
      fun _ => False := by
  have truthful := surveyed.truthful i member
  have described : hub.descriptorAt i = (census i).descriptor :=
    truthful.describes _ (surveyed.holds i member)
  simp only [queryBackend, Run.yields_bind, Run.yields_get,
    Run.yields_pure, described]
  rw [← truthful.flatMap_selection_askedFor]
  refine (Run.yields_foldlM_done
    (fun (done : List Capability) (after : QueryState) (left : Hub n β ο κ ω) =>
      (∀ udi, udi ∈ after.seen ↔
        ∃ earlier ∈ done, udi ∈ (census i).listing parent earlier) ∧
      after.found = found ++
        (done.flatMap ((census i).selection predicate parent)).map
          (fun udi => ⟨udi, true⟩) ∧
      left.Surveyed census roster)
    ⟨by simp, by simp, surveyed⟩ ?_).mono ?_ fun _ none => none
  · intro done capability rest split state left outcome
    obtain ⟨memSeen, foundSoFar, surveyedLeft⟩ := outcome
    refine (yields_queryCapability surveyedLeft member state capability).mono ?_
      fun _ none => none
    intro after final outcome
    obtain ⟨memAfter, foundAfter, surveyedFinal⟩ := outcome
    refine ⟨?_, ?_, surveyedFinal⟩
    · intro udi
      simp [memAfter, memSeen, or_and_right, exists_or]
    · rw [foundAfter, foundSoFar, unseen_eq_selection truthful split memSeen]
      simp
  · intro after final outcome
    obtain ⟨_, foundAll, surveyedFinal⟩ := outcome
    exact ⟨foundAll, surveyedFinal⟩

end Examining

theorem yields_select (surveyed : hub.Surveyed census roster)
    (shaped : predicate.WellShaped) :
    (select predicate parent).Yields hub
      (fun all left =>
        all = roster.flatMap (fun i => (predicate.usedCapabilities.flatMap
          ((census i).selection predicate parent)).map fun udi => ⟨udi, true⟩) ∧
        left.Surveyed census roster)
      fun _ => False := by
  rw [select, shaped.isValid, shaped.isEmpty_eq_false]
  simp only [Bool.not_true, Bool.false_eq_true, if_false, Run.yields_bind,
    Run.yields_get]
  rw [surveyed.attached]
  refine Run.yields_foldlM_done
    (fun (done : List (Fin n)) (all : List Handle) (left : Hub n β ο κ ω) =>
      all = done.flatMap (fun i => (predicate.usedCapabilities.flatMap
        ((census i).selection predicate parent)).map fun udi => ⟨udi, true⟩) ∧
      left.Surveyed census roster)
    ⟨rfl, surveyed⟩ ?_
  intro done i rest split found left outcome
  obtain ⟨rfl, surveyedLeft⟩ := outcome
  refine (yields_queryBackend surveyedLeft (by simp [split]) _).mono ?_
    fun _ none => none
  intro all final outcome
  obtain ⟨rfl, surveyedFinal⟩ := outcome
  exact ⟨by simp, surveyedFinal⟩

/-- A query with a text that is parsed to a predicate other than the empty one
answers, backend by backend in the order of registration, exactly the devices
under the parent on which the predicate is true: each once for each backend,
ordered by the least capability that the predicate names and the device reports,
and then as the backend lists them. -/
theorem exists_selects_of_query {text : String}
    (surveyed : hub.Surveyed census hub.registry.roster)
    (parsed : Predicate.parse text = .ok predicate)
    (filled : predicate.isEmpty = false) (parent : Option String) :
    ∃ (answers : Fin n → List String) (left : Hub n β ο κ ω),
      (query text parent).start hub =
          (.ok (hub.registry.roster.flatMap fun i =>
            (answers i).map fun udi => ⟨udi, true⟩), left) ∧
        ∀ i ∈ hub.registry.roster,
          (census i).Selects predicate parent (answers i) := by
  have shaped := Predicate.wellShaped_of_parse parsed filled
  obtain ⟨_, left, start, rfl, _⟩ :=
    (yields_select surveyed shaped).exists_start
  have same : query text parent =
      (select predicate parent : Run (Hub n β ο κ ω) _) := by
    rw [query, Predicate.parseOrInvalid, parsed]
  refine ⟨_, left, same ▸ start, ?_⟩
  intro i member
  exact (surveyed.truthful i member).selects_flatMap_selection shaped parent

/-- Disks with a partition, and a battery, on two backends of their own. -/
def workshop : Hub 2 TableBackend FixedDevice Unit Unit where
  backends :=
    let disks : TableBackend :=
      { descriptor := .make "/disk" [.block, .storageDrive] }
    let cells : TableBackend := { descriptor := .make "/cell" [.battery] }
    #v[(disks.insert ⟨"/disk/part", some "/disk/whole", "",
      [.block], []⟩).insert ⟨"/disk/whole", none, "",
        [.block, .storageDrive], []⟩,
      cells.insert ⟨"/cell/0", none, "", [.battery], []⟩]
  registry := { roster := [1, 0] }
  client := ()

theorem surveyed_workshop :
    workshop.Surveyed (fun i => (workshop.backendAt i).census)
      workshop.registry.roster where
  attached := rfl
  truthful i _ := by
    refine TableBackend.truthful_census ?_ ?_
    · revert i
      decide
    · intro udi kept held
      have every : ∀ i : Fin 2, ∀ entry ∈ (workshop.backendAt i).devices.toList,
          ∀ capability ∈ entry.2.object.capabilities,
            capability ∈ (workshop.backendAt i).descriptor.supported := by
              decide +kernel
      exact every i (udi, kept)
        (Std.ExtTreeMap.mem_toList_iff_getElem?_eq_some.mpr held)
  holds _ _ := rfl
  routed i _ udi listed := by
    obtain ⟨parent, capability, member⟩ := listed
    have every : ∀ i : Fin 2, ∀ entry ∈ (workshop.backendAt i).devices.toList,
        entry.1 ≠ "" ∧ workshop.route? entry.1 = some i := by decide +kernel
    have listsOnly : ∀ i : Fin 2, (workshop.backendAt i).extraIds = [] := by
      decide
    obtain ⟨kept, held, _⟩ := (TableBackend.mem_select (listsOnly i)).mp member
    exact every i (udi, kept)
      (Std.ExtTreeMap.mem_toList_iff_getElem?_eq_some.mpr held)
  bound _ _ udi _ slot found := by
    have none : workshop.registry.slots = ∅ := rfl
    simp [none] at found

theorem exists_selects_of_query_workshop :
    ∃ (predicate : Predicate) (answers : Fin 2 → List String)
      (left : Hub 2 TableBackend FixedDevice Unit Unit),
      Predicate.parse "IS Battery OR Block.Label == 'x' OR IS StorageDrive" =
        .ok predicate ∧ predicate.isEmpty = false ∧
        (query "IS Battery OR Block.Label == 'x' OR IS StorageDrive" none).start
          workshop = (.ok ([(1 : Fin 2), 0].flatMap fun i =>
            (answers i).map fun udi => ⟨udi, true⟩), left) ∧
        ∀ i ∈ [(1 : Fin 2), 0],
          workshop.backends[i].census.Selects predicate none (answers i) := by
  have parses :
    ((Predicate.parse
      "IS Battery OR Block.Label == 'x' OR IS StorageDrive").toOption.any
      fun predicate => !predicate.isEmpty) = true := by decide +kernel
  cases parsed : Predicate.parse
      "IS Battery OR Block.Label == 'x' OR IS StorageDrive" with
  | error failure =>
      rw [parsed] at parses
      cases parses
  | ok predicate =>
      rw [parsed] at parses
      have filled : predicate.isEmpty = false := by
        simpa [Except.toOption] using parses
      obtain ⟨answers, left, start, selects⟩ :=
        exists_selects_of_query surveyed_workshop parsed filled none
      exact ⟨predicate, answers, left, rfl, filled, start, selects⟩

end Hub

end Hotplug
