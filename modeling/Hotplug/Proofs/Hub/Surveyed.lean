import Hotplug.Proofs.Hub.Calm

/-!
# Loading every backend again

A backend that tracks other identifiers after it was loaded again keeps doing
so, unless it tracks none at all; and then only identifiers that other backends
wrongly track can make it load once more. So a registry that tracks the same
before and after its backends were loaded again has tracked the same all the
time, and is still in step.
-/

namespace Hotplug

namespace Hub

variable {n : Nat} {σ κ ω : Type}
  {hub left start : Hub n (ServiceBackend σ) ServiceObject κ ω} {i : Fin n}
  {udi : String} {backend : ServiceBackend σ} {found : List Handle}
  {ids : List String} {done : List (Fin n)}

/-- The same backends are attached, and they have the same prefixes. -/
structure SameRouting (hub left : Hub n (ServiceBackend σ) ServiceObject κ ω) :
    Prop where
  roster : left.registry.roster = hub.registry.roster
  prefixes : ∀ i, left.prefixAt i = hub.prefixAt i

theorem SameRouting.ofBackend (routing : SameRouting hub left)
    (settings : backend.settings = (left.backendAt i).settings) :
    SameRouting hub (left.withBackend i backend) where
  roster := routing.roster
  prefixes j := (prefixAt_withBackend settings).trans (routing.prefixes j)

variable [Service σ]

theorem SameRouting.route? (routing : SameRouting hub left) (udi : String) :
    left.route? udi = hub.route? udi := by
  change
    left.registry.roster.find? (fun i => Text.startsBy udi (left.prefixAt i)) =
      hub.registry.roster.find? fun i => Text.startsBy udi (hub.prefixAt i)
  simp only [routing.roster, routing.prefixes]

theorem SameRouting.release (routing : SameRouting hub left) (handle : Handle) :
    SameRouting hub (left.release handle) := by
  unfold Hub.release
  split
  · exact ⟨routing.roster, routing.prefixes⟩
  · exact routing

theorem yields_find_of_mild
    {property : Hub n (ServiceBackend σ) ServiceObject κ ω → Prop}
    (slots : ∀ left change, property left → property (left.onSlots change))
    (mild : ∀ i backend, hub.route? udi = some i →
      ServiceBackend.Mild (hub.backendAt i) backend →
      property (hub.withBackend i backend))
    (holds : property hub) :
    (find udi).Yields hub (fun _ => property) property := by
  by_cases empty : udi = ""
  · subst empty
    exact yields_find_null.mpr holds
  · cases present : hub.registry.slots[udi]? with
    | some slot =>
        exact (yields_find_of_slot empty present).mpr (slots _ _ holds)
    | none =>
        rw [yields_find_of_no_slot empty present]
        refine (yields_makeObject_of_mild udi mild holds).mono ?_
          fun _ failed => failed
        intro object left outcome
        exact slots _ _ outcome.1

theorem yields_findAll_keeping
    {property : Hub n (ServiceBackend σ) ServiceObject κ ω → Prop}
    (releasing : ∀ left handle, property left →
      property (Hub.release handle left))
    (finding : ∀ udi ∈ ids, (find udi).Keeps property) (holds : property hub) :
    (findAll found ids).Yields hub (fun _ => property) property :=
  @yields_findAll_of _ _ _ _ _ _ (fun _ => property) [] _ _ (fun _ _ _ _ => id)
    (fun _ => releasing) ids (fun udi member _ => finding udi member) holds

/-- Whatever is found, a backend that tracks something goes on to track the
same. -/
theorem keeps_find_of_lasting {tracked : String → Bool}
    (some : ∃ other, tracked other = true) :
    (find udi).Keeps fun left => SameRouting start left ∧
      left.tracksAt i = tracked := by
  intro left outcome
  obtain ⟨routing, same⟩ := outcome
  apply yields_find_of_mild
  · intro left change outcome
    obtain ⟨routing, same⟩ := outcome
    exact ⟨⟨routing.roster, routing.prefixes⟩, same⟩
  · intro j backend _ mild
    refine ⟨routing.ofBackend mild.settings, ?_⟩
    rw [tracksAt_withBackend]
    split
    · next equal =>
        subst equal
        rcases mild.tracked with unchanged | none
        · rw [unchanged]
          exact same
        · obtain ⟨other, isTracked⟩ := some
          rw [← same, tracksAt, none other] at isTracked
          contradiction
    · exact same
  · exact ⟨routing, same⟩

theorem keeps_find_of_tracked {tracked : Fin n → String → Bool}
    (route : start.route? udi = some i) (isTracked : tracked i udi = true) :
    (find udi).Keeps fun left => SameRouting start left ∧ ∀ j,
      left.tracksAt j = tracked j := by
  intro left outcome
  obtain ⟨routing, same⟩ := outcome
  apply yields_find_of_mild
  · intro left change outcome
    obtain ⟨routing, same⟩ := outcome
    exact ⟨⟨routing.roster, routing.prefixes⟩, same⟩
  · intro j backend routed mild
    refine ⟨routing.ofBackend mild.settings, ?_⟩
    obtain rfl : i = j := by
      rw [routing.route?, route] at routed
      exact Option.some.inj routed
    rcases mild.tracked with unchanged | none
    · intro k
      exact (tracksAt_withBackend_of_same unchanged).trans (same k)
    · rw [← same i, tracksAt, none udi] at isTracked
      contradiction
  · exact ⟨routing, same⟩

/-- The backends that were loaded are `done`. Either all track what they tracked
at the start, or one of those does not. -/
structure Survey (start : Hub n (ServiceBackend σ) ServiceObject κ ω)
    (done : List (Fin n)) (hub : Hub n (ServiceBackend σ) ServiceObject κ ω) :
    Prop where
  routing : SameRouting start hub
  outcome : (InStep start.registry.roster (fun _ => []) hub ∧
      ∀ i ∈ start.registry.roster, hub.tracksAt i = start.tracksAt i) ∨
    ∃ i ∈ done, hub.tracksAt i ≠ start.tracksAt i

namespace Survey

theorem refl (inStep : InStep hub.registry.roster (fun _ => []) hub) :
    Survey hub [] hub :=
  ⟨⟨rfl, fun _ => rfl⟩, .inl ⟨inStep, fun _ _ => rfl⟩⟩

theorem mono (survey : Survey start done hub) {all : List (Fin n)}
    (more : ∀ i ∈ done, i ∈ all) :
    Survey start all hub := by
  refine ⟨survey.routing, survey.outcome.imp_right ?_⟩
  intro given
  obtain ⟨i, member, altered⟩ := given
  exact ⟨i, more i member, altered⟩

theorem inStep (survey : Survey start done hub)
    (attached : ∀ i ∈ done, i ∈ start.registry.roster)
    (same : ∀ i ∈ start.registry.roster, hub.tracksAt i = start.tracksAt i) :
    InStep start.registry.roster (fun _ => []) hub := by
  rcases survey.outcome with ⟨inStep, _⟩ | ⟨i, member, altered⟩
  · exact inStep
  · exact (altered (same i (attached i member))).elim

theorem ofUntouched (survey : Survey start done hub)
    (routing : SameRouting start left)
    (tracks : ∀ i, left.tracksAt i = hub.tracksAt i)
    (inStep : InStep start.registry.roster (fun _ => []) hub →
      InStep start.registry.roster (fun _ => []) left) :
    Survey start done left := by
  refine ⟨routing, ?_⟩
  rcases survey.outcome with ⟨wasInStep, same⟩ | ⟨i, member, altered⟩
  · refine .inl ⟨inStep wasInStep, ?_⟩
    intro i member
    rw [tracks]
    exact same i member
  · refine .inr ⟨i, member, ?_⟩
    rw [tracks]
    exact altered

theorem release (survey : Survey start done hub) (handle : Handle) :
    Survey start done (hub.release handle) :=
  survey.ofUntouched (survey.routing.release handle)
    (fun _ => tracksAt_release handle) fun inStep => inStep.release handle

theorem yields_reloadAt (survey : Survey start done hub)
    (member : i ∈ start.registry.roster) (once : i ∉ done) :
    (atBackend i Backend.reload).Yields hub
      (fun ids left => Survey start (done ++ [i]) left ∧
        ∀ udi, udi ∈ ids ↔ left.tracksAt i udi = true)
      (Survey start done) := by
  rw [yields_atBackend]
  refine (ServiceBackend.yields_reload (hub.backendAt i)).mono ?_ ?_
  · intro ids backend outcome
    obtain ⟨reloaded, tracked⟩ := outcome
    refine ⟨⟨survey.routing.ofBackend reloaded.settings, ?_⟩, ?_⟩
    · rcases survey.outcome with ⟨inStep, same⟩ | ⟨j, earlier, altered⟩
      · by_cases unchanged : backend.tracks = (hub.backendAt i).tracks
        · refine .inl ⟨inStep.ofReloaded reloaded unchanged, ?_⟩
          intro j memberToo
          rw [tracksAt_withBackend_of_same unchanged]
          exact same j memberToo
        · refine .inr ⟨i, by simp, ?_⟩
          rw [tracksAt_withBackend, if_pos rfl, ← same i member]
          exact unchanged
      · refine .inr ⟨j, List.mem_append_left _ earlier, ?_⟩
        have different : i ≠ j := by
          intro same
          obtain rfl := same
          exact once earlier
        rw [tracksAt_withBackend, if_neg different]
        exact altered
    · rw [tracksAt_withBackend, if_pos rfl]
      exact tracked
  · intro backend outcome
    obtain ⟨mild, unchanged⟩ := outcome
    apply survey.ofUntouched (survey.routing.ofBackend mild.settings)
    · exact fun j => tracksAt_withBackend_of_same unchanged
    · exact fun inStep => inStep.ofMild mild unchanged

theorem keeps_find_of_tracked (route : start.route? udi = some i)
    (isTracked : hub.tracksAt i udi = true) :
    (find udi).Keeps fun left =>
      (SameRouting start left ∧ ∀ j, left.tracksAt j = hub.tracksAt j) ∧
        (InStep start.registry.roster (fun _ => []) hub →
          InStep start.registry.roster (fun _ => []) left) := by
  intro left outcome
  obtain ⟨untouched, inStep⟩ := outcome
  have touches := @Hub.keeps_find_of_tracked _ _ _ _ _ _ _ _
    (fun j => hub.tracksAt j) route isTracked left untouched
  by_cases wasInStep : InStep start.registry.roster (fun _ => []) hub
  · have calm := Calm.ofInStep (inStep wasInStep)
    have inStepAfter : ∀ final : Hub n (ServiceBackend σ) ServiceObject κ ω,
        (SameRouting start final ∧ ∀ j, final.tracksAt j = hub.tracksAt j) →
        Calm start.registry.roster (fun j => left.tracksAt j)
          (fun _ => []) final →
        InStep start.registry.roster (fun _ => []) final := by
      intro final outcome calmFinal
      obtain ⟨_, same⟩ := outcome
      apply calmFinal.inStep
      intro j _
      rw [same, untouched.2]
    refine (touches.and (calm.yields_find udi)).mono ?_ ?_
    · intro handle final outcome
      obtain ⟨same, calmFinal⟩ := outcome
      exact ⟨same, fun _ => inStepAfter final same calmFinal⟩
    · intro final outcome
      obtain ⟨same, calmFinal⟩ := outcome
      exact ⟨same, fun _ => inStepAfter final same calmFinal⟩
  · refine touches.mono ?_ ?_
    · exact fun _ final same =>
        ⟨same, fun isInStep => (wasInStep isInStep).elim⟩
    · exact fun final same => ⟨same, fun isInStep => (wasInStep isInStep).elim⟩

theorem yields_findAll (survey : Survey start done hub)
    (inStep : InStep start.registry.roster (fun _ => []) start)
    (attached : i ∈ start.registry.roster) (loaded : i ∈ done)
    (answered : ∀ udi, udi ∈ ids ↔ hub.tracksAt i udi = true) :
    (findAll found ids).Yields hub (fun _ => Survey start done)
      (Survey start done) := by
  by_cases same : hub.tracksAt i = start.tracksAt i
  · have kept : (findAll found ids).Yields hub
        (fun _ left => (SameRouting start left ∧ ∀ j,
          left.tracksAt j = hub.tracksAt j) ∧
          (InStep start.registry.roster (fun _ => []) hub →
            InStep start.registry.roster (fun _ => []) left))
        fun left => (SameRouting start left ∧ ∀ j,
          left.tracksAt j = hub.tracksAt j) ∧
          (InStep start.registry.roster (fun _ => []) hub →
            InStep start.registry.roster (fun _ => []) left) := by
      apply yields_findAll_keeping
      · intro left handle outcome
        obtain ⟨⟨routing, tracks⟩, inStepLeft⟩ := outcome
        refine ⟨⟨routing.release handle, ?_⟩,
          fun wasInStep => (inStepLeft wasInStep).release handle⟩
        intro j
        rw [tracksAt_release, tracks]
      · intro udi member
        have isTracked := (answered udi).mp member
        apply keeps_find_of_tracked _ isTracked
        apply inStep.apart.route?_eq_some attached
        apply inStep.owning i attached udi
        rw [← same]
        exact isTracked
      · exact ⟨⟨survey.routing, fun _ => rfl⟩, id⟩
    refine kept.mono ?_ ?_
    · intro all left outcome
      obtain ⟨⟨routing, tracks⟩, inStepLeft⟩ := outcome
      exact survey.ofUntouched routing tracks inStepLeft
    · intro left outcome
      obtain ⟨⟨routing, tracks⟩, inStepLeft⟩ := outcome
      exact survey.ofUntouched routing tracks inStepLeft
  · by_cases some : ∃ udi, hub.tracksAt i udi = true
    · have kept : (findAll found ids).Yields hub
          (fun _ left => SameRouting start left ∧
            left.tracksAt i = hub.tracksAt i)
          fun left => SameRouting start left ∧ left.tracksAt i =
              hub.tracksAt i := by
        apply yields_findAll_keeping
        · intro left handle outcome
          obtain ⟨routing, lasting⟩ := outcome
          exact ⟨routing.release handle,
            (tracksAt_release handle).trans lasting⟩
        · exact fun udi _ => keeps_find_of_lasting some
        · exact ⟨survey.routing, rfl⟩
      refine kept.mono ?_ ?_
      · intro all left outcome
        obtain ⟨routing, lasting⟩ := outcome
        exact ⟨routing, .inr ⟨i, loaded, by rwa [lasting]⟩⟩
      · intro left outcome
        obtain ⟨routing, lasting⟩ := outcome
        exact ⟨routing, .inr ⟨i, loaded, by rwa [lasting]⟩⟩
    · have none : ids = [] := by
        rw [List.eq_nil_iff_forall_not_mem]
        intro udi member
        exact some ⟨udi, (answered udi).mp member⟩
      subst none
      exact survey

end Survey

section Loops

variable {rest : List (Fin n)}

theorem Survey.yields_round (survey : Survey start done hub)
    (inStep : InStep start.registry.roster (fun _ => []) start)
    (split : start.registry.roster = done ++ i :: rest) :
    (atBackend i Backend.reload).Yields hub
      (fun ids left => Survey start (done ++ [i]) left ∧
        ∀ udi, udi ∈ ids ↔ left.tracksAt i udi = true)
      (Survey start start.registry.roster) := by
  have attached : i ∈ start.registry.roster := by simp [split]
  refine (survey.yields_reloadAt attached
    (inStep.apart.not_mem_of_split split)).mono (fun _ _ => id) ?_
  intro left surveyLeft
  apply surveyLeft.mono
  intro j member
  simp [split, member]

theorem yields_reload
    (inStep : InStep start.registry.roster (fun _ => []) start) :
    reload.Yields start (fun _ => Survey start start.registry.roster)
      (Survey start start.registry.roster) := by
  rw [reload, Run.yields_bind, Run.yields_get]
  apply Run.yields_foldlM_done (fun done _ => Survey start done)
    (Survey.refl inStep)
  intro done i rest split count left survey
  rw [Run.yields_bind]
  exact (survey.yields_round inStep split).mono (fun _ _ => And.left)
    fun _ => id

theorem yields_everyDevice
    (inStep : InStep start.registry.roster (fun _ => []) start) :
    everyDevice.Yields start (fun _ => Survey start start.registry.roster)
      (Survey start start.registry.roster) := by
  rw [everyDevice, Run.yields_bind, Run.yields_get]
  apply Run.yields_foldlM_done (fun done _ => Survey start done)
    (Survey.refl inStep)
  intro done i rest split found left survey
  rw [Run.yields_bind, yields_whileHolding]
  refine (survey.yields_round inStep split).mono ?_ ?_
  · intro ids final outcome
    obtain ⟨surveyFinal, answered⟩ := outcome
    have attached : i ∈ start.registry.roster := by simp [split]
    refine (surveyFinal.yields_findAll inStep attached (by simp) answered).mono
      (fun _ _ => id) ?_
    intro last surveyLast
    apply surveyLast.mono
    intro j member
    rcases List.mem_append.mp member with earlier | now
    · simp [split, earlier]
    · rw [List.mem_singleton.mp now]
      exact attached
  · intro final surveyFinal
    exact @releaseAll_of _ _ _ _ _ _
      (fun _ => Survey start start.registry.roster) [] _
      (fun _ _ handle survey => survey.release handle) found surveyFinal

end Loops

end Hub

end Hotplug
