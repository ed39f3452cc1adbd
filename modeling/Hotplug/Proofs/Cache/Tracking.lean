import Hotplug.Cache.Fetch
import Hotplug.Proofs.Cache.Signals

/-!
# Which identifiers are tracked

Reading tracks nothing new, and a cache that is loaded on the way was empty
before. The events of a signal tell exactly how the tracked identifiers change;
a signal that crashes does not change them.
-/

namespace Hotplug

namespace DeviceEvent

/-- The event says of an identifier that it is tracked, or that it no longer
is. -/
def Moves (udi : String) (event : DeviceEvent) : Prop :=
  event = added udi ∨ event = removed udi

variable {udi : String} {tracked other : String → Bool}
  {events : List DeviceEvent}

theorem Moves.udi_eq {event : DeviceEvent} (moves : event.Moves udi) :
    event.udi = udi := by
  rcases moves with rfl | rfl <;> rfl

theorem applyTo_of_moves {event : DeviceEvent} (moves : event.Moves udi) :
    event.applyTo tracked udi = event.applyTo other udi := by
  rcases moves with rfl | rfl <;> simp [applyTo]

theorem applyTo_of_not_moves {event : DeviceEvent} (still : ¬event.Moves udi) :
    event.applyTo tracked udi = tracked udi := by
  cases event with
  | added moved =>
      have apart : udi ≠ moved := by
        intro same
        obtain rfl := same
        exact still (.inl rfl)
      simp [applyTo, apart]
  | removed moved =>
      have apart : udi ≠ moved := by
        intro same
        obtain rfl := same
        exact still (.inr rfl)
      simp [applyTo, apart]
  | changed moved changes => rfl

theorem replay_cons {event : DeviceEvent} :
    replay tracked (event :: events) =
      replay (event.applyTo tracked) events := rfl

theorem replay_append {later : List DeviceEvent} :
    replay tracked (events ++ later) =
      replay (replay tracked events) later := by
  rw [replay, List.foldl_append]
  rfl

theorem replay_congr (same : tracked udi = other udi) :
    replay tracked events udi = replay other events udi := by
  induction events generalizing tracked other with
  | nil => exact same
  | cons event events induction =>
      apply induction
      by_cases moves : event.Moves udi
      · exact applyTo_of_moves moves
      · rw [applyTo_of_not_moves moves, applyTo_of_not_moves moves, same]

/-- What moves an identifier last decides, whatever was tracked before. -/
theorem replay_of_moves (moves : ∃ event ∈ events, event.Moves udi) :
    replay tracked events udi = replay other events udi := by
  induction events generalizing tracked other with
  | nil => simp at moves
  | cons event events induction =>
      rw [replay_cons, replay_cons]
      by_cases here : event.Moves udi
      · exact replay_congr (applyTo_of_moves here)
      · obtain ⟨later, member, moved⟩ := moves
        rcases List.mem_cons.mp member with rfl | member
        · exact (here moved).elim
        · exact induction ⟨later, member, moved⟩

theorem replay_of_not_moves (still : ¬∃ event ∈ events, event.Moves udi) :
    replay tracked events udi = tracked udi := by
  induction events generalizing tracked with
  | nil => rfl
  | cons event events induction =>
      have here : ¬event.Moves udi := fun moves => still ⟨event, by simp, moves⟩
      have later : ¬∃ event ∈ events, event.Moves udi := by
        intro given
        obtain ⟨event, member, moves⟩ := given
        exact still ⟨event, by simp [member], moves⟩
      exact (induction later).trans (applyTo_of_not_moves here)

theorem replay_of_not_added (untracked : tracked udi = false)
    (quiet : .added udi ∉ events) :
    replay tracked events udi = false := by
  induction events generalizing tracked with
  | nil => exact untracked
  | cons event events induction =>
      rw [List.mem_cons, not_or] at quiet
      refine induction ?_ quiet.2
      by_cases moves : event.Moves udi
      · obtain rfl := moves.resolve_left (Ne.symm quiet.1)
        simp [applyTo]
      · rw [applyTo_of_not_moves moves, untracked]

theorem added_mem_of_replay (before : tracked udi = false)
    (after : replay tracked events udi = true) : added udi ∈ events := by
  refine Decidable.byContradiction fun quiet => ?_
  rw [replay_of_not_added before quiet] at after
  cases after

theorem removed_mem_of_replay (before : tracked udi = true)
    (after : replay tracked events udi = false) : removed udi ∈ events := by
  induction events generalizing tracked with
  | nil =>
      rw [replay, List.foldl_nil, before] at after
      contradiction
  | cons event events induction =>
      by_cases here : event = removed udi
      · simp [here]
      · apply List.mem_cons_of_mem
        apply induction _ after
        by_cases moves : event.Moves udi
        · obtain rfl := moves.resolve_right here
          simp [applyTo]
        · rw [applyTo_of_not_moves moves, before]

end DeviceEvent

namespace Cache

variable {σ : Type} {cache : Cache σ} {settings : CacheSettings σ}

/-- The step may load an empty cache, and leaves the tracked identifiers alone
otherwise. -/
def Gentle {α : Type} (step : Run (Cache σ) α) : Prop :=
  ∀ cache : Cache σ, step.Yields cache
    (fun _ left => left.tracks = cache.tracks ∨ cache.devices.isEmpty = true)
    fun left => left.tracks = cache.tracks ∨ cache.devices.isEmpty = true

theorem tracks_eq_false_of_isEmpty (empty : cache.devices.isEmpty = true)
    (udi : String) :
    cache.tracks udi = false := by
  rw [Bool.eq_false_iff, Ne, tracks_iff, Named.isEmpty_iff_forall.mp empty udi]
  simp

/-- The step tracks what was tracked before. -/
def SameTracked {α : Type} (step : Run (Cache σ) α) : Prop :=
  ∀ tracked, step.Keeps fun cache : Cache σ => cache.tracks = tracked

theorem SameTracked.gentle {α : Type} {step : Run (Cache σ) α}
    (same : SameTracked step) :
    Gentle step := by
  intro cache
  exact (same cache.tracks cache rfl).mono (fun _ _ => Or.inl) fun _ => Or.inl

theorem sameTracked_call {α : Type} (step : Run σ α) :
    SameTracked (call step : Run (Cache σ) α) :=
  preserves_call (fun _ _ => rfl) step

/-- The events are those by which the tracked identifiers change, and no
identifier is moved that is tracked neither before nor after. -/
structure Told (before after : Cache σ) (events : List DeviceEvent) : Prop where
  replayed : after.tracks = DeviceEvent.replay before.tracks events
  concerned : ∀ event ∈ events, ∀ udi, event.Moves udi →
    before.tracks udi = true ∨ after.tracks udi = true

theorem Told.none {before after : Cache σ}
    (same : after.tracks = before.tracks) :
    Told before after [] :=
  ⟨same, by simp⟩

theorem Told.added {before after : Cache σ} {udi : String}
    (tracks : ∀ other, after.tracks other =
      (other == udi || before.tracks other)) :
    Told before after [.added udi] where
  replayed := funext tracks
  concerned := by
    intro event member other moves
    obtain rfl : event = .added udi := by simpa using member
    rcases moves with same | absurd
    · cases same
      right
      simp [tracks]
    · cases absurd

theorem Told.removed {before after : Cache σ} {udi : String}
    (tracked : before.tracks udi = true)
    (tracks : ∀ other, after.tracks other =
      (other != udi && before.tracks other)) :
    Told before after [.removed udi] where
  replayed := funext tracks
  concerned := by
    intro event member other moves
    obtain rfl : event = .removed udi := by simpa using member
    rcases moves with absurd | same
    · cases absurd
    · cases same
      exact .inl tracked

theorem Told.after_reports {before after : Cache σ}
    {reports events : List DeviceEvent}
    (still : ∀ event ∈ reports, ∀ udi, ¬event.Moves udi)
    (told : Told before after events) :
    Told before after (reports ++ events) where
  replayed := by
    have unmoved : DeviceEvent.replay before.tracks reports =
        before.tracks := by
      funext udi
      apply DeviceEvent.replay_of_not_moves
      intro given
      obtain ⟨event, member, moves⟩ := given
      exact still event member udi moves
    rw [DeviceEvent.replay_append, unmoved]
    exact told.replayed
  concerned := by
    intro event member udi moves
    rcases List.mem_append.mp member with early | late
    · exact (still event early udi moves).elim
    · exact told.concerned event late udi moves

theorem tracks_insert (udi : String) {devices : Named Snapshot} {other : String}
    {snapshot : Snapshot}
    (same : cache.devices = devices.insert udi snapshot) :
    cache.tracks other = (other == udi || devices.contains other) := by
  rw [tracks, same, Bool.eq_iff_iff]
  simp [@eq_comm _ udi other]

theorem tracks_erase (udi : String) {devices : Named Snapshot} {other : String}
    (same : cache.devices = devices.erase udi) :
    cache.tracks other = (other != udi && devices.contains other) := by
  rw [tracks, same, Bool.eq_iff_iff]
  simp [@eq_comm _ udi other]

theorem yields_absorbRemoved_told (udi : String) (interfaces : List String)
    (cache : Cache σ) :
    (absorbRemoved settings udi interfaces).Yields cache
      (fun events left => Told cache left events) fun left => left.tracks =
        cache.tracks := by
  rw [absorbRemoved]
  split
  · exact Told.none rfl
  · rw [Run.yields_bind, Run.yields_get]
    cases found : cache.devices[udi]? with
    | none => exact Told.none rfl
    | some snapshot =>
        have tracked : cache.tracks udi = true := by simp [tracks_iff, found]
        dsimp only
        split
        · exact Told.removed tracked fun other => tracks_erase udi rfl
        · constructor
          · funext other
            rw [tracks_insert udi rfl]
            by_cases equal : other = udi
            · subst equal
              simp [DeviceEvent.replay, DeviceEvent.applyTo]
            · have apart : (other == udi) = false := by simpa using equal
              simp [DeviceEvent.replay, DeviceEvent.applyTo, tracks, bne, apart]
          · intro event member other moves
            have here : other = udi := by
              rcases moves with rfl | rfl <;> simpa using member
            subst here
            exact .inl tracked

theorem yields_absorbMedia_told (settings : CacheSettings σ) (udi : String)
    (size : UInt64) (changed : Properties) (cache : Cache σ) :
    (absorbMedia settings udi (cache.tracks udi) size changed).Yields cache
      (fun events left => Told cache left events) fun left => left.tracks =
        cache.tracks := by
  refine yields_absorbMedia_judged.mono ?_ fun left failed => by
    rw [failed.1]; rfl
  intro events left judged
  rcases judged.cases with ⟨rfl, same⟩ | ⟨-, rfl,
    inserted⟩ | ⟨tracked, rfl, erased⟩
  · apply Told.none
    funext other
    rw [tracks, tracks, same]
  · exact Told.added fun other => tracks_insert udi inserted
  · exact Told.removed tracked fun other => tracks_erase udi erased

theorem yields_absorbChanged_told (udi interface : String)
    (changed : Properties) (invalidated : List String) (cache : Cache σ) :
    (absorbChanged settings udi interface changed invalidated).Yields cache
      (fun events left => Told cache left events) fun left => left.tracks =
        cache.tracks := by
  by_cases dropped : udi = "" ∨
    ¬Text.startsBy udi settings.config.identifierPrefix = true ∨
      settings.config.leavesOut udi = true
  · rw [absorbChanged_of_dropped dropped]
    exact Told.none rfl
  · rw [yields_absorbChanged_iff dropped]
    have still : ∀ event ∈ cache.changeReport udi
      (modifications changed.plain invalidated),
        ∀ other, ¬event.Moves other := by
      intro event member other moves
      unfold changeReport at member
      split at member
      · obtain rfl := List.mem_singleton.mp member
        rcases moves with absurd | absurd <;> cases absurd
      · simp at member
    have same : (cache.onDevice udi fun snapshot =>
        snapshot.applyChanges interface changed.plain invalidated).tracks =
            cache.tracks :=
      funext fun _ => tracks_onDevice
    cases reportedSize? settings.config interface changed.plain with
    | none =>
        have told := Told.after_reports still (Told.none same)
        rwa [List.append_nil] at told
    | some size =>
        have judged := yields_absorbMedia_told settings udi
          (size.toUInt64?.getD 0) changed.plain
              (cache.onDevice udi fun snapshot => snapshot.applyChanges
                interface changed.plain invalidated)
        rw [congrFun same udi] at judged
        refine judged.mono ?_ ?_
        · intro events left told
          apply Told.after_reports still
          exact ⟨same ▸ told.replayed, same ▸ told.concerned⟩
        · intro left failed
          exact failed.trans same

variable [Service σ]

theorem sameTracked_fetchClaimed (key : PropertyKey) :
    SameTracked (fetchClaimed key : Run (Cache σ) (Option Value)) :=
  Run.Preserves.bind (sameTracked_call _) fun _ =>
    .bind (.ofChange fun _ => funext fun _ => tracks_onDevice) fun _ => .pure _

theorem sameTracked_read (key : PropertyKey) (reach : Reach) :
    SameTracked (read key reach : Run (Cache σ) (Option Value)) := by
  intro tracked cache same
  rw [read, Run.yields_bind, Run.yields_get]
  split
  · exact same
  · exact same
  · rw [Run.yields_bind, Run.yields_modify, Run.yields_ensuring]
    exact sameTracked_fetchClaimed key tracked _ same

theorem sameTracked_readAnywhere (udi property : String) (reach : Reach) :
    SameTracked (readAnywhere udi property reach : Run (Cache σ)
      (Option Value)) := by
  refine Run.Preserves.get.bind fun cache => ?_
  split
  · exact .pure _
  · exact sameTracked_read _ reach

theorem sameTracked_refetch (udi interface : String) :
    SameTracked (refetch udi interface : Run (Cache σ) Unit) := by
  refine Run.Preserves.bind (sameTracked_call _) fun reply => ?_
  cases reply with
  | error reason => exact .pure _
  | ok properties => exact .ofChange fun _ => funext fun _ => tracks_onDevice

/-- A crash while loading changes nothing, for the service answers first. -/
theorem yields_reload_tracks (cache : Cache σ) :
    (reload settings).Yields cache
      (fun ids left => ∀ udi, udi ∈ ids ↔ left.tracks udi = true)
      fun left => left.tracks = cache.tracks := by
  rw [reload, Run.yields_bind]
  refine (sameTracked_call _ cache.tracks cache rfl).mono ?_
    fun _ failed => failed
  intro reply left _
  simp only [Run.yields_bind, Run.yields_modify, Run.yields_get,
    Run.yields_pure]
  intro udi
  simp [tracks]

theorem gentle_loadIfEmpty : Gentle (loadIfEmpty settings) := by
  intro cache
  rw [loadIfEmpty, Run.yields_bind, Run.yields_get]
  split
  · next empty =>
      rw [Run.yields_bind]
      exact (yields_reload_tracks cache).mono (fun _ _ _ => .inr empty)
        fun _ _ => .inr empty
  · exact .inl rfl

theorem gentle_identifiers : Gentle (identifiers settings) := by
  intro cache
  rw [identifiers, Run.yields_bind]
  exact gentle_loadIfEmpty cache

theorem yields_contains (udi : String) :
    (contains settings udi).Yields cache
      (fun answer left => answer = left.tracks udi ∧
        (left.tracks = cache.tracks ∨ cache.devices.isEmpty = true))
      fun left => left.tracks = cache.tracks ∨
        cache.devices.isEmpty = true := by
  rw [contains, Run.yields_bind]
  refine (gentle_loadIfEmpty cache).mono ?_ fun _ failed => failed
  intro _ left gentle
  exact ⟨rfl, gentle⟩

theorem sameTracked_refetches (udi : String) (interfaces : List String) :
    SameTracked (interfaces.forM (refetch udi) : Run (Cache σ) PUnit) :=
  Run.Preserves.forM fun interface => sameTracked_refetch udi interface

theorem yields_absorbAdded_told (udi : String) (interfaces : Interfaces)
    (cache : Cache σ) :
    (absorbAdded settings udi interfaces).Yields cache
      (fun events left => Told cache left events)
      fun left => left.tracks = cache.tracks := by
  rw [absorbAdded]
  split
  · exact Told.none rfl
  · rw [Run.yields_bind, Run.yields_get, Run.yields_bind, Run.yields_modify,
      Run.yields_bind]
    cases tracked : cache.tracks udi with
    | true =>
        -- The re-fetches may crash, but they find the identifier tracked
        -- already.
        have same : ∀ left : Cache σ, (∀ other, left.tracks other =
            (other == udi || cache.tracks other)) → left.tracks =
                cache.tracks := by
          intro left tracks
          funext other
          rw [tracks]
          by_cases equal : other = udi
          · subst equal
            simp [tracked]
          · simp [equal]
        refine (sameTracked_refetches udi _ _ _ rfl).mono ?_ ?_
        · intro _ left sameLeft
          have tracks : ∀ other, left.tracks other =
              (other == udi || cache.tracks other) := by
            intro other
            rw [sameLeft]
            exact tracks_insert udi rfl
          rw [Run.yields_pure]
          split
          · exact Told.added tracks
          · exact Told.none (same left tracks)
        · intro left sameLeft
          apply same left
          intro other
          rw [sameLeft]
          exact tracks_insert udi rfl
    | false =>
        have nothingKnown : (cache.devices[udi]?.getD Snapshot.empty).names =
            [] := by
          rw [getElem?_of_untracked tracked]
          rfl
        rw [nothingKnown]
        exact Told.added fun other => tracks_insert udi rfl

/-- The events of a signal tell how the tracked identifiers change. -/
theorem yields_absorb_told (signal : Signal) (cache : Cache σ) :
    (absorb settings signal).Yields cache
      (fun events left => Told cache left events)
      fun left => left.tracks = cache.tracks := by
  cases signal with
  | interfacesAdded udi interfaces =>
      exact yields_absorbAdded_told udi interfaces cache
  | interfacesRemoved udi interfaces =>
      exact yields_absorbRemoved_told udi interfaces cache
  | propertiesChanged udi interface changed invalidated =>
      exact yields_absorbChanged_told udi interface changed invalidated cache

end Cache

end Hotplug
