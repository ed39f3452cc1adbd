import Hotplug.Proofs.Cache.Arrival
import Hotplug.Proofs.Cache.Changes
import Hotplug.Proofs.Cache.EventStream

/-!
# Whose changes are heard

Changes are heard of identifiers that start as those of the service do.
Announcements and loading have other filters, so they may introduce a device
whose changes are then dropped. Every other tracked device is heard.
-/

namespace Hotplug

namespace Cache

variable {σ : Type} {settings : CacheSettings σ} {cache : Cache σ}
  {udi interface : String} {changed : Properties} {invalidated : List String}

/-- The identifier starts as those of the service do. -/
def Belongs (config : Config) (udi : String) : Prop :=
  udi ≠ "" ∧ Text.startsBy udi config.identifierPrefix = true

/-- The change is told, and its slots are stored, unless the device goes with
its medium and this is told next. -/
def Heard (settings : CacheSettings σ) (udi interface : String)
    (changed : Properties) (invalidated : List String) (before : Cache σ)
    (events : List DeviceEvent) (after : Cache σ) :
    Prop :=
  ∃ changes further, events = .changed udi changes :: further ∧
    (∀ name kind, changes[name]? = some kind ↔
      (name ∈ changed ∨ name ∈ invalidated) ∧ kind = .modified) ∧
    (further = [] ∧ Updated udi interface changed invalidated before after ∨
      further = [.removed udi] ∧
        Ejects settings before udi interface changed invalidated ∧
        Dismissed udi before after)

theorem yields_absorbChanged_heard (heeds : Heeds settings.config udi)
    (tracked : cache.tracks udi = true)
    (touches : Touches changed invalidated) :
    (absorbChanged settings udi interface changed invalidated).Yields cache
      (Heard settings udi interface changed invalidated cache)
      (Updated udi interface changed invalidated cache) := by
  refine (yields_absorbChanged_updated heeds tracked interface changed
    invalidated).mono ?_ fun _ => id
  rintro events left ⟨ejected, stays⟩
  by_cases ejects : Ejects settings cache udi interface changed invalidated
  · obtain ⟨report, reports, rfl, dismissed, -⟩ := ejected ejects
    obtain ⟨changes, rfl, kinds⟩ := reports.told touches
    exact ⟨changes, _, rfl, kinds, .inr ⟨rfl, ejects, dismissed⟩⟩
  · obtain ⟨reports, updated⟩ := stays ejects
    obtain ⟨changes, rfl, kinds⟩ := reports.told touches
    exact ⟨changes, [], rfl, kinds, .inl ⟨rfl, updated⟩⟩

theorem start_absorbRemoved_of_untracked {interfaces : List String}
    (untracked : cache.tracks udi = false) :
    (absorbRemoved settings udi interfaces).start cache = (.ok [], cache) := by
  rw [absorbRemoved]
  split
  · rfl
  · rw [Run.start_bind, Run.start_get]
    dsimp only
    rw [getElem?_of_untracked untracked]
    rfl

variable [Service σ]

/-- The service holds the object now, and the configuration admits it when it is
loaded. -/
def Lists (config : Config) (service : σ) (udi : String) : Prop :=
  ∃ objects left, (Service.managedObjects : Run σ _).start service =
    (.ok (.ok objects), left) ∧ (listed? config objects udi).isSome = true

theorem Lists.leavesOut {config : Config} {service : σ}
    (lists : Lists config service udi) :
    config.leavesOut udi = false := by
  obtain ⟨objects, left, -, listed⟩ := lists
  rw [listed?] at listed
  split at listed
  · next admits =>
      rw [Bool.and_eq_true, Bool.not_eq_true'] at admits
      exact admits.2
  · cases listed

theorem yields_reload_lists (cache : Cache σ) (udi : String) :
    (reload settings).Yields cache
      (fun _ left => left.tracks udi = true →
        Lists settings.config cache.service udi)
      fun left => left.tracks udi = cache.tracks udi := by
  rw [reload, Run.yields_bind, call, Run.yields_zoom]
  refine (Run.yields_start _ _).mono ?_ fun _ _ => rfl
  intro reply service answered
  simp only [Run.yields_bind, Run.yields_modify, Run.yields_get,
    Run.yields_pure]
  intro tracked
  rw [tracks_iff, getElem?_admitted, Option.isSome_map] at tracked
  cases reply with
  | error reason => simp [listed?, Except.toOption] at tracked
  | ok objects => exact ⟨objects, service, answered, tracked⟩

theorem Request.yields_perform_lists (request : Request)
    (untracked : cache.tracks udi = false) :
    (request.perform settings).Yields cache
      (fun _ left => left.tracks udi = true →
        request.Loads cache ∧ Lists settings.config cache.service udi)
      fun left => left.tracks udi = true →
        request.Loads cache ∧ Lists settings.config cache.service udi := by
  have nothing (left : Cache σ) (same : left.tracks udi = cache.tracks udi)
      (tracked : left.tracks udi = true) :
      request.Loads cache ∧ Lists settings.config cache.service udi := by
    rw [same, untracked] at tracked
    cases tracked
  apply request.yields_perform
  · intro loads
    refine (yields_reload_lists cache udi).mono ?_ nothing
    intro _ left lists tracked
    exact ⟨loads, lists tracked⟩
  · intro _ key reach
    exact (sameTracked_read key reach cache.tracks cache rfl).mono
      (fun _ left same => nothing left (congrFun same udi))
      fun left same => nothing left (congrFun same udi)
  · intro _
    exact nothing cache rfl

/-- The signal may make a device of an object that is not left out: it announces
the object, or this belongs to the service. -/
def Welcomes (config : Config) (signal : Signal) (udi : String) : Prop :=
  config.leavesOut udi = false ∧
    (Belongs config udi ∨ ∃ interfaces,
      signal = .interfacesAdded udi interfaces)

theorem yields_absorb_welcomed (signal : Signal)
    (untracked : cache.tracks udi = false) :
    (absorb settings signal).Yields cache
      (fun _ left => left.tracks udi = true →
        Welcomes settings.config signal udi)
      fun left => left.tracks udi = true →
        Welcomes settings.config signal udi := by
  have nothing (left : Cache σ) (same : left.tracks = cache.tracks)
      (tracked : left.tracks udi = true) :
          Welcomes settings.config signal udi := by
    rw [same, untracked] at tracked
    cases tracked
  have told : (absorb settings signal).Yields cache _ _ :=
    yields_absorb_told signal cache
  by_cases here : signal.udi = udi
  · cases signal with
    | interfacesAdded other interfaces =>
        obtain rfl : other = udi := here
        by_cases leftOut : settings.config.leavesOut other = true
        · have silent : absorb settings (.interfacesAdded other interfaces) =
              pure [] :=
            if_pos (.inr leftOut)
          rw [silent]
          exact nothing cache rfl
        · refine told.mono ?_ nothing
          intro events left _ _
          exact ⟨Bool.eq_false_iff.mpr leftOut, .inr ⟨interfaces, rfl⟩⟩
    | interfacesRemoved other interfaces =>
        obtain rfl : other = udi := here
        rw [Run.Yields, absorb, start_absorbRemoved_of_untracked untracked]
        exact nothing cache rfl
    | propertiesChanged other interface changed invalidated =>
        obtain rfl : other = udi := here
        by_cases heeds : Heeds settings.config other
        · refine told.mono ?_ nothing
          intro events left _ _
          exact ⟨heeds.2.2, .inl ⟨heeds.1, heeds.2.1⟩⟩
        · rw [Run.Yields, absorb, start_absorbChanged_of_not_heeds heeds]
          exact nothing cache rfl
  · refine (told.and (yields_absorb_mirrors signal cache)).mono ?_
      fun left failed => nothing left failed.1
    rintro events left ⟨-, mirrors⟩ tracked
    rw [tracks_iff, mirrors.untouched udi (by simpa using Ne.symm here),
      getElem?_of_untracked untracked] at tracked
    cases tracked

end Cache

namespace Feed

variable {σ : Type} [Service σ] {settings : CacheSettings σ} {feed : Feed σ}
  {udi interface : String} {changed : Properties} {invalidated : List String}

/-- The turn makes a device of an object without asking whether it belongs to
the service. -/
def Turn.Introduces (settings : CacheSettings σ) (feed : Feed σ)
    (udi : String) :
    Turn σ → Prop
  | .serve _ => False
  | .deliver =>
      ∃ interfaces, feed.pending.head? = some (.interfacesAdded udi interfaces)
  | .request asked =>
      asked.Loads feed.cache ∧
        Cache.Lists settings.config feed.cache.service udi

/-- How a device comes to be tracked. -/
theorem Turn.introduced (turn : Turn σ)
    (untracked : feed.cache.tracks udi = false)
    (tracked : (turn.after settings feed).cache.tracks udi = true) :
    settings.config.leavesOut udi = false ∧
      (Cache.Belongs settings.config udi ∨
        turn.Introduces settings feed udi) := by
  obtain ⟨cache, pending⟩ := feed
  cases turn with
  | serve change =>
      have same : cache.tracks udi = true := tracked
      rw [untracked] at same
      cases same
  | deliver =>
      cases pending with
      | nil =>
          have same : cache.tracks udi = true := tracked
          rw [untracked] at same
          cases same
      | cons signal later =>
          have welcomed := deliver_of_yields
            (Cache.yields_absorb_welcomed signal untracked) tracked
          refine welcomed.imp_right (Or.imp_right ?_)
          rintro ⟨interfaces, rfl⟩
          exact ⟨interfaces, rfl⟩
  | request asked =>
      obtain ⟨loads, lists⟩ :=
        (asked.yields_perform_lists untracked).left tracked
      exact ⟨lists.leavesOut, .inr ⟨loads, lists⟩⟩

/-- A device that is tracked was so at first, or belongs to the service, or was
introduced by a turn. -/
theorem introduced_afterAll (turns : List (Turn σ)) (feed : Feed σ)
    (tracked : (afterAll settings turns feed).cache.tracks udi = true) :
    feed.cache.tracks udi = true ∨ settings.config.leavesOut udi = false ∧
      (Cache.Belongs settings.config udi ∨ ∃ earlier turn later,
        turns = earlier ++ turn :: later ∧
        turn.Introduces settings (afterAll settings earlier feed) udi) := by
  rcases brought_about (fun feed => feed.cache.tracks udi = true)
    turns feed tracked with before | ⟨earlier, turn, later,
      rfl, untracked, here⟩
  · exact .inl before
  · right
    refine (turn.introduced (Bool.eq_false_iff.mpr untracked) here).imp_right
      (Or.imp_right fun introduces => ?_)
    exact ⟨earlier, turn, later, rfl, introduces⟩

/-- In a run from a new cache, a change of a tracked device that belongs to the
service is heard as soon as it names a property. A device that does not belong
to it was introduced by a turn, and its changes are dropped. -/
theorem heard_afterAll {reached : Feed σ} (service : σ) (turns : List (Turn σ))
    (ran : afterAll settings turns ⟨{ service := service }, []⟩ = reached)
    (tracked : reached.cache.tracks udi = true)
    (touches : Cache.Touches changed invalidated) :
    (Cache.Belongs settings.config udi →
      (Cache.absorb settings (.propertiesChanged udi interface changed
        invalidated)).Yields reached.cache
        (Cache.Heard settings udi interface changed invalidated reached.cache)
        (Cache.Updated udi interface changed invalidated reached.cache)) ∧
    (¬Cache.Belongs settings.config udi →
      (Cache.absorb settings (.propertiesChanged udi interface changed
        invalidated)).start reached.cache = (.ok [], reached.cache) ∧
      ∃ earlier turn later, turns = earlier ++ turn :: later ∧
        turn.Introduces settings
            (afterAll settings earlier ⟨{ service := service }, []⟩) udi) := by
  subst ran
  rcases introduced_afterAll turns _ tracked with absurd | ⟨kept, introduced⟩
  · simp [Cache.tracks] at absurd
  · constructor
    · intro belongs
      exact Cache.yields_absorbChanged_heard ⟨belongs.1, belongs.2,
        kept⟩ tracked touches
    · intro foreign
      refine ⟨?_, introduced.resolve_left foreign⟩
      apply Cache.start_absorbChanged_of_not_heeds
      rintro ⟨nonempty, owned, -⟩
      exact foreign ⟨nonempty, owned⟩

def foreignUdi : String := "/other"

/-- An object is announced. -/
def announcement (udi : String) : List (Turn MemoryService) :=
  [.serve fun service => ([.interfacesAdded udi bare], service), .deliver]

def announced (udi : String) : Feed MemoryService :=
  afterAll (.ofConfig .compact) (announcement udi) ⟨{ service := {} }, []⟩

def blockLabel (udi : String) : PropertyKey := ⟨udi, "s.Block", "IdLabel"⟩

/-- The block device has a label now. -/
def labelling (udi : String) : Signal :=
  .propertiesChanged udi "s.Block"
    (Std.ExtTreeMap.ofList [("IdLabel", Value.text "x")]) []

/-- The label of a disk is stored and told, that of a foreign object is not. -/
theorem heard_afterAll_labelling :
    ((announced diskUdi).cache.tracks diskUdi = true ∧
      (Cache.absorb (.ofConfig .compact) (labelling diskUdi)).Yields
        (announced diskUdi).cache
        (fun events left => ∃ changes, events = [.changed diskUdi changes] ∧
          left.slot? (blockLabel diskUdi) = some (.resolved (.text "x")))
        fun left => left.slot? (blockLabel diskUdi) =
          some (.resolved (.text "x"))) ∧
    (announced foreignUdi).cache.tracks foreignUdi = true ∧
      (Cache.absorb (.ofConfig .compact) (labelling foreignUdi)).start
        (announced foreignUdi).cache =
        (.ok [], (announced foreignUdi).cache) := by
  have disk : (announced diskUdi).cache.tracks diskUdi = true := by
    decide +kernel
  have foreign : (announced foreignUdi).cache.tracks foreignUdi = true := by
    decide +kernel
  have touches : Cache.Touches
      (Std.ExtTreeMap.ofList [("IdLabel", Value.text "x")]) [] :=
    ⟨"IdLabel", .inl (by decide)⟩
  have ran (udi : String) :
      afterAll (.ofConfig .compact) (announcement udi) ⟨{ service := {} }, []⟩ =
        announced udi := rfl
  refine ⟨⟨disk, ?_⟩, foreign, ?_⟩
  · have belongs : Cache.Belongs .compact diskUdi := ⟨by decide, by decide⟩
    refine ((heard_afterAll {} (announcement diskUdi)
      (ran diskUdi) disk touches).1 belongs).mono ?_ ?_
    · rintro events left ⟨changes, further, rfl, -,
        ⟨rfl, updated⟩ | ⟨-, ⟨⟨size, told, -⟩, -⟩, -⟩⟩
      · exact ⟨changes, rfl, updated.resolved "IdLabel" (.text "x") (by decide)⟩
      · cases told
    · intro left updated
      exact updated.resolved "IdLabel" (.text "x") (by decide)
  · have outside : ¬Cache.Belongs .compact foreignUdi :=
      fun belongs => absurd belongs.2 (by decide)
    exact ((heard_afterAll {} (announcement foreignUdi)
      (ran foreignUdi) foreign touches).2 outside).1

/-- What was announced under another prefix is tracked, but its label is
lost. -/
theorem unheard_labelling :
    (announced foreignUdi).cache.tracks foreignUdi = true ∧
      let heard :=
        (Cache.absorb (.ofConfig .compact) (labelling foreignUdi)).start
          (announced foreignUdi).cache
      heard.1.toOption = some [] ∧ heard.2.slot? (blockLabel foreignUdi) =
          none := by
  decide +kernel

end Feed

end Hotplug
