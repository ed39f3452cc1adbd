import Hotplug.Proofs.Cache.Arrival
import Hotplug.Proofs.Cache.Composition
import Hotplug.Proofs.Cache.Glance

/-!
# Devices without an interface

A device that loses its last interface is no longer tracked. But an announcement
makes a device before it is looked at which of its interfaces lie in the
namespace, and loading takes objects as they are listed. So a device is hollow,
tracked without an interface, if it was announced with foreign interfaces alone
or listed with none, and in no other way.
-/

namespace Hotplug

namespace Cache

variable {σ : Type} {settings : CacheSettings σ} {before after cache : Cache σ}
  {udi other : String} {carried : String → Prop}

/-- A device is tracked without an interface. -/
def Hollow (cache : Cache σ) (udi : String) : Prop :=
  cache.tracks udi = true ∧ ∀ interface,
    ¬cache.hasInterface udi interface = true

theorem hollow_congr (same : after.devices[udi]? = before.devices[udi]?) :
    after.Hollow udi ↔ before.Hollow udi := by
  simp only [Hollow, tracks_iff, hasInterface, same]

theorem Composed.hollow_iff (composed : Composed udi carried before after) :
    after.Hollow udi ↔ ∀ interface, ¬carried interface := by
  simp [Hollow, composed.tracked, composed.carries]

theorem Dismissed.not_hollow (dismissed : Dismissed udi before after) :
    ¬after.Hollow udi := by
  simp [Hollow, dismissed.untracked]

/-- A device is announced with no interface that is taken in. -/
def Barren (config : Config) (udi : String) : Signal → Prop
  | .interfacesAdded other interfaces =>
      other = udi ∧ udi ≠ "" ∧ config.leavesOut udi = false ∧
      ∀ interface ∈ interfaces, config.admitsInterface interface = false
  | _ => False

/-- The service lists a device without an interface. -/
def ListsHollow [Service σ] (config : Config) (service : σ) (udi : String) :
    Prop :=
  ∃ objects left interfaces,
    (Service.managedObjects : Run σ _).start service =
      (.ok (.ok objects), left) ∧
      listed? config objects udi = some interfaces ∧ ∀ interface,
        interface ∉ interfaces

/-- Of all that a step may have done, the given thing alone makes a device
hollow, and always does. -/
structure Hollowed (udi : String) (given : Prop) (before after : Cache σ) :
    Prop where
  only : after.Hollow udi → before.Hollow udi ∨ given
  does : given → after.Hollow udi

namespace Hollowed

variable {given : Prop}

theorem ofIff (same : after.Hollow udi ↔ before.Hollow udi) (idle : ¬given) :
    Hollowed udi given before after where
  only hollow := .inl (same.mp hollow)
  does happens := (idle happens).elim

theorem ofSame (same : after.devices[udi]? = before.devices[udi]?)
    (idle : ¬given) :
    Hollowed udi given before after :=
  .ofIff (hollow_congr same) idle

theorem ofComposed (composed : Composed other carried before after)
    (elsewhere : other ≠ udi → ¬given)
    (here : other = udi → ((∀ interface, ¬carried interface) →
      before.Hollow udi ∨ given) ∧ (given → ∀ interface, ¬carried interface)) :
    Hollowed udi given before after := by
  by_cases same : other = udi
  · obtain ⟨only, does⟩ := here same
    subst same
    exact ⟨fun hollow => only (composed.hollow_iff.mp hollow),
      fun happens => composed.hollow_iff.mpr (does happens)⟩
  · exact .ofSame (composed.untouched udi (Ne.symm same)) (elsewhere same)

theorem ofDismissed (dismissed : Dismissed other before after) (idle : ¬given) :
    Hollowed udi given before after := by
  by_cases same : other = udi
  · subst same
    exact ⟨fun hollow => (dismissed.not_hollow hollow).elim,
      fun happens => (idle happens).elim⟩
  · exact .ofSame (dismissed.untouched udi (Ne.symm same)) idle

end Hollowed

section Signals

theorem yields_absorbRemoved_hollowed (removed : List String) :
    (absorbRemoved settings other removed).Yields cache
      (fun _ => Hollowed udi False cache) (Hollowed udi False cache) := by
  by_cases taken : other = "" ∨ settings.config.leavesOut other = true
  · rw [absorbRemoved, if_pos taken]
    exact .ofSame rfl id
  · cases tracked : cache.tracks other with
    | false =>
        rw [absorbRemoved, if_neg taken, Run.yields_bind, Run.yields_get,
          getElem?_of_untracked tracked]
        exact .ofSame rfl id
    | true =>
        rw [not_or, Bool.not_eq_true] at taken
        refine (yields_absorbRemoved_composed taken.1 taken.2 tracked).mono ?_
          fun _ => False.elim
        rintro _ left (⟨-, dismissed⟩ | ⟨⟨interface, has, kept⟩, composed⟩)
        · exact .ofDismissed dismissed id
        · exact .ofComposed composed (fun _ => id)
            fun _ => ⟨fun none => (none interface ⟨kept, has⟩).elim, False.elim⟩

theorem yields_absorbChanged_hollowed (interface : String)
    (changed : Properties) (invalidated : List String) :
    (absorbChanged settings other interface changed invalidated).Yields cache
      (fun _ => Hollowed udi False cache) (Hollowed udi False cache) := by
  cases tracked : cache.tracks other with
  | false =>
      refine (yields_absorbChanged_of_untracked tracked).mono ?_
          fun left same => .ofSame (by rw [same]) id
      rintro _ left (same | composed)
      · exact .ofSame (by rw [same]) id
      · exact .ofComposed composed (fun _ => id)
          fun _ => ⟨fun none => (none _ rfl).elim, False.elim⟩
  | true =>
      by_cases heeds : Heeds settings.config other
      · have joined (left : Cache σ)
            (composed : Composed other
              (cache.JoinedBy other interface changed invalidated) cache
              left) : Hollowed udi False cache left := by
          refine .ofComposed composed (fun _ => id)
            fun same => ⟨fun none => .inl ?_, False.elim⟩
          subst same
          exact ⟨tracked, fun carried has => none carried (.inl has)⟩
        refine (yields_absorbChanged_composed heeds tracked interface changed
          invalidated).mono ?_ joined
        rintro _ left (composed | dismissed)
        · exact joined left composed
        · exact .ofDismissed dismissed id
      · rw [Run.Yields, start_absorbChanged_of_not_heeds heeds]
        exact .ofSame rfl id

variable [Service σ]

theorem yields_absorbAdded_hollowed (interfaces : Interfaces) :
    (absorbAdded settings other interfaces).Yields cache
      (fun _ => Hollowed udi (cache.tracks udi = false ∧
        Barren settings.config udi (.interfacesAdded other interfaces)) cache)
      (Hollowed udi (cache.tracks udi = false ∧
        Barren settings.config udi (.interfacesAdded other interfaces))
          cache) := by
  by_cases taken : other = "" ∨ settings.config.leavesOut other = true
  · rw [absorbAdded]
    dsimp only
    rw [if_pos taken]
    refine .ofSame rfl ?_
    rintro ⟨-, rfl, named, kept, -⟩
    simp [named, kept] at taken
  · rw [not_or, Bool.not_eq_true] at taken
    have announced (left : Cache σ)
        (composed : Composed other
          (EnlargedBy settings.config cache other interfaces) cache left) :
        Hollowed udi (cache.tracks udi = false ∧
          Barren settings.config udi (.interfacesAdded other interfaces))
              cache left := by
      refine .ofComposed composed (fun apart given => apart given.2.1) ?_
      rintro rfl
      constructor
      · intro none
        cases tracked : cache.tracks other with
        | true =>
            exact .inl ⟨tracked, fun interface has => none interface (.inl has)⟩
        | false =>
            refine .inr ⟨rfl, rfl, taken.1, taken.2,
              fun interface announced => ?_⟩
            exact Bool.eq_false_iff.mpr
              fun admits => none interface (.inr ⟨announced, admits⟩)
      · rintro ⟨untracked, -, -, -, foreign⟩ interface
          (has | ⟨announced, admits⟩)
        · rw [hasInterface_of_untracked untracked] at has
          cases has
        · rw [foreign interface announced] at admits
          cases admits
    exact (yields_absorbAdded_composed taken.1 taken.2 interfaces).mono
      (fun _ => announced) announced

/-- Only an announcement can make a device hollow, if it is new and nothing of
it is taken in. -/
theorem yields_absorb_hollowed (signal : Signal) :
    (absorb settings signal).Yields cache
      (fun _ => Hollowed udi (cache.tracks udi = false ∧
        Barren settings.config udi signal) cache)
      (Hollowed udi (cache.tracks udi = false ∧
        Barren settings.config udi signal) cache) := by
  cases signal with
  | interfacesAdded other interfaces =>
      exact yields_absorbAdded_hollowed interfaces
  | interfacesRemoved other interfaces =>
      simp only [Barren, and_false]
      exact yields_absorbRemoved_hollowed interfaces
  | propertiesChanged other interface changed invalidated =>
      simp only [Barren, and_false]
      exact yields_absorbChanged_hollowed interface changed invalidated

end Signals

section Requests

theorem hollow_iff_of_loaded {config : Config} {objects : Objects}
    (loaded : after.devices = admitted config objects) :
    after.Hollow udi ↔ ∃ interfaces, listed? config objects udi =
      some interfaces ∧ ∀ interface, interface ∉ interfaces := by
  simp only [Hollow, tracks_iff, hasInterface, loaded, getElem?_admitted]
  cases listed? config objects udi with
  | none => simp
  | some interfaces => simp [Snapshot.hasInterface_ofInterfaces]

theorem hollow_storeSlot {key : PropertyKey} {slot : Slot} :
    (storeSlot key slot cache).Hollow udi ↔ cache.Hollow udi := by
  simp only [Hollow, hasInterface_storeSlot]
  rw [storeSlot, tracks_onDevice]

variable [Service σ]

/-- Loading makes the devices hollow that the service lists without an
interface, and those alone are hollow then. -/
theorem yields_reload_hollowed :
    (reload settings).Yields cache
      (fun _ => Hollowed udi (ListsHollow settings.config cache.service udi)
        cache)
      (Hollowed udi (ListsHollow settings.config cache.service udi) cache) := by
  rw [reload, Run.yields_bind, call, Run.yields_zoom]
  refine (Run.yields_start _ _).mono ?_ ?_
  · intro reply service answered
    rw [Run.yields_bind, Run.yields_modify]
    have hollow_iff (left : Cache σ)
        (loaded : left.devices = admitted settings.config
          (reply.toOption.getD ∅)) :
        left.Hollow udi ↔ ListsHollow settings.config cache.service udi := by
      rw [hollow_iff_of_loaded loaded]
      unfold ListsHollow
      rw [answered]
      cases reply with
      | error reason => simp [Except.toOption, listed?]
      | ok objects => simp [Except.toOption]
    exact ⟨fun hollow => .inr ((hollow_iff _ rfl).mp hollow),
      (hollow_iff _ rfl).mpr⟩
  · rintro service ⟨reason, crashed⟩
    refine .ofSame rfl ?_
    rintro ⟨objects, left, interfaces, answered, -⟩
    rw [crashed] at answered
    cases answered

theorem preserves_read_hollow (key : PropertyKey) (reach : Reach) :
    (read key reach : Run (Cache σ) _).Preserves
      fun cache => cache.Hollow udi := by
  refine Run.Preserves.get.bind fun cache => ?_
  split
  · exact .pure _
  · exact .pure _
  · intro hollow before same
    have fetching : (fetchClaimed key : Run (Cache σ) _).Preserves
        fun cache => cache.Hollow udi :=
      (preserves_call (fun _ _ => rfl) _).bind fun _ =>
        (Run.Preserves.ofChange fun _ => propext hollow_storeSlot).bind
          fun _ => .pure _
    rw [Run.yields_bind, Run.yields_modify, Run.yields_ensuring]
    exact fetching hollow _ same

/-- Of all requests, only those that load can make a device hollow. -/
theorem Request.yields_perform_hollowed (request : Request) :
    (request.perform settings).Yields cache
      (fun _ => Hollowed udi (request.Loads cache ∧
        ListsHollow settings.config cache.service udi) cache)
      (Hollowed udi (request.Loads cache ∧
        ListsHollow settings.config cache.service udi) cache) := by
  apply request.yields_perform
  · intro loads
    simp only [loads, true_and]
    exact yields_reload_hollowed
  · intro idle key reach
    exact (preserves_read_hollow key reach _ cache rfl).mono
      (fun _ _ same => .ofIff same.to_iff fun given => idle given.1)
      fun _ same => .ofIff same.to_iff fun given => idle given.1
  · intro idle
    exact .ofSame rfl fun given => idle given.1

end Requests

end Cache

namespace Feed

variable {σ : Type} [Service σ] {settings : CacheSettings σ} {udi : String}

/-- The turn makes a device hollow. -/
def Turn.Hollows (settings : CacheSettings σ) (feed : Feed σ) (udi : String) :
    Turn σ → Prop
  | .serve _ => False
  | .deliver => ∃ signal later, feed.pending = signal :: later ∧
      feed.cache.tracks udi = false ∧ Cache.Barren settings.config udi signal
  | .request asked => asked.Loads feed.cache ∧
      Cache.ListsHollow settings.config feed.cache.service udi

theorem Turn.hollowed_after (turn : Turn σ) (feed : Feed σ) :
    Cache.Hollowed udi (turn.Hollows settings feed udi) feed.cache
      (turn.after settings feed).cache := by
  obtain ⟨cache, pending⟩ := feed
  cases turn with
  | serve change => exact .ofSame rfl id
  | deliver =>
      cases pending with
      | nil =>
          refine .ofSame rfl ?_
          rintro ⟨_, _, absurd, -⟩
          cases absurd
      | cons signal later =>
          have happens : Turn.deliver.Hollows settings
            ⟨cache, signal :: later⟩ udi ↔
              cache.tracks udi = false ∧
                  Cache.Barren settings.config udi signal := by
            simp [Hollows]
          rw [happens]
          exact deliver_of_yields (Cache.yields_absorb_hollowed signal)
  | request asked =>
      apply Run.Yields.left
      exact asked.yields_perform_hollowed

/-- A device that is hollow after a run was so at first, or one of the turns
made it so. -/
theorem hollow_afterAll (turns : List (Turn σ)) (feed : Feed σ)
    (hollow : (afterAll settings turns feed).cache.Hollow udi) :
    feed.cache.Hollow udi ∨ ∃ earlier turn later,
      turns = earlier ++ turn :: later ∧
      turn.Hollows settings (afterAll settings earlier feed) udi := by
  rcases brought_about (fun feed => feed.cache.Hollow udi) turns feed hollow
    with before | ⟨earlier, turn, later, rfl, solid, here⟩
  · exact .inl before
  · have happens := ((turn.hollowed_after (afterAll settings earlier feed)).only
      here).resolve_left solid
    exact .inr ⟨earlier, turn, later, rfl, happens⟩

/-- In a run from a new cache, there is a moment at which a device is tracked
without an interface exactly if some turn of the run announces it as new with
foreign interfaces alone, or loads it where the service lists it with none. And
the loss of interfaces is always handled, and leaves a device tracked exactly if
it keeps one of them. -/
theorem hollow_iff_hollows (settings : CacheSettings σ) (service : σ)
    (turns : List (Turn σ)) (udi : String) :
    ((∃ earlier later, turns = earlier ++ later ∧
        (afterAll settings earlier ⟨{ service := service }, []⟩).cache.Hollow
          udi) ↔
      ∃ earlier turn later, turns = earlier ++ turn :: later ∧
        turn.Hollows settings (afterAll settings earlier
          ⟨{ service := service }, []⟩) udi) ∧
    ∀ (cache : Cache σ) (removed : List String), udi ≠ "" →
      settings.config.leavesOut udi = false → cache.tracks udi = true →
      ∃ events left,
        (Cache.absorb settings (.interfacesRemoved udi removed)).start cache =
          (.ok events, left) ∧
        (left.tracks udi = true ↔
          ∃ interface, cache.hasInterface udi interface = true ∧
              interface ∉ removed) := by
  refine ⟨⟨?_, ?_⟩, ?_⟩
  · rintro ⟨earlier, later, rfl, hollow⟩
    rcases hollow_afterAll earlier _ hollow with absurd | made
    · simp [Cache.Hollow, Cache.tracks] at absurd
    · obtain ⟨first, turn, rest, rfl, happens⟩ := made
      exact ⟨first, turn, rest ++ later, by simp, happens⟩
  · rintro ⟨earlier, turn, later, rfl, happens⟩
    refine ⟨earlier ++ [turn], later, by simp, ?_⟩
    have made := (turn.hollowed_after
      (afterAll settings earlier ⟨{ service := service }, []⟩)).does happens
    rwa [afterAll, List.foldl_append]
  · intro cache removed named kept tracked
    have yields : (Cache.absorb settings
        (.interfacesRemoved udi removed)).Yields cache _ _ :=
      Cache.yields_absorbRemoved_composed named kept tracked
    obtain ⟨events, left, handled, outcome⟩ := yields.exists_start
    refine ⟨events, left, handled, ?_⟩
    rcases outcome with ⟨gone, dismissed⟩ | ⟨keeps, composed⟩
    · rw [dismissed.untracked]
      grind
    · simp [composed.tracked, keeps]

/-- A disk with a file system, which is announced as such. -/
def plugged : Feed MemoryService :=
  afterAll (.ofConfig .compact) [plug formatted, .deliver] unplugged

/-- The disk stays without its file system, and goes without any interface. -/
theorem hollow_iff_hollows_plugged :
    (∃ events left, (Cache.absorb (.ofConfig .compact)
      (.interfacesRemoved diskUdi
          ["s.Filesystem"])).start plugged.cache = (.ok events, left) ∧
        left.tracks diskUdi = true) ∧
      ∃ events left, (Cache.absorb (.ofConfig .compact)
        (.interfacesRemoved diskUdi ["s.Block", "s.Filesystem"])).start
            plugged.cache = (.ok events, left) ∧
        ¬left.tracks diskUdi = true := by
  have lost := (hollow_iff_hollows (.ofConfig .compact) plugged.cache.service
    [] diskUdi).2 plugged.cache
  have tracked : plugged.cache.tracks diskUdi = true := by decide +kernel
  have interfaces : plugged.cache.interfacesOf diskUdi =
      ["s.Block", "s.Filesystem"] := by decide +kernel
  constructor
  · obtain ⟨events, left, handled, kept⟩ := lost _ (by decide)
      (by decide) tracked
    refine ⟨events, left, handled, kept.mpr ⟨"s.Block", ?_, by decide⟩⟩
    decide +kernel
  · obtain ⟨events, left, handled, kept⟩ := lost _ (by decide)
      (by decide) tracked
    refine ⟨events, left, handled, fun tracked => ?_⟩
    obtain ⟨interface, has, other⟩ := kept.mp tracked
    rw [← Cache.mem_interfacesOf_iff, interfaces] at has
    exact other has

/-- A disk of which only what every object of the bus has is announced. -/
def foreign : Interfaces := Std.ExtTreeMap.ofList [("bus.Properties", ∅)]

/-- The announcement names an interface, and so does the service, but the device
has none. -/
theorem hollow_foreign :
    let reached := afterAll (.ofConfig .compact)
      [plug foreign, .deliver] unplugged
    reached.cache.service.objects.values.all
      (fun interfaces => !interfaces.isEmpty) = true ∧
      foreign.isEmpty = false ∧ reached.cache.tracks diskUdi = true ∧
      reached.cache.interfacesOf diskUdi = [] := by
  decide +kernel

end Feed

end Hotplug
