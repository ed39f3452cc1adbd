import Hotplug.Cache.RemovableMedia
import Hotplug.Proofs.Cache.Reachable
import Hotplug.Proofs.Cache.Tracking
import Hotplug.Service.Memory

/-!
# Devices whose arrival is told

The signals of a service wait in order until they are handled, while requests
are made to the cache and the service changes further. The handling that makes a
device tracked says that it was added. A request that loads the device first
says nothing, and the signal of the arrival then finds it tracked: so the
arrival is told by then as long as no request comes before, or if the signal
tells that the device is ready.
-/

namespace Hotplug

/-- A cache, and the signals of its service that are not handled yet, oldest
first. -/
structure Feed (σ : Type) where
  cache : Cache σ
  pending : List Signal := []

namespace Feed

variable {σ : Type} {settings : CacheSettings σ} {feed : Feed σ} {udi : String}

inductive Turn (σ : Type) where
  /-- The service changes, and sends signals. -/
  | serve (change : σ → List Signal × σ)
  /-- The oldest signal is handled. -/
  | deliver
  | request (request : Cache.Request)

variable [Service σ]

namespace Turn

/-- The events that a turn returns, and what it leaves. A step that crashes
returns nothing, but what it has done stays done. -/
def perform (settings : CacheSettings σ) (feed : Feed σ) :
    Turn σ → List DeviceEvent × Feed σ
  | serve change =>
      let (signals, service) := change feed.cache.service
      ([], ⟨{ feed.cache with service := service }, feed.pending ++ signals⟩)
  | deliver =>
      match feed.pending with
      | [] => ([], feed)
      | signal :: later =>
          match (Cache.absorb settings signal).start feed.cache with
          | (.ok events, cache) => (events, ⟨cache, later⟩)
          | (.error _, cache) => ([], ⟨cache, later⟩)
  | request asked =>
      ([], { feed with cache := ((asked.perform settings).start feed.cache).2 })

def told (settings : CacheSettings σ) (turn : Turn σ) (feed : Feed σ) :
    List DeviceEvent :=
  (turn.perform settings feed).1

def after (settings : CacheSettings σ) (turn : Turn σ) (feed : Feed σ) :
    Feed σ :=
  (turn.perform settings feed).2

end Turn

def afterAll (settings : CacheSettings σ) (turns : List (Turn σ))
    (feed : Feed σ) :
    Feed σ :=
  turns.foldl (fun feed turn => turn.after settings feed) feed

/-- What holds after a run held at first, or one of the turns brought it
about. -/
theorem brought_about (property : Feed σ → Prop) (turns : List (Turn σ))
    (feed : Feed σ) (holds : property (afterAll settings turns feed)) :
    property feed ∨ ∃ earlier turn later, turns = earlier ++ turn :: later ∧
      ¬property (afterAll settings earlier feed) ∧
      property (turn.after settings (afterAll settings earlier feed)) := by
  induction turns generalizing feed with
  | nil => exact .inl holds
  | cons turn turns induction =>
      rcases induction (turn.after settings feed) holds
        with next | ⟨earlier, later, rest, rfl, made⟩
      · by_cases before : property feed
        · exact .inl before
        · exact .inr ⟨[], turn, turns, rfl, before, next⟩
      · exact .inr ⟨turn :: earlier, later, rest, rfl, made⟩

/-- All events that a run returns, in order. -/
def toldBy (settings : CacheSettings σ) :
    List (Turn σ) → Feed σ → List DeviceEvent
  | [], _ => []
  | turn :: turns, feed =>
      turn.told settings feed ++
        toldBy settings turns (turn.after settings feed)

/-- No request of the run is the first to find the device. -/
def Unloaded (settings : CacheSettings σ) (udi : String) :
    List (Turn σ) → Feed σ → Prop
  | [], _ => True
  | turn :: turns, feed =>
      (match turn with
        | .request _ => feed.cache.tracks udi = false →
            (turn.after settings feed).cache.tracks udi = false
        | _ => True) ∧
      Unloaded settings udi turns (turn.after settings feed)

/-- What handling a signal yields, where a crash returns no events, a delivery
yields. -/
theorem deliver_of_yields {signal : Signal} {cache : Cache σ}
    {later : List Signal} {property : List DeviceEvent → Cache σ → Prop}
    (yields : (Cache.absorb settings signal).Yields cache property
      (property [])) :
    property (Turn.deliver.told settings ⟨cache, signal :: later⟩)
      (Turn.deliver.after settings ⟨cache, signal :: later⟩).cache := by
  rw [Run.Yields] at yields
  simp only [Turn.told, Turn.after, Turn.perform]
  rcases handled : (Cache.absorb settings signal).start
    cache with ⟨reason | events, left⟩
  · rwa [handled] at yields
  · rwa [handled] at yields

theorem added_mem_told_deliver (untracked : feed.cache.tracks udi = false)
    (tracked : (Turn.deliver.after settings feed).cache.tracks udi = true) :
    .added udi ∈ Turn.deliver.told settings feed := by
  obtain ⟨cache, pending⟩ := feed
  cases pending with
  | nil =>
      have same : cache.tracks udi = true := tracked
      rw [same] at untracked
      cases untracked
  | cons signal later =>
      have yields : (Cache.absorb settings signal).Yields cache
          (fun events left => left.tracks udi = true → .added udi ∈ events)
          fun left => left.tracks udi = true → DeviceEvent.added udi ∈ [] := by
        refine (Cache.yields_absorb_told signal cache).mono ?_ ?_
        · intro events left told tracked
          exact DeviceEvent.added_mem_of_replay untracked
            ((congrFun told.replayed udi).symm.trans tracked)
        · intro left same tracked
          rw [same, untracked] at tracked
          cases tracked
      exact deliver_of_yields yields tracked

/-- Interfaces that were added are an arrival if the device is new, or is ready
now. Only what was known before has to be loaded again, which may crash. -/
theorem yields_absorbAdded_events (named : udi ≠ "")
    (kept : settings.config.leavesOut udi = false) (interfaces : Interfaces)
    (cache : Cache σ) :
    (Cache.absorbAdded settings udi interfaces).Yields cache
      (fun events _ => events =
        if !cache.tracks udi || interfaces.contains
          settings.config.readinessInterface then
          [.added udi] else [])
      fun _ => cache.tracks udi = true := by
  have taken : ¬(udi = "" ∨ settings.config.leavesOut udi = true) := by
    simp [named, kept]
  rw [Cache.absorbAdded]
  dsimp only
  rw [if_neg taken, Run.yields_bind, Run.yields_get, Run.yields_bind,
    Run.yields_modify, Run.yields_bind]
  cases tracked : cache.tracks udi with
  | true => exact (Run.yields_start _ _).mono (fun _ _ _ => rfl) fun _ _ => rfl
  | false =>
      have nothingKnown : (cache.devices[udi]?.getD .empty).names = [] := by
        rw [Cache.getElem?_of_untracked tracked]
        rfl
      rw [nothingKnown]
      exact rfl

variable {interfaces : Interfaces} {later : List Signal}

theorem added_mem_told_arrival (named : udi ≠ "")
    (kept : settings.config.leavesOut udi = false)
    (next : feed.pending = .interfacesAdded udi interfaces :: later)
    (heard : feed.cache.tracks udi = false ∨
      interfaces.contains settings.config.readinessInterface = true ∧
      ((Cache.absorb settings (.interfacesAdded udi interfaces)).start
        feed.cache).1.isOk = true) :
    .added udi ∈ Turn.deliver.told settings feed := by
  obtain ⟨cache, _⟩ := feed
  obtain rfl := next
  have yields : (Cache.absorb settings (.interfacesAdded udi interfaces)).Yields
    cache (fun events _ => .added udi ∈ events)
        fun _ => DeviceEvent.added udi ∈ [] := by
    have events := yields_absorbAdded_events named kept interfaces cache
    rcases heard with untracked | ⟨ready, answered⟩
    · rw [untracked] at events
      refine events.mono ?_ fun _ absurd => ?_
      · rintro _ _ rfl
        simp
      · cases absurd
    · refine ((Run.yields_start _ _).and events).mono ?_ ?_
      · rintro _ _ ⟨_, rfl⟩
        simp [ready]
      · rintro _ ⟨⟨_, crashed⟩, _⟩
        rw [show (Cache.absorb settings (.interfacesAdded udi interfaces)).start
          cache = _ from crashed] at answered
        cases answered
  exact deliver_of_yields yields

theorem toldBy_append (earlier later : List (Turn σ)) (feed : Feed σ) :
    toldBy settings (earlier ++ later) feed =
      toldBy settings earlier feed ++
        toldBy settings later (afterAll settings earlier feed) := by
  induction earlier generalizing feed with
  | nil => rfl
  | cons turn earlier induction =>
      rw [List.cons_append, toldBy, toldBy, induction, List.append_assoc]
      rfl

/-- A device that no request finds is not tracked before it is said to be
added. -/
theorem untracked_or_added_mem {turns : List (Turn σ)}
    (untracked : feed.cache.tracks udi = false)
    (unloaded : Unloaded settings udi turns feed) :
    (afterAll settings turns feed).cache.tracks udi = false ∨
      .added udi ∈ toldBy settings turns feed := by
  induction turns generalizing feed with
  | nil => exact .inl untracked
  | cons turn turns induction =>
      obtain ⟨notLoaded, unloadedLater⟩ := unloaded
      rw [toldBy, List.mem_append]
      cases tracked : (turn.after settings feed).cache.tracks udi with
      | false => exact (induction tracked unloadedLater).imp_right .inr
      | true =>
          right
          left
          cases turn with
          | serve change =>
              have same : feed.cache.tracks udi = true := tracked
              rw [same] at untracked
              cases untracked
          | deliver => exact added_mem_told_deliver untracked tracked
          | request asked =>
              rw [notLoaded untracked] at tracked
              cases tracked

/-- The handling by which a device becomes tracked says that it was added. And
whatever else makes it tracked, it is said at the latest by the handling of the
signal of its arrival, if no request finds the device before, or if the signal
says that it is ready. -/
theorem added_mem_toldBy_arrival (named : udi ≠ "")
    (kept : settings.config.leavesOut udi = false) (turns : List (Turn σ))
    (feed : Feed σ) :
    ((afterAll settings turns feed).cache.tracks udi = false →
      (Turn.deliver.after settings (afterAll settings turns feed)).cache.tracks
        udi = true →
        .added udi ∈ Turn.deliver.told settings
          (afterAll settings turns feed)) ∧
    ∀ interfaces later, feed.cache.tracks udi = false →
      (afterAll settings turns feed).pending =
        .interfacesAdded udi interfaces :: later →
      (Unloaded settings udi turns feed ∨
        interfaces.contains settings.config.readinessInterface = true ∧
          ((Cache.absorb settings (.interfacesAdded udi interfaces)).start
            (afterAll settings turns feed).cache).1.isOk = true) →
      .added udi ∈ toldBy settings (turns ++ [.deliver]) feed := by
  refine ⟨added_mem_told_deliver, ?_⟩
  intro interfaces later untracked next heard
  have last : Turn.deliver.told settings (afterAll settings turns feed) =
      toldBy settings [.deliver] (afterAll settings turns feed) :=
        (List.append_nil _).symm
  rw [toldBy_append, List.mem_append, ← last]
  rcases heard with unloaded | ready
  · rcases untracked_or_added_mem untracked unloaded with stillUntracked | told
    · exact .inr (added_mem_told_arrival named kept next (.inl stillUntracked))
    · exact .inl told
  · exact .inr (added_mem_told_arrival named kept next (.inr ready))

section Plugging

def diskUdi : String := "/s/b/sda"

def otherUdi : String := "/s/b/sdb"

def bare : Interfaces := Std.ExtTreeMap.ofList [("s.Block", ∅)]

def formatted : Interfaces := bare.insert "s.Filesystem" ∅

/-- A disk is plugged in. -/
def plug (interfaces : Interfaces) : Turn MemoryService :=
  .serve fun service => ([(service.add diskUdi interfaces).1],
    (service.add diskUdi interfaces).2)

def beside : Feed MemoryService where
  cache := { service := { objects := Std.ExtTreeMap.ofList [(otherUdi,
    bare)] } }

/-- The cache is loaded before the disk is plugged in. -/
def patient : List (Turn MemoryService) :=
  [.request .reload, plug bare, .request (.contains otherUdi)]

/-- A formatted disk is loaded before its signal is handled. -/
def hasty : List (Turn MemoryService) := [plug formatted, .request .reload]

theorem added_mem_toldBy_arrival_plugged :
    .added diskUdi ∈ toldBy (.ofConfig .compact)
      (patient ++ [.deliver]) beside ∧
      .added diskUdi ∈ toldBy (.ofConfig .compact)
        (hasty ++ [.deliver]) beside := by
  have unloaded : Unloaded (.ofConfig .compact) diskUdi patient beside :=
    ⟨fun _ => by decide +kernel, trivial, fun _ => by decide +kernel, trivial⟩
  have nextBare : (afterAll (.ofConfig .compact) patient beside).pending =
      [.interfacesAdded diskUdi bare] := by decide +kernel
  have nextFormatted : (afterAll (.ofConfig .compact) hasty beside).pending =
      [.interfacesAdded diskUdi formatted] := by decide +kernel
  constructor
  · exact (added_mem_toldBy_arrival (by decide) (by decide) patient beside).2
      bare [] (by decide +kernel) nextBare (.inl unloaded)
  · exact (added_mem_toldBy_arrival (by decide) (by decide) hasty beside).2
      formatted [] (by decide +kernel) nextFormatted
        (.inr ⟨by decide +kernel, by decide +kernel⟩)

def unplugged : Feed MemoryService where
  cache := { service := {} }

/-- A question about another disk loads the cache, and with it a disk whose
signal waits to be handled. That the disk was added is never said. -/
def overtaken : List (Turn MemoryService) :=
  [plug bare, .request (.contains otherUdi)]

theorem toldBy_overtaken :
    (afterAll (.ofConfig .compact) [plug bare] unplugged).cache.tracks diskUdi =
      false ∧
      (afterAll (.ofConfig .compact) overtaken unplugged).cache.tracks diskUdi =
        true ∧
      (afterAll (.ofConfig .compact) overtaken unplugged).pending =
        [.interfacesAdded diskUdi bare] ∧
      toldBy (.ofConfig .compact) (overtaken ++ [.deliver]) unplugged = [] := by
  decide +kernel

end Plugging

end Feed

end Hotplug
