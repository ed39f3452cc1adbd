import Hotplug.Cache.RemovableMedia
import Hotplug.Proofs.Backend.Effect
import Hotplug.Proofs.Cache.Glance
import Hotplug.Proofs.Cache.Reachable
import Hotplug.Proofs.Traced
import Hotplug.Service.Memory

/-!
# Reading leaves alone what is known

A property that is not known is asked for once, and is known from then on, be it
that the service has no value for it. Nothing else changes, whether a property
is read from one interface, from whichever interface carries it, or as a
property of a device.
-/

namespace Hotplug

namespace Cache

variable {σ : Type} {keys later : List PropertyKey}
  {before middle after cache : Cache (Traced σ)} {key : PropertyKey}
  {answer : Option Value} {reach : Reach}

/-- It is known of the property what value it has, or that it has none. -/
def Knows (cache : Cache σ) (key : PropertyKey) : Prop :=
  ∃ slot, cache.slot? key = some slot ∧ slot.isUnresolved = false

/-- The service was asked for some properties that were there to be asked for,
for each of them once. They are known now, and all else is as it was. -/
structure Fills (keys : List PropertyKey) (before after : Cache (Traced σ)) :
    Prop where
  tracks : after.tracks = before.tracks
  interfaces : ∀ udi interface, after.hasInterface udi interface =
    before.hasInterface udi interface
  claims : after.inflight = before.inflight
  calls : after.service.calls = before.service.calls ++ keys.map .getProperty
  distinct : keys.Nodup
  wanted : ∀ key ∈ keys, before.glance key .fetched = .free
  known : ∀ key ∈ keys, after.Knows key
  others : ∀ key, key ∉ keys → after.slot? key = before.slot? key

namespace Fills

theorem refl (cache : Cache (Traced σ)) : Fills [] cache cache where
  tracks := rfl
  interfaces _ _ := rfl
  claims := rfl
  calls := (List.append_nil _).symm
  distinct := List.nodup_nil
  wanted := by simp
  known := by simp
  others _ _ := rfl

theorem glance_eq (fills : Fills keys before after) (apart : key ∉ keys)
    (reach : Reach) :
    after.glance key reach = before.glance key reach :=
  glance_congr (fills.others key apart)
    (fills.interfaces _ _) fills.claims reach

theorem glance_of_settled (fills : Fills keys before after)
    (settled : before.glance key .fetched = .settled answer) :
    after.glance key .fetched = .settled answer := by
  rw [fills.glance_eq _ .fetched, settled]
  intro member
  rw [fills.wanted key member] at settled
  cases settled

theorem notMem_of_knows (fills : Fills keys before after)
    (knows : before.Knows key) :
    key ∉ keys := by
  intro member
  obtain ⟨slot, found, known⟩ := knows
  have settled : before.glance key .fetched = .settled slot.value? :=
    glance_of_known found known
  rw [fills.wanted key member] at settled
  cases settled

theorem trans (first : Fills keys before middle)
    (second : Fills later middle after) :
    Fills (keys ++ later) before after where
  tracks := second.tracks.trans first.tracks
  interfaces udi interface := (second.interfaces udi interface).trans
    (first.interfaces udi interface)
  claims := second.claims.trans first.claims
  calls := by rw [second.calls, first.calls, List.map_append, List.append_assoc]
  distinct := by
    refine List.nodup_append.mpr ⟨first.distinct, second.distinct, ?_⟩
    rintro key member other again rfl
    exact second.notMem_of_knows (first.known key member) again
  wanted key member := by
    rcases List.mem_append.mp member with early | late
    · exact first.wanted key early
    · rw [← first.glance_eq fun early => second.notMem_of_knows
        (first.known key early) late]
      exact second.wanted key late
  known key member := by
    by_cases late : key ∈ later
    · exact second.known key late
    · obtain ⟨slot, found, known⟩ :=
        first.known key ((List.mem_append.mp member).resolve_right late)
      exact ⟨slot, (second.others key late).trans found, known⟩
  others key apart := by
    rw [List.mem_append, not_or] at apart
    rw [second.others key apart.2, first.others key apart.1]

theorem ofFetch (free : cache.glance key .fetched = .free)
    (reply : Except ServiceError Value) {service : Traced σ}
    (calls : service.calls = cache.service.calls ++ [.getProperty key]) :
    Fills [key] cache (fetched key cache reply service) where
  tracks := funext fun _ => tracks_onDevice
  interfaces _ _ := hasInterface_storeSlot
  claims := List.erase_cons_head key cache.inflight
  calls := calls
  distinct := by simp
  wanted := by simpa using free
  known := by
    intro other member
    obtain rfl := List.mem_singleton.mp member
    exact ⟨_, slot?_kept reply service (hasInterface_of_free free),
      Slot.isUnresolved_slotOf reply⟩
  others other apart := by
    have different : ¬key = other :=
      fun same => apart (List.mem_singleton.mpr same.symm)
    change (kept key cache reply service).slot? other = cache.slot? other
    rw [kept, slot?_storeSlot, if_neg fun both => different both.1]
    rfl

end Fills

variable [Service σ]

/-- What a read asks for it stores, and what it answers is settled then. -/
theorem yields_read_fills (idle : cache.inflight = []) (key : PropertyKey)
    (reach : Reach) :
    (read key reach).Yields cache
      (fun answer left => (∃ keys, Fills keys cache left) ∧
        (reach = .fetched → left.glance key .fetched = .settled answer))
      fun _ => True := by
  cases reach with
  | known =>
      obtain ⟨answer, settled⟩ := exists_glance_known cache key
      rw [Run.Yields, start_read_of_settled settled]
      refine ⟨⟨[], .refl cache⟩, ?_⟩
      intro absurd
      cases absurd
  | fetched =>
      cases looked : cache.glance key .fetched with
      | settled answer =>
          rw [Run.Yields, start_read_of_settled looked]
          exact ⟨⟨[], .refl cache⟩, fun _ => looked⟩
      | busy =>
          have claimed := mem_inflight_of_busy looked
          rw [idle] at claimed
          cases claimed
      | free =>
          rw [yields_read_of_free looked]
          refine (Traced.yields_record (.getProperty key) _ _).mono ?_
            fun _ _ => trivial
          intro reply service recorded
          exact ⟨⟨[key], .ofFetch looked reply recorded⟩,
            fun _ => glance_fetched (hasInterface_of_free looked)⟩

end Cache

namespace ServiceBackend

/-- A read of one property, from an interface, from whichever interface carries
it, or of the device that has a capability. -/
inductive Reading where
  | get (key : PropertyKey) (reach : Reach)
  | find (udi name : String) (reach : Reach)
  | property (udi : String) (capability : Capability) (name : String)
    (reach : Reach)

variable {σ α β : Type}

namespace Reading

def udi : Reading → String
  | .get key _ => key.udi
  | .find udi _ _ => udi
  | .property udi .. => udi

def reach : Reading → Reach
  | .get _ reach => reach
  | .find _ _ reach => reach
  | .property _ _ _ reach => reach

/-- The device does not have the interfaces that are read from. -/
def Lacks (backend : ServiceBackend σ) : Reading → Prop
  | .get key _ => backend.cache.hasInterface key.udi key.interface = false
  | .find _ _ _ => False
  | .property udi capability .. => capability ≠ .genericInterface ∧
      ∀ interface ∈ backend.config.interfacesOf capability,
        backend.cache.hasInterface udi interface = false

variable [Service σ]

def perform : Reading → Run (ServiceBackend σ) (Option Value)
  | .get key reach => onCache fun _ => Cache.read key reach
  | .find udi name reach => onCache fun _ => Cache.readAnywhere udi name reach
  | .property udi capability name reach =>
      ServiceBackend.property udi capability name reach

end Reading

theorem Effect.Covers.perform [Service σ] {effect : Effect σ}
    {reading : Reading}
    (read : ∀ key, effect.Covers
      (onCache fun _ => Cache.read key reading.reach)) :
    effect.Covers reading.perform := by
  cases reading with
  | get key reach => exact read key
  | find udi name reach => exact .readAnywhere read udi name
  | property udi capability name reach =>
      exact .property read udi capability name

/-- Nothing happens. -/
def silent : Effect σ where
  leads before after := after = before
  crashes _ _ := False
  refl _ := rfl
  trans first second := second.trans first
  crashesLater _ := False.elim

/-- Nothing but the cache changes, and that is filled. -/
structure Filled (before after : ServiceBackend (Traced σ)) : Prop where
  elsewhere : after = { before with cache := after.cache }
  fills : ∃ keys, Cache.Fills keys before.cache after.cache

namespace Filled

variable {first second third : ServiceBackend (Traced σ)}

theorem refl (backend : ServiceBackend (Traced σ)) : Filled backend backend :=
  ⟨rfl, [], .refl backend.cache⟩

theorem trans (one : Filled first second) (two : Filled second third) :
    Filled first third where
  elsewhere := by rw [two.elsewhere, one.elsewhere]
  fills := by
    obtain ⟨keys, fills⟩ := one.fills
    obtain ⟨later, fillsLater⟩ := two.fills
    exact ⟨keys ++ later, fills.trans fillsLater⟩

theorem claims (filled : Filled first second) :
    second.cache.inflight = first.cache.inflight := by
  obtain ⟨keys, fills⟩ := filled.fills
  exact fills.claims

end Filled

/-- A cache in which nothing is claimed is filled. -/
def filling : Effect (Traced σ) where
  leads before after := before.cache.inflight = [] → Filled before after
  crashes _ _ := True
  refl backend _ := .refl backend
  trans first second idle :=
    (first idle).trans (second ((first idle).claims.trans idle))
  crashesLater _ _ := trivial

variable [Service σ]

theorem silent_covers_read (key : PropertyKey) :
    silent.Covers (onCache fun _ => Cache.read key .known :
      Run (ServiceBackend σ) (Option Value)) := by
  intro backend
  obtain ⟨answer, settled⟩ := Cache.exists_glance_known backend.cache key
  rw [yields_onCache, Run.Yields,
    Cache.start_read_of_settled settled]
  rfl

theorem filling_covers_read (key : PropertyKey) (reach : Reach) :
    filling.Covers (onCache fun _ => Cache.read key reach :
      Run (ServiceBackend (Traced σ)) (Option Value)) := by
  intro backend
  rw [yields_onCache]
  by_cases idle : backend.cache.inflight = []
  · refine (Cache.yields_read_fills idle key reach).mono ?_ fun _ => id
    intro answer cache outcome _
    exact ⟨rfl, outcome.1⟩
  · refine (Run.yields_start _ _).mono ?_ fun _ _ => trivial
    intro answer cache _ isIdle
    exact (idle isIdle).elim

section Single

variable {backend left : ServiceBackend (Traced σ)} {answer : Option Value}

theorem Reading.start_of_known {reading : Reading}
    (known : reading.reach = .known) (backend : ServiceBackend σ) :
    ∃ answer, reading.perform.start backend = (.ok answer, backend) := by
  have covers : silent.Covers (reading.perform : Run (ServiceBackend σ)
      (Option Value)) := by
    refine .perform fun key => ?_
    rw [known]
    exact silent_covers_read key
  obtain ⟨answer, left, started, rfl⟩ := (covers backend).exists_start
  exact ⟨answer, started⟩

theorem Reading.filled {reading : Reading} (idle : backend.cache.inflight = [])
    (ran : reading.perform.start backend = (.ok answer, left)) :
    Filled backend left := by
  have covers : filling.Covers
      (reading.perform : Run (ServiceBackend (Traced σ)) (Option Value)) :=
    .perform fun key => filling_covers_read key reading.reach
  have yields := covers backend
  rw [Run.Yields, ran] at yields
  exact yields idle

theorem Reading.settled_of_get {key : PropertyKey}
    (idle : backend.cache.inflight = [])
    (ran : (Reading.get key .fetched).perform.start backend =
      (.ok answer, left)) :
    left.cache.glance key .fetched = .settled answer := by
  have yields : (onCache fun _ => Cache.read key .fetched).Yields backend
      (fun answer left => left.cache.glance key .fetched = .settled answer)
          fun _ => True := by
    rw [yields_onCache]
    refine (Cache.yields_read_fills idle key .fetched).mono ?_ fun _ => id
    exact fun answer cache outcome => outcome.2 rfl
  rwa [Run.Yields, show (onCache fun _ => Cache.read key .fetched).start
    backend = _ from ran] at yields

theorem Reading.answer_of_settled {key : PropertyKey} {reach : Reach}
    {given : Option Value}
    (settled : backend.cache.glance key .fetched = .settled answer)
    (ran : (Reading.get key reach).perform.start backend = (.ok given, left)) :
    given = answer := by
  have yields : (onCache fun _ => Cache.read key reach).Yields backend
      (fun given _ => given = answer) fun _ => True := by
    rw [yields_onCache, Run.Yields,
      Cache.start_read_of_settled (Cache.glance_of_settled settled reach)]
  rwa [Run.Yields, show (onCache fun _ => Cache.read key reach).start backend =
    _ from ran] at yields

end Single

section Absent

variable {backend : ServiceBackend σ} {udi : String} {reach : Reach}

theorem yields_readAnywhere_of_untracked (name : String)
    (untracked : backend.cache.tracks udi = false) :
    (onCache fun _ => Cache.readAnywhere udi name reach).Yields backend
      (fun answer left => answer = none ∧ left = backend) fun _ => False := by
  rw [yields_onCache, Cache.readAnywhere,
    Run.yields_bind, Run.yields_get, Cache.getElem?_of_untracked untracked]
  exact ⟨rfl, rfl⟩

theorem yields_firstRead_of_lacks {interfaces : List String} (property : String)
    (lacks : ∀ interface ∈ interfaces,
      backend.cache.hasInterface udi interface = false) :
    (firstRead udi property reach interfaces).Yields backend
      (fun answer left => answer = none ∧ left = backend) fun _ => False := by
  induction interfaces with
  | nil => exact ⟨rfl, rfl⟩
  | cons interface rest induction =>
      rw [firstRead, Run.yields_bind, Run.yields_get,
        lacks interface List.mem_cons_self]
      exact induction fun other member => lacks other
        (List.mem_cons_of_mem _ member)

theorem yields_capabilityProperty_of_lacks {capability : Capability}
    (name : String)
    (lacks : ∀ interface ∈ backend.config.interfacesOf capability,
      backend.cache.hasInterface udi interface = false) :
    (capabilityProperty udi capability name reach).Yields backend
      (fun answer left => answer = none ∧ left = backend) fun _ => False := by
  rw [capabilityProperty, Run.yields_bind, Run.yields_get]
  exact yields_firstRead_of_lacks name lacks

theorem yields_derivedProperty_of_lacks (name : String)
    (lacks : ∀ interface ∈ backend.config.interfacesOf .storageAccess,
      backend.cache.hasInterface udi interface = false) :
    (derivedProperty udi name reach).Yields backend
      (fun answer left => answer = none ∧ left = backend) fun _ => False := by
  have unmounted : (mountPoints udi reach).Yields backend
      (fun points left => points = none ∧ left = backend) fun _ => False := by
    rw [mountPoints, Run.yields_bind, Run.yields_get]
    split
    · exact ⟨rfl, rfl⟩
    · rw [Run.yields_bind]
      refine (yields_capabilityProperty_of_lacks _ lacks).mono ?_ fun _ => id
      rintro _ _ ⟨rfl, rfl⟩
      exact ⟨rfl, rfl⟩
  rw [derivedProperty]
  split
  · rw [Run.yields_bind]
    refine unmounted.mono ?_ fun _ => id
    rintro _ _ ⟨rfl, rfl⟩
    exact ⟨rfl, rfl⟩
  · split
    · rw [Run.yields_bind]
      refine unmounted.mono ?_ fun _ => id
      rintro _ _ ⟨rfl, rfl⟩
      exact ⟨rfl, rfl⟩
    · exact ⟨rfl, rfl⟩

theorem yields_property_of_lacks {capability : Capability} (name : String)
    (specific : capability ≠ .genericInterface)
    (lacks : ∀ interface ∈ backend.config.interfacesOf capability,
      backend.cache.hasInterface udi interface = false) :
    (property udi capability name reach).Yields backend
      (fun answer left => answer = none ∧ left = backend) fun _ => False := by
  rw [property, if_neg specific, Run.yields_bind]
  refine (yields_capabilityProperty_of_lacks name lacks).mono ?_ fun _ => id
  rintro _ _ ⟨rfl, rfl⟩
  dsimp only
  split
  · next isStorage =>
      rw [isStorage] at lacks
      exact yields_derivedProperty_of_lacks name lacks
  · exact ⟨rfl, rfl⟩

/-- Nothing is asked of the service for a device that is not tracked, nor for
interfaces that a device does not have. -/
theorem Reading.start_of_absent {reading : Reading}
    (absent : backend.cache.tracks reading.udi = false ∨
      reading.Lacks backend) :
    reading.perform.start backend = (.ok none, backend) := by
  have yields : reading.perform.Yields backend (fun answer left => answer =
    none ∧ left = backend) fun _ => False := by
    cases reading with
    | get key reach =>
        have missing : backend.cache.hasInterface key.udi key.interface =
            false :=
          absent.elim (fun untracked =>
            Cache.hasInterface_of_untracked untracked _) id
        rw [Reading.perform, yields_onCache, Run.Yields,
          Cache.start_read_of_settled (Cache.glance_of_missing missing reach)]
        exact ⟨rfl, rfl⟩
    | find udi name reach =>
        exact yields_readAnywhere_of_untracked name (absent.elim id False.elim)
    | property udi capability name reach =>
        rw [Reading.perform]
        by_cases generic : capability = .genericInterface
        · rw [ServiceBackend.property, if_pos generic]
          exact yields_readAnywhere_of_untracked name
            (absent.elim id fun lacks => (lacks.1 generic).elim)
        · exact yields_property_of_lacks name generic (absent.elim
            (fun untracked interface _ => Cache.hasInterface_of_untracked
              untracked interface)
            And.right)
  obtain ⟨_, _, started, rfl, rfl⟩ := yields.exists_start
  exact started

end Absent

section Sequences

variable {backend left : ServiceBackend (Traced σ)} {reading : Reading}
  {readings : List Reading} {answers : List (Option Value)}
  {answer : Option Value}

/-- Some readings, one after the other, with their answers. -/
def readAll (readings : List Reading) :
    Run (ServiceBackend σ) (List (Option Value)) :=
  readings.mapM Reading.perform

theorem start_readAll_cons
    (ran : (readAll (reading :: readings)).start backend =
      (.ok answers, left)) :
    ∃ answer middle rest, reading.perform.start backend = (.ok answer, middle) ∧
      (readAll readings).start middle = (.ok rest, left) ∧
        answers = answer :: rest :=
  Run.start_mapM_cons_eq_ok_iff.mp ran

theorem filled_of_readAll (idle : backend.cache.inflight = [])
    (ran : (readAll readings).start backend = (.ok answers, left)) :
    Filled backend left := by
  induction readings generalizing backend answers with
  | nil =>
      cases ran
      exact .refl _
  | cons reading readings induction =>
      obtain ⟨answer, middle, rest, first, second, rfl⟩ :=
        start_readAll_cons ran
      have filled := reading.filled idle first
      exact filled.trans (induction (filled.claims.trans idle) second)

theorem answers_of_settled {key : PropertyKey} {reach : Reach} {j : Nat}
    (idle : backend.cache.inflight = [])
    (settled : backend.cache.glance key .fetched = .settled answer)
    (ran : (readAll readings).start backend = (.ok answers, left))
    (here : readings[j]? = some (.get key reach)) :
    answers[j]? = some answer := by
  induction readings generalizing backend answers j with
  | nil => cases here
  | cons reading readings induction =>
      obtain ⟨given, middle, rest, first, second, rfl⟩ := start_readAll_cons ran
      cases j with
      | zero =>
          obtain rfl : reading = .get key reach := by simpa using here
          rw [Reading.answer_of_settled settled first]
          rfl
      | succ j =>
          have filled := reading.filled idle first
          obtain ⟨keys, fills⟩ := filled.fills
          change rest[j]? = some answer
          exact induction (filled.claims.trans idle)
            (fills.glance_of_settled settled) second here

theorem answers_agree {key : PropertyKey} {reach : Reach} {i j : Nat}
    (idle : backend.cache.inflight = [])
    (ran : (readAll readings).start backend = (.ok answers, left))
    (order : i < j) (first : readings[i]? = some (.get key .fetched))
    (later : readings[j]? = some (.get key reach)) :
    answers[j]? = answers[i]? := by
  induction readings generalizing backend answers i j with
  | nil => cases first
  | cons reading readings induction =>
      obtain ⟨given, middle, rest, one, others, rfl⟩ := start_readAll_cons ran
      have idleThen := (reading.filled idle one).claims.trans idle
      cases j with
      | zero => cases order
      | succ j =>
          cases i with
          | zero =>
              obtain rfl : reading = .get key .fetched := by simpa using first
              change rest[j]? = some given
              exact answers_of_settled idleThen
                (Reading.settled_of_get idle one) others later
          | succ i =>
              change rest[j]? = rest[i]?
              exact induction idleThen others (by omega) first later

/-- What readings leave of a backend, what they answer, and what a reading that
comes next does. -/
structure Undisturbed (before : ServiceBackend (Traced σ))
    (readings : List Reading) (answers : List (Option Value))
    (after : ServiceBackend (Traced σ)) :
    Prop where
  filled : Filled before after
  kept : ∀ key, before.cache.Knows key → after.cache.slot? key =
    before.cache.slot? key
  /-- To read only what is known does nothing. -/
  silent : ∀ reading : Reading, reading.reach = .known →
    ∃ answer, reading.perform.start after = (.ok answer, after)
  /-- Nothing is asked of what is not there. -/
  unasked : ∀ reading : Reading,
    after.cache.tracks reading.udi = false ∨ reading.Lacks after →
      reading.perform.start after = (.ok none, after)
  agree : ∀ (i j : Nat) key reach, i < j → readings[i]? =
    some (Reading.get key .fetched) →
    readings[j]? = some (Reading.get key reach) → answers[j]? = answers[i]?

/-- Readings of a cache at rest, in any way and in any order, ask for each
property at most once, and change nothing but the slots of the properties that
they ask for. -/
theorem undisturbed_of_readAll
    (reachable : Cache.Reachable backend.settings backend.cache)
    (ran : (readAll readings).start backend = (.ok answers, left)) :
    Undisturbed backend readings answers left where
  filled := filled_of_readAll reachable.idle ran
  kept key knows := by
    obtain ⟨keys, fills⟩ := (filled_of_readAll reachable.idle ran).fills
    exact fills.others key (fills.notMem_of_knows knows)
  silent _ known := Reading.start_of_known known left
  unasked _ absent := Reading.start_of_absent absent
  agree _ _ _ _ order first later :=
    answers_agree reachable.idle ran order first later

end Sequences

section Pen

def penUdi : String := "/s/b/sdc1"

def penKey (property : String) : PropertyKey :=
  ⟨penUdi, "s.Filesystem", property⟩

/-- A mounted pen drive. -/
def pen : MemoryService where
  objects := Std.ExtTreeMap.ofList [(penUdi, Std.ExtTreeMap.ofList [
    ("s.Block", ∅),
    ("s.Filesystem", Std.ExtTreeMap.ofList [
      ("MountPoints", Value.texts ["/media/pen"])])])]

/-- The cache was loaded, and was told then that the pen drive is mounted
elsewhere now. -/
def penBackend : ServiceBackend (Traced MemoryService) where
  settings := .ofConfig .compact
  cache :=
    ((Cache.absorb (.ofConfig .compact)
      (.propertiesChanged penUdi "s.Filesystem" ∅ ["MountPoints"])).start
        ((Cache.Request.identifiers.perform (.ofConfig .compact)).start
          { service := ⟨pen, []⟩ }).2).2

/-- The service has no value that tells whether the pen drive is accessible, but
it has mount points. -/
def penReadings : List Reading :=
  [.get (penKey "MountPoints") .known,
    .property penUdi .storageAccess "Accessible" .fetched,
    .find penUdi "MountPoints" .known,
    .get (penKey "Accessible") .fetched,
    .get (penKey "MountPoints") .fetched,
    .get (penKey "MountPoints") .known,
    .property penUdi .storageVolume "Number" .fetched]

def penAnswers : List (Option Value) :=
  [none, some (.bool true), some (.texts ["/media/pen"]), none,
    some (.texts ["/media/pen"]), some (.texts ["/media/pen"]), none]

theorem undisturbed_of_readAll_pen :
    ∃ left, (readAll penReadings).start penBackend = (.ok penAnswers, left) ∧
      Undisturbed penBackend penReadings penAnswers left ∧
      left.cache.service.calls =
        [.managedObjects, .getProperty (penKey "Accessible"),
          .getProperty (penKey "MountPoints")] := by
  obtain ⟨answered, asked⟩ :
    ((readAll penReadings).start penBackend).1.toOption = some penAnswers ∧
      ((readAll penReadings).start penBackend).2.cache.service.calls =
        [.managedObjects, .getProperty (penKey "Accessible"),
          .getProperty (penKey "MountPoints")] := by decide +kernel
  have reachable : Cache.Reachable penBackend.settings penBackend.cache :=
    .handled _ (.requested .identifiers (.fresh _))
  rcases ran : (readAll penReadings).start
    penBackend with ⟨reason | answers, left⟩
  · rw [ran] at answered
    cases answered
  · rw [ran] at answered asked
    cases answered
    exact ⟨left, rfl, undisturbed_of_readAll reachable ran, asked⟩

end Pen

end ServiceBackend

end Hotplug
