import Hotplug.Proofs.Backend.Foreseen
import Hotplug.Proofs.Hub.Resync

/-!
# What a registry can be foreseen to answer

While the services of its backends rest, a registry finds the same devices as
often as it is asked. A query may load caches, fetch properties, make objects
and slots, and give up handles. But it leaves each slot as valid as it was, and
an identifier without a slot is foreseen to get a valid one exactly if its
backend offers it. A device is judged the same each time once the caches are
loaded that its answers come from: that of the backend that lists it, and that
of the backend its identifier is routed to.
-/

namespace Hotplug

namespace Hub

/-- What is fixed about a registry while the services of its backends rest. -/
structure Prospect (n : Nat) (σ : Type) where
  roster : List (Fin n)
  outlooks : Fin n → Outlook σ
  /-- The identifiers whose handles are valid once they are found. -/
  valid : String → Prop
  /-- The identifiers with a slot that is counted, so that it stays, but not
  valid. -/
  stuck : String → Prop

namespace Prospect

variable {n : Nat} {σ : Type} {prospect : Prospect n σ}

def route? (prospect : Prospect n σ) (udi : String) : Option (Fin n) :=
  prospect.roster.find? fun i => Text.startsBy udi
    (prospect.outlooks i).identifierPrefix

/-- The backend of an identifier has or makes an object for it. -/
def Offers (prospect : Prospect n σ) (udi : String) : Prop :=
  ∃ i, prospect.route? udi = some i ∧ (prospect.outlooks i).Offers udi

/-- The device of an identifier is listed by a backend. -/
def Lists (prospect : Prospect n σ) (i : Fin n) (udi : String) : Prop :=
  (prospect.outlooks i).devices.contains udi = true

/-- The outlooks are right, and what is offered gets a valid handle unless it is
stuck. -/
structure Sound [Service σ] (prospect : Prospect n σ) : Prop where
  right : ∀ i ∈ prospect.roster, (prospect.outlooks i).Right
  offered : ∀ udi, prospect.Offers udi → prospect.valid udi ∨ prospect.stuck udi
  apart : ∀ udi, prospect.valid udi → ¬prospect.stuck udi

theorem mem_of_route? {udi : String} {i : Fin n}
    (route : prospect.route? udi = some i) :
    i ∈ prospect.roster :=
  List.mem_of_find?_eq_some route

end Prospect

/-- How many handles of an identifier a query has that is about to judge a
device. -/
def pending (sought : Option String) (udi : String) : Nat :=
  if sought = some udi ∧ udi ≠ "" then 1 else 0

theorem pending_self {udi : String} (named : udi ≠ "") :
    pending (some udi) udi = 1 :=
  if_pos ⟨rfl, named⟩

theorem pending_other {udi other : String}
    (different : udi ≠ other ∨ other = "") :
    pending (some udi) other = 0 := by
  refine if_neg fun here => ?_
  exact different.elim (absurd (Option.some.inj here.1)) here.2

variable {n : Nat} {σ κ ω α : Type} {prospect : Prospect n σ}
  {shown : Option (Fin n)} {sought : Option String}
  {hub left : Hub n (ServiceBackend σ) ServiceObject κ ω} {i j : Fin n}
  {udi : String} {backend : ServiceBackend σ} [Service σ]

/-- The registry is as foreseen. It may have been asked by a query for the
devices of one backend, which is loaded since, and for one of these devices. -/
structure Foreseen (prospect : Prospect n σ) (shown : Option (Fin n))
    (sought : Option String)
    (hub : Hub n (ServiceBackend σ) ServiceObject κ ω) :
    Prop where
  roster : hub.registry.roster = prospect.roster
  settings : ∀ i, (hub.backendAt i).settings = (prospect.outlooks i).settings
  anchored : hub.Anchored
  covers : ∀ i ∈ prospect.roster,
    (prospect.outlooks i).Covers (hub.backendAt i).cache
  shows : ∀ i, shown = some i →
    (prospect.outlooks i).Shows (hub.backendAt i).cache
  slotted : ∀ (udi : String) slot, hub.registry.slots[udi]? = some slot →
    (slot.isValid hub.isAlive = true ↔ prospect.valid udi)
  unslotted : ∀ udi : String, hub.registry.slots[udi]? = none →
    prospect.valid udi → prospect.Offers udi
  placed : ∀ udi, sought = some udi → udi ≠ "" → hub.Slotted udi
  counted : ∀ udi, prospect.stuck udi → ∃ slot,
    hub.registry.slots[udi]? = some slot ∧ pending sought udi < slot.refs
  /-- The device behind a valid slot is that of a loaded backend, unless it is
  the service itself or no other backend lists it. -/
  loaded : ∀ udi i, hub.Slotted udi → prospect.valid udi →
    prospect.route? udi = some i →
    udi ≠ (prospect.outlooks i).identifierPrefix →
    (prospect.outlooks i).Shows (hub.backendAt i).cache ∨
      ∀ j ∈ prospect.roster, j ≠ i → ¬prospect.Lists j udi

/-- An object of a used number lives as long as before if objects are only
made. -/
theorem isAlive_withBackend_of_mild
    (mild : ServiceBackend.Mild (hub.backendAt i) backend)
    {ref : ObjectRef n ServiceObject}
    (reserves : (hub.backendAt ref.backend).Reserves udi ref.kept.serial) :
    (hub.withBackend i backend).isAlive ref = hub.isAlive ref := by
  have keeps : Backend.keeps ((hub.withBackend i backend).backendAt ref.backend)
      ref.kept.serial = Backend.keeps (hub.backendAt ref.backend)
          ref.kept.serial := by
    rw [backendAt_withBackend]
    split
    · next same =>
        subst same
        exact Bool.eq_iff_iff.mpr
          (reserves.keeps_iff mild.toSucceeds (mild.kept udi))
    · rfl
  rw [isAlive, isAlive, keeps]
  rfl

namespace Foreseen

theorem holds (foreseen : Foreseen prospect shown sought hub)
    (member : i ∈ prospect.roster) :
    ServiceBackend.Holds (prospect.outlooks i) (hub.backendAt i) :=
  ⟨foreseen.settings i, foreseen.covers i member⟩

theorem displays (foreseen : Foreseen prospect shown sought hub)
    (shows : (prospect.outlooks i).Shows (hub.backendAt i).cache) :
    ServiceBackend.Displays (prospect.outlooks i) (hub.backendAt i) :=
  ⟨foreseen.settings i, shows⟩

theorem prefixAt (foreseen : Foreseen prospect shown sought hub) (i : Fin n) :
    hub.prefixAt i = (prospect.outlooks i).identifierPrefix := by
  change (hub.backendAt i).settings.config.identifierPrefix = _
  rw [foreseen.settings]
  rfl

theorem route? (foreseen : Foreseen prospect shown sought hub) (udi : String) :
    hub.route? udi = prospect.route? udi := by
  change (hub.registry.roster.find?
    fun i => Text.startsBy udi (hub.prefixAt i)) = _
  simp only [foreseen.prefixAt, foreseen.roster]
  rfl

theorem exists_counted (foreseen : Foreseen prospect shown sought hub)
    (stuck : prospect.stuck udi) :
    ∃ slot, hub.registry.slots[udi]? = some slot ∧ 0 < slot.refs := by
  obtain ⟨slot, found, counts⟩ := foreseen.counted udi stuck
  exact ⟨slot, found, Nat.lt_of_le_of_lt (Nat.zero_le _) counts⟩

theorem judged (foreseen : Foreseen prospect shown sought hub) :
    Foreseen prospect shown none hub where
  roster := foreseen.roster
  settings := foreseen.settings
  anchored := foreseen.anchored
  covers := foreseen.covers
  shows := foreseen.shows
  slotted := foreseen.slotted
  unslotted := foreseen.unslotted
  placed _ := nofun
  counted _ := foreseen.exists_counted
  loaded := foreseen.loaded

theorem listed (foreseen : Foreseen prospect shown sought hub)
    (shows : (prospect.outlooks i).Shows (hub.backendAt i).cache) :
    Foreseen prospect (some i) sought hub :=
  { foreseen with shows := fun _ same => Option.some.inj same ▸ shows }

theorem passed (foreseen : Foreseen prospect shown sought hub) :
    Foreseen prospect none sought hub :=
  { foreseen with shows := fun _ => nofun }

theorem ofBackend (foreseen : Foreseen prospect shown sought hub)
    (mild : ServiceBackend.Mild (hub.backendAt i) backend)
    (covers : (prospect.outlooks i).Covers backend.cache)
    (shows : (prospect.outlooks i).Shows (hub.backendAt i).cache →
      (prospect.outlooks i).Shows backend.cache) :
    Foreseen prospect shown sought (hub.withBackend i backend) := by
  have onward : ∀ j, (prospect.outlooks j).Shows (hub.backendAt j).cache →
      (prospect.outlooks j).Shows
          ((hub.withBackend i backend).backendAt j).cache := by
    intro j showsBefore
    rw [backendAt_withBackend]
    split
    · next same =>
        subst same
        exact shows showsBefore
    · exact showsBefore
  constructor
  · exact foreseen.roster
  · intro j
    rw [backendAt_withBackend]
    split
    · next same =>
        subst same
        exact mild.settings.trans (foreseen.settings i)
    · exact foreseen.settings j
  · exact foreseen.anchored.ofBackend mild.toSucceeds
  · intro j member
    rw [backendAt_withBackend]
    split
    · next same =>
        subst same
        exact covers
    · exact foreseen.covers j member
  · exact fun j isShown => onward j (foreseen.shows j isShown)
  · intro udi slot found
    rw [← foreseen.slotted udi slot found]
    rw [HandleSlot.isValid_congr rfl fun ref bound =>
      isAlive_withBackend_of_mild mild
      (foreseen.anchored.reserved udi slot ref found bound)]
  · exact foreseen.unslotted
  · exact foreseen.placed
  · exact foreseen.counted
  · intro udi j slotted valid route notPrefix
    exact (foreseen.loaded udi j slotted valid route notPrefix).imp_left
      (onward j)

/-- Slots change their count or go if they are not valid; and one may come that
is as valid as foreseen, with the cache of its backend loaded. -/
theorem ofSlots (foreseen : Foreseen prospect shown sought hub)
    {later : Option String}
    {change : HandleTable (ObjectRef n ServiceObject) →
      HandleTable (ObjectRef n ServiceObject)}
    (anchored : (hub.onSlots change).Anchored)
    (bound : ∀ (udi : String) slot, (change hub.registry.slots)[udi]? =
      some slot → (∃ before, hub.registry.slots[udi]? = some before ∧
        before.object = slot.object) ∨
      (slot.isValid hub.isAlive = true ↔ prospect.valid udi) ∧
      (prospect.valid udi → ∀ i, prospect.route? udi = some i →
        udi ≠ (prospect.outlooks i).identifierPrefix →
      (prospect.outlooks i).Shows (hub.backendAt i).cache))
    (gone : ∀ udi : String, (change hub.registry.slots)[udi]? = none →
      hub.registry.slots[udi]? = none ∨ ¬prospect.valid udi)
    (placed : ∀ udi, later = some udi → udi ≠ "" →
      (hub.onSlots change).Slotted udi)
    (counted : ∀ udi, prospect.stuck udi → ∃ slot,
      (change hub.registry.slots)[udi]? = some slot ∧
      pending later udi < slot.refs) :
    Foreseen prospect shown later (hub.onSlots change) where
  roster := foreseen.roster
  settings := foreseen.settings
  anchored := anchored
  covers := foreseen.covers
  shows := foreseen.shows
  slotted udi slot found := by
    rcases bound udi slot found with ⟨before, earlier, same⟩ | ⟨foretold, _⟩
    · rw [← foreseen.slotted udi before earlier,
        HandleSlot.isValid_congr same.symm fun _ _ => rfl]
      rfl
    · exact foretold
  unslotted udi absent valid :=
    foreseen.unslotted udi ((gone udi absent).resolve_right (absurd valid))
      valid
  placed := placed
  counted := counted
  loaded udi i slotted valid route notPrefix := by
    obtain ⟨slot, found⟩ := slotted
    rcases bound udi slot found with ⟨before, earlier, _⟩ | ⟨_, shows⟩
    · exact foreseen.loaded udi i ⟨before, earlier⟩ valid route notPrefix
    · exact .inl (shows valid i route notPrefix)

/-- A handle is given up, but of a stuck slot only the one that the query
has. -/
theorem release (foreseen : Foreseen prospect shown sought hub)
    {handle : Handle}
    (spare : handle.bound = true → prospect.stuck handle.udi →
      0 < pending sought handle.udi) :
    Foreseen prospect shown none (hub.release handle) := by
  have anchored := foreseen.anchored.release handle
  unfold Hub.release at anchored ⊢
  split
  · next isBound =>
      rw [if_pos isBound] at anchored
      refine foreseen.judged.ofSlots anchored (fun udi slot found => ?_)
        (fun udi absent => ?_) (fun _ => nofun) fun udi stuck => ?_
      · exact .inl (HandleTable.exists_of_release found)
      · rw [HandleTable.getElem?_release] at absent
        split at absent
        · next same =>
            subst same
            cases held : hub.registry.slots[handle.udi]? with
            | none => exact .inl rfl
            | some slot =>
                rw [held, Option.bind_some, HandleTable.released] at absent
                split at absent
                · next gone =>
                    right
                    rw [← foreseen.slotted handle.udi slot held, gone.2]
                    simp
                · contradiction
        · exact .inl absent
      · rw [HandleTable.getElem?_release]
        split
        · next same =>
            subst same
            obtain ⟨slot, held, counts⟩ := foreseen.counted handle.udi stuck
            have several : 1 < slot.refs :=
              Nat.lt_of_le_of_lt (spare isBound stuck) counts
            refine ⟨{ slot with refs := slot.refs - 1 }, ?_,
              Nat.sub_pos_of_lt several⟩
            rw [held, Option.bind_some, HandleTable.released,
              if_neg fun few => Nat.not_le.mpr several few.1]
        · exact foreseen.exists_counted stuck
  · exact foreseen.judged

theorem releaseAll (foreseen : Foreseen prospect shown none hub)
    (sound : prospect.Sound) {handles : List Handle}
    (valid : ∀ handle ∈ handles, prospect.valid handle.udi) :
    Foreseen prospect shown none (hub.releaseAll handles) := by
  induction handles generalizing hub with
  | nil => exact foreseen
  | cons handle handles induction =>
      have isValid := valid handle List.mem_cons_self
      exact induction (foreseen.release
        fun _ stuck => (sound.apart _ isValid stuck).elim)
        fun other member => valid other (List.mem_cons_of_mem handle member)

end Foreseen

section Finding

/-- An object is made exactly for what is offered, and is that of a loaded
backend, unless it stands for the service itself. -/
theorem Foreseen.yields_makeObject
    (foreseen : Foreseen prospect shown sought hub) (sound : prospect.Sound)
    (udi : String) :
    (makeObject udi).Yields hub
      (fun object left => Foreseen prospect shown sought left ∧
        left.registry.slots = hub.registry.slots ∧
        (object.isSome = true ↔ prospect.Offers udi) ∧
        (∀ ref, object = some ref → left.isAlive ref = true) ∧
        (prospect.Offers udi → ∀ i, prospect.route? udi = some i →
          udi ≠ (prospect.outlooks i).identifierPrefix →
          (prospect.outlooks i).Shows (left.backendAt i).cache))
      fun _ => False := by
  rw [Hub.yields_makeObject, foreseen.route?]
  cases route : prospect.route? udi with
  | none =>
      have unoffered : ¬prospect.Offers udi := by
        intro offers
        obtain ⟨i, routed, _⟩ := offers
        rw [route] at routed
        contradiction
      refine ⟨foreseen, rfl, by simpa using unoffered, ?_, (absurd · unoffered)⟩
      intro ref made
      contradiction
  | some i =>
      have member := Prospect.mem_of_route? route
      have offers : prospect.Offers udi ↔ (prospect.outlooks i).Offers udi := by
        simp [Prospect.Offers, route]
      dsimp only
      rw [yields_atBackend]
      have made := (ServiceBackend.yields_objectOf udi (hub.backendAt i)).and
        (ServiceBackend.yields_objectOf_foreseen (sound.right i member)
          (foreseen.holds member) (foreseen.anchored.wellKept i) udi)
      refine made.mono ?_ fun _ => And.right
      intro found backend outcome
      obtain ⟨⟨mild, held, _⟩, offered, holds, onward, displays⟩ := outcome
      refine ⟨?_, rfl, ?_, ?_, ?_⟩
      · exact foreseen.ofBackend mild holds.cache
          fun shows => (onward (foreseen.displays shows)).cache
      · rw [Option.isSome_map, offered, offers]
      · intro ref isRef
        obtain ⟨kept, isFound, rfl⟩ := Option.map_eq_some_iff.mp isRef
        apply isAlive_of_kept
        rw [backendAt_withBackend, if_pos rfl]
        exact held kept isFound
      · intro isOffered j routed notPrefix
        obtain rfl : i = j := Option.some.inj routed
        rw [backendAt_withBackend, if_pos rfl]
        exact (displays (offered.mpr (offers.mp isOffered)) notPrefix).cache

/-- The handle by which a device is found. -/
def handleOf (udi : String) : Handle := if udi = "" then .null else ⟨udi, true⟩

theorem udi_handleOf : (handleOf udi).udi = udi := by
  rw [handleOf]
  split
  · next empty => exact empty.symm
  · rfl

theorem Foreseen.counting (foreseen : Foreseen prospect shown none hub)
    (named : udi ≠ "") {slot : HandleSlot (ObjectRef n ServiceObject)}
    (present : hub.registry.slots[udi]? = some slot)
    (anchored : (hub.onSlots fun slots => slots.insert udi
      { slot with refs := slot.refs + 1 }).Anchored) :
    Foreseen prospect shown (some udi)
      (hub.onSlots fun slots => slots.insert udi
          { slot with refs := slot.refs + 1 }) := by
  refine foreseen.ofSlots anchored ?_ ?_ ?_ ?_
  · exact fun other later found =>
      .inl (HandleTable.exists_of_counted present found)
  · intro other absent
    rw [Named.getElem?_insert] at absent
    split at absent
    · contradiction
    · exact .inl absent
  · intro other same _
    obtain rfl := Option.some.inj same
    exact ⟨_, Named.getElem?_insert.trans (if_pos rfl)⟩
  · intro other stuck
    obtain ⟨before, found, counts⟩ := foreseen.exists_counted stuck
    rw [Named.getElem?_insert]
    split
    · next same =>
        subst same
        obtain rfl := Option.some.inj (present.symm.trans found)
        rw [pending_self named]
        exact ⟨_, rfl, Nat.succ_lt_succ counts⟩
    · next different =>
        rw [pending_other (.inl different)]
        exact ⟨before, found, counts⟩

theorem Foreseen.opening (foreseen : Foreseen prospect shown none hub)
    (sound : prospect.Sound) (absent : hub.registry.slots[udi]? = none)
    {object : Option (ObjectRef n ServiceObject)}
    (offered : object.isSome = true ↔ prospect.Offers udi)
    (alive : ∀ ref, object = some ref → hub.isAlive ref = true)
    (shows : prospect.Offers udi → ∀ i, prospect.route? udi = some i →
      udi ≠ (prospect.outlooks i).identifierPrefix →
      (prospect.outlooks i).Shows (hub.backendAt i).cache)
    (anchored :
      (hub.onSlots (HandleTable.acquireWith hub.isAlive udi object)).Anchored) :
    Foreseen prospect shown (some udi)
      (hub.onSlots (HandleTable.acquireWith hub.isAlive udi object)) := by
  have acquired : ∀ other : String,
      (HandleTable.acquireWith hub.isAlive udi object
          hub.registry.slots)[other]? =
        if udi = other then some ⟨1, object⟩
        else hub.registry.slots[other]? := by
    intro other
    rw [HandleTable.getElem?_acquireWith, absent]
    rfl
  have free : ¬prospect.stuck udi := by
    intro stuck
    obtain ⟨slot, found, _⟩ := foreseen.counted udi stuck
    rw [absent] at found
    contradiction
  have valid : prospect.valid udi ↔ prospect.Offers udi :=
    ⟨foreseen.unslotted udi absent,
      fun offers => (sound.offered udi offers).resolve_right free⟩
  refine foreseen.ofSlots anchored ?_ ?_ ?_ ?_
  · intro other slot found
    rw [acquired] at found
    split at found
    · next same =>
        subst same
        cases found
        refine .inr ⟨?_, fun isValid => shows (valid.mp isValid)⟩
        rw [valid, ← offered]
        cases object with
        | none => simp [HandleSlot.isValid, HandleSlot.living]
        | some ref =>
            simp [HandleSlot.isValid, HandleSlot.living, alive ref rfl]
    · exact .inl ⟨slot, found, rfl⟩
  · intro other gone
    rw [acquired] at gone
    split at gone
    · contradiction
    · exact .inl gone
  · intro other same _
    obtain rfl := Option.some.inj same
    exact ⟨_, (acquired udi).trans (if_pos rfl)⟩
  · intro other stuck
    obtain ⟨slot, found, counts⟩ := foreseen.exists_counted stuck
    have different : udi ≠ other := fun same => free (same ▸ stuck)
    refine ⟨slot, (acquired other).trans ((if_neg different).trans found), ?_⟩
    rw [pending_other (.inl different)]
    exact counts

theorem answers_find (sound : prospect.Sound) (udi : String) :
    Run.Answers
      (Foreseen prospect shown none :
        Hub n (ServiceBackend σ) ServiceObject κ ω → Prop)
      (Foreseen prospect shown (some udi)) (find udi) (handleOf udi) := by
  intro hub foreseen
  by_cases empty : udi = ""
  · subst empty
    refine yields_find_null.mpr
      ⟨rfl, { foreseen with placed := ?_, counted := ?_ }⟩
    · intro other same named
      exact (named (Option.some.inj same).symm).elim
    · intro other stuck
      by_cases here : other = ""
      · rw [pending_other (.inr here)]
        exact foreseen.exists_counted stuck
      · rw [pending_other (.inl (Ne.symm here))]
        exact foreseen.exists_counted stuck
  · have anchored := Anchored.keeps_find udi hub foreseen.anchored
    cases present : hub.registry.slots[udi]? with
    | some slot =>
        rw [yields_find_of_slot empty present] at anchored ⊢
        exact ⟨(if_neg empty).symm, foreseen.counting empty present anchored⟩
    | none =>
        rw [yields_find_of_no_slot empty present] at anchored ⊢
        refine (anchored.and (foreseen.yields_makeObject sound udi)).mono ?_
          fun _ => And.right
        intro object left outcome
        obtain ⟨anchoredLeft, foreseenLeft, slots, offered, alive, shows⟩ :=
          outcome
        exact ⟨(if_neg empty).symm, foreseenLeft.opening sound
          ((congrArg (fun table => table[udi]?) slots).trans present)
            offered alive shows
          anchoredLeft⟩

end Finding

section Judging

variable {predicate : Predicate} {parent : Option String}

/-- What is answered by a backend that does no more than make objects, load and
fetch. -/
theorem answers_atBackend {step : Run (ServiceBackend σ) α} {answer : α}
    {before : ServiceBackend σ → Prop}
    {start : Hub n (ServiceBackend σ) ServiceObject κ ω → Prop}
    (gentle : ServiceBackend.Gentle step)
    (answers : Run.Answers before
      (ServiceBackend.Displays (prospect.outlooks i)) step answer)
    (starts : ∀ hub, start hub → Foreseen prospect shown sought hub ∧
      before (hub.backendAt i)) :
    Run.Answers start
      (fun left => Foreseen prospect shown sought left ∧
        (prospect.outlooks i).Shows (left.backendAt i).cache)
      (atBackend i step) answer := by
  intro hub holds
  obtain ⟨foreseen, viewed⟩ := starts hub holds
  rw [yields_atBackend]
  refine ((gentle (hub.backendAt i)).and
    (answers (hub.backendAt i) viewed)).mono ?_ fun _ => And.right
  intro given backend outcome
  obtain ⟨mild, rfl, displays⟩ := outcome
  refine ⟨rfl, foreseen.ofBackend mild (.inl displays.cache)
    fun _ => displays.cache, ?_⟩
  rw [backendAt_withBackend, if_pos rfl]
  exact displays.cache

omit [Service σ] in
theorem atBackend_pure {β ο : Type} (i : Fin n) (answer : α) :
    (atBackend i (pure answer) : Run (Hub n β ο κ ω) α) = pure answer := by
  have same : ∀ hub : Hub n β ο κ ω,
      hub.withBackend i (hub.backendAt i) = hub := by
    intro hub
    rw [withBackend, backendAt, Fin.getElem_fin, Vector.set_getElem_self]
  refine funext fun hub => ?_
  exact congrArg (Prod.mk (Except.ok answer)) (same hub)

/-- The service itself is judged without a look at anything. -/
theorem determined_selects_root
    {steady : Hub n (ServiceBackend σ) ServiceObject κ ω → Prop} (i : Fin n)
    (serial : Nat) (udi : String) :
    Run.Determined steady steady
      (predicate.selects (deviceAt ⟨i, ⟨serial, .root udi⟩⟩ :
      Device (Run (Hub n (ServiceBackend σ) ServiceObject κ ω)))) := by
  refine Predicate.determined_selects ?_ predicate fun compared _ => ?_
  · change Run.Determined steady steady (atBackend i (pure _))
    rw [atBackend_pure]
    exact .pure _
  · change Run.Determined steady steady (atBackend i (pure _))
    rw [atBackend_pure]
    exact .pure _

/-- A device of a loaded backend is judged the same each time. -/
theorem determined_selects_tracked (sound : prospect.Sound)
    (member : i ∈ prospect.roster)
    (watches : ServiceBackend.Watches (prospect.outlooks i) predicate parent)
    (serial : Nat) (udi : String) :
    Run.Determined
      (fun hub : Hub n (ServiceBackend σ) ServiceObject κ ω =>
        Foreseen prospect shown sought hub ∧
          (prospect.outlooks i).Shows (hub.backendAt i).cache)
      (fun hub => Foreseen prospect shown sought hub ∧
        (prospect.outlooks i).Shows (hub.backendAt i).cache)
      (predicate.selects (deviceAt ⟨i, ⟨serial, .tracked udi⟩⟩ :
        Device (Run (Hub n (ServiceBackend σ) ServiceObject κ ω)))) := by
  have right := sound.right i member
  have starts : ∀ hub : Hub n (ServiceBackend σ) ServiceObject κ ω,
      (Foreseen prospect shown sought hub ∧
        (prospect.outlooks i).Shows (hub.backendAt i).cache) →
      Foreseen prospect shown sought hub ∧
        ServiceBackend.Displays (prospect.outlooks i) (hub.backendAt i) :=
    fun hub given => ⟨given.1, given.1.displays given.2⟩
  refine Predicate.determined_selects ?_ predicate fun compared isCompared => ?_
  · exact ⟨_, trivial, answers_atBackend
      (ServiceBackend.gentle_deviceCapabilities (.tracked udi))
      (ServiceBackend.answers_capabilities udi) starts⟩
  · obtain ⟨value, _, answers⟩ :=
      ServiceBackend.determined_compared right watches udi compared isCompared
    exact ⟨value, trivial, answers_atBackend
      (ServiceBackend.gentle_deviceProperty (.tracked udi)
      compared.1 compared.2 .fetched) answers starts⟩

/-- Behind a handle that was found there is an object if it is foreseen to be
valid, that of its identifier. -/
theorem Foreseen.object?_handleOf
    (foreseen : Foreseen prospect shown (some udi) hub) :
    (¬(udi ≠ "" ∧ prospect.valid udi) → hub.object? (handleOf udi) = none) ∧
      (udi ≠ "" → prospect.valid udi → ∃ i serial,
        prospect.route? udi = some i ∧
        hub.object? (handleOf udi) =
          some ⟨i, ⟨serial, (prospect.outlooks i).formOf udi⟩⟩) := by
  by_cases empty : udi = ""
  · subst empty
    exact ⟨fun _ => rfl, fun named => (named rfl).elim⟩
  · obtain ⟨slot, found⟩ := foreseen.placed udi rfl empty
    have living : hub.object? (handleOf udi) = slot.living hub.isAlive := by
      rw [handleOf, if_neg empty, object?, if_pos rfl,
        HandleTable.object?, found, Option.bind_some]
    rw [living]
    have foretold := foreseen.slotted udi slot found
    rw [HandleSlot.isValid] at foretold
    constructor
    · intro unanswered
      refine Option.not_isSome_iff_eq_none.mp fun isSome => ?_
      exact unanswered ⟨empty, foretold.mp isSome⟩
    · intro _ valid
      obtain ⟨ref, isRef⟩ := Option.isSome_iff_exists.mp (foretold.mpr valid)
      have bound := (Option.filter_eq_some_iff.mp isRef).1
      have formed := foreseen.anchored.formed udi slot ref found bound
      rw [ServiceBackend.formOf, ServiceBackend.identifierPrefix,
        ServiceBackend.config, foreseen.settings] at formed
      refine ⟨ref.backend, ref.kept.serial, ?_, ?_⟩
      · rw [← foreseen.route?]
        exact foreseen.anchored.routed udi slot ref found bound
      · rw [isRef, Outlook.formOf, Outlook.identifierPrefix, ← formed]

/-- A device that a loaded backend lists is judged the same each time it was
found. -/
theorem settles_ask (sound : prospect.Sound)
    (watches : ∀ i ∈ prospect.roster,
      ServiceBackend.Watches (prospect.outlooks i) predicate parent)
    (listed : prospect.Lists j udi) (member : j ∈ prospect.roster) :
    Run.Settles (fun matched => matched = true → prospect.valid udi)
      (Foreseen prospect (some j) (some udi) :
        Hub n (ServiceBackend σ) ServiceObject κ ω → Prop)
      (Foreseen prospect (some j) (some udi))
      (ask (handleOf udi) false fun device => predicate.selects device) := by
  have nothing : Run.Settles (fun matched => matched = true →
    prospect.valid udi) (Foreseen prospect (some j) (some udi) :
        Hub n (ServiceBackend σ) ServiceObject κ ω → Prop)
      (Foreseen prospect (some j) (some udi)) (pure false) := .pure nofun
  by_cases answered : udi ≠ "" ∧ prospect.valid udi
  · obtain ⟨named, valid⟩ := answered
    cases route : prospect.route? udi with
    | none =>
        refine nothing.bindGet fun hub foreseen => ?_
        obtain ⟨i, _, routed, _⟩ := foreseen.object?_handleOf.2 named valid
        rw [route] at routed
        contradiction
    | some i =>
        have judged : Run.Determined
            (Foreseen prospect (some j) (some udi) :
              Hub n (ServiceBackend σ) ServiceObject κ ω → Prop)
            (Foreseen prospect (some j) (some udi))
            (predicate.selects (deviceAt
              ⟨i, ⟨0, (prospect.outlooks i).formOf udi⟩⟩ :
              Device (Run (Hub n (ServiceBackend σ) ServiceObject κ ω)))) := by
          rw [Outlook.formOf]
          split
          · exact determined_selects_root i 0 udi
          · next notPrefix =>
              have routed := Prospect.mem_of_route? route
              refine (determined_selects_tracked sound routed
                (watches i routed) 0 udi).mono ?_ fun _ => And.left
              intro hub foreseen
              refine ⟨foreseen, ?_⟩
              rcases foreseen.loaded udi i
                (foreseen.placed udi rfl named) valid route
                notPrefix with shows | alone
              · exact shows
              · by_cases same : j = i
                · exact foreseen.shows i (congrArg some same)
                · exact (alone j member same listed).elim
        have judgedValid := judged.imp
          fun matched _ (_ : matched = true) => valid
        refine judgedValid.bindGet fun hub foreseen => ?_
        obtain ⟨_, serial, routed, object⟩ :=
          foreseen.object?_handleOf.2 named valid
        obtain rfl := Option.some.inj (route.symm.trans routed)
        rw [object]
        rfl
  · refine nothing.bindGet fun hub foreseen => ?_
    rw [foreseen.object?_handleOf.1 answered]

/-- The same devices are selected each time, each by a valid handle. -/
theorem settles_examine (sound : prospect.Sound)
    (watches : ∀ i ∈ prospect.roster,
      ServiceBackend.Watches (prospect.outlooks i) predicate parent)
    (listed : prospect.Lists j udi) (member : j ∈ prospect.roster) :
    Run.Settles (fun found => ∀ handle ∈ found, prospect.valid handle.udi)
      (Foreseen prospect (some j) none :
        Hub n (ServiceBackend σ) ServiceObject κ ω → Prop)
      (Foreseen prospect (some j) none) (examine predicate udi) := by
  have finding : Run.Settles (· = handleOf udi)
      (Foreseen prospect (some j) none :
        Hub n (ServiceBackend σ) ServiceObject κ ω → Prop)
      (Foreseen prospect (some j) (some udi)) (find udi) :=
        ⟨_, rfl, answers_find sound udi⟩
  refine finding.bind fun handle isHandle => ?_
  subst isHandle
  refine ((settles_ask sound watches listed member).onCrash _).bind
    fun matched isValid => ?_
  cases matched with
  | true =>
      refine (Run.Settles.pure fun handle same => ?_).mono
        (fun _ => Foreseen.judged) fun _ => id
      obtain rfl := Option.some.inj same
      rw [udi_handleOf]
      exact isValid rfl
  | false =>
      have released : Run.Determined
          (Foreseen prospect (some j) (some udi) :
            Hub n (ServiceBackend σ) ServiceObject κ ω → Prop)
          (Foreseen prospect (some j) none)
              (modify (release (handleOf udi))) := by
        refine .modify fun hub foreseen => foreseen.release fun isBound _ => ?_
        have named : udi ≠ "" := by
          intro empty
          rw [handleOf, if_pos empty] at isBound
          contradiction
        rw [udi_handleOf, pending_self named]
        exact Nat.zero_lt_one
      exact Run.Settles.bind released fun _ _ => .pure nofun

theorem settles_queryCapability (sound : prospect.Sound)
    (watches : ∀ i ∈ prospect.roster,
      ServiceBackend.Watches (prospect.outlooks i) predicate parent)
    (member : j ∈ prospect.roster) {state : QueryState}
    (valid : ∀ handle ∈ state.found, prospect.valid handle.udi)
    (capability : Capability) :
    Run.Settles (fun after => ∀ handle ∈ after.found, prospect.valid handle.udi)
      (Foreseen prospect none none :
        Hub n (ServiceBackend σ) ServiceObject κ ω → Prop)
      (Foreseen prospect none none)
        (queryCapability predicate parent j state capability) := by
  have listing : Run.Settles (fun ids => ∀ udi ∈ ids, prospect.Lists j udi)
      (Foreseen prospect none none :
        Hub n (ServiceBackend σ) ServiceObject κ ω → Prop)
      (Foreseen prospect (some j) none)
      (atBackend j (Backend.list parent (some capability))) := by
    obtain ⟨ids, members, answers⟩ := ServiceBackend.settles_list
      (sound.right j member) (watches j member) (some capability)
    refine ⟨ids, members, (answers_atBackend
      (ServiceBackend.gentle_list parent (some capability)) answers
          fun hub foreseen => ⟨foreseen, foreseen.holds member⟩).mono
            (fun _ => id) ?_⟩
    exact fun left outcome => outcome.1.listed outcome.2
  refine (listing.onCrash _).bind fun ids members => ?_
  refine Run.Settles.mono (.foldlM valid fun after found udi isListed => ?_)
    (fun _ => id) fun _ => Foreseen.passed
  rw [examineOnce]
  split
  · exact .pure found
  · refine ((settles_examine sound watches (members udi isListed)
      member).onCrash _).bind fun examined isValid => .pure
        fun handle isFound => ?_
    rcases List.mem_append.mp isFound with earlier | now
    · exact found handle earlier
    · exact isValid handle (Option.mem_toList.mp now)

theorem settles_queryBackend (sound : prospect.Sound)
    (watches : ∀ i ∈ prospect.roster,
      ServiceBackend.Watches (prospect.outlooks i) predicate parent)
    (member : j ∈ prospect.roster) {found : List Handle}
    (valid : ∀ handle ∈ found, prospect.valid handle.udi) :
    Run.Settles (fun all => ∀ handle ∈ all, prospect.valid handle.udi)
      (Foreseen prospect none none :
        Hub n (ServiceBackend σ) ServiceObject κ ω → Prop)
      (Foreseen prospect none none)
        (queryBackend predicate parent found j) := by
  have rounds : Run.Settles
      (fun (after : QueryState) => ∀ handle ∈ after.found,
        prospect.valid handle.udi)
      (Foreseen prospect none none :
        Hub n (ServiceBackend σ) ServiceObject κ ω → Prop)
      (Foreseen prospect none none)
      ((predicate.usedCapabilities.filter
        (prospect.outlooks j).settings.config.supported.contains).foldlM
          (queryCapability predicate parent j) ⟨[], found⟩) :=
    .foldlM valid fun state isValid capability _ =>
      settles_queryCapability sound watches member isValid capability
  refine Run.Settles.bindGet (fun hub foreseen => ?_)
      (rounds.bind fun state isValid => Run.Settles.pure isValid)
  have described : hub.descriptorAt j =
      (prospect.outlooks j).settings.config.descriptor := by
    rw [← foreseen.settings]
    rfl
  rw [described]
  rfl

/-- A query with a predicate that is not empty answers the same each time, with
handles that are valid. -/
theorem settles_select (sound : prospect.Sound)
    (watches : ∀ i ∈ prospect.roster,
      ServiceBackend.Watches (prospect.outlooks i) predicate parent)
    (filled : predicate.isEmpty = false) :
    Run.Settles (fun all => ∀ handle ∈ all, prospect.valid handle.udi)
      (Foreseen prospect none none :
        Hub n (ServiceBackend σ) ServiceObject κ ω → Prop)
      (Foreseen prospect none none) (select predicate parent) := by
  have nothing : ∀ handle ∈ ([] : List Handle), prospect.valid handle.udi := by
    simp
  rw [select, filled]
  split
  · exact .pure nothing
  · refine Run.Settles.bindGet (fun hub foreseen => ?_)
      (Run.Settles.foldlM nothing fun found valid j member =>
        settles_queryBackend sound watches member valid)
    rw [foreseen.roster]

end Judging

end Hub

end Hotplug
