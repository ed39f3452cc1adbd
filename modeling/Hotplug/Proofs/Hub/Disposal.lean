import Hotplug.Cache.RemovableMedia
import Hotplug.Proofs.Hub.Charter
import Hotplug.Proofs.Hub.Counting
import Hotplug.Proofs.Hub.Tended
import Hotplug.Proofs.Script
import Hotplug.Service.Memory

/-!
# Slots are disposed of

Handles are looked up, cloned and given up, devices are listed and queried,
services change, their signals are handled, and events are delivered, in any
order and also by callbacks. Once every event is delivered, each slot counts a
handle or has a living object, unless a reload let go of its object without a
word.
-/

namespace Hotplug

/-- The deed loads every attached backend again. -/
def Deed.Loads {n : Nat} {β ο κ μ : Type} : Deed n β ο κ μ → Prop
  | .everyDevice | .reload => True
  | .select predicate _ => predicate.isEmpty = true
  | .query text _ => (Predicate.parseOrInvalid text).isEmpty = true
  | _ => False

/-- How a slot can lose its object, or what would tell so. -/
inductive Mishap where
  /-- When everything was loaded again, a backend let go of the object of the
  identifier, of which no handle is counted. -/
  | dropped (udi : String)
  /-- A delivery was cut short by a callback that crashed. -/
  | interrupted
  deriving DecidableEq

/-- A world whose client remembers the mishaps so far. -/
abbrev Estate (n : Nat) (σ κ : Type) : Type :=
  World n (ServiceBackend σ) ServiceObject κ (List Mishap)

/-- What can be done with an estate. -/
inductive Chore (n : Nat) (σ κ : Type) where
  | plain (deed : Deed n (ServiceBackend σ) ServiceObject κ (List Mishap))
    (plain : deed.IsPlain)
  | load (deed : Deed n (ServiceBackend σ) ServiceObject κ (List Mishap))
    (loads : deed.Loads)
  /-- A backend handles a signal. -/
  | handle (i : Fin n) (signal : Signal)
  /-- A service changes, or someone else uses it. -/
  | serve (i : Fin n) (step : Run σ Unit)
  | pump

namespace Estate

variable {n : Nat} {σ κ α : Type}

def record (mishaps : List Mishap) (estate : Estate n σ κ) : Estate n σ κ :=
  estate.onClient fun client =>
    { client with memory := client.memory ++ mishaps }

/-- Neither a delivery was cut short, nor was the object of the identifier
dropped. -/
def Clear (udi : String) (client : Client n ServiceObject (List Mishap)) :
    Prop :=
  .dropped udi ∉ client.memory ∧ .interrupted ∉ client.memory

theorem Clear.of_record {udi : String} {mishaps : List Mishap}
    {estate : Estate n σ κ} (clear : Clear udi (estate.record mishaps).client) :
    Clear udi estate.client :=
  ⟨fun member => clear.1 (List.mem_append_left _ member),
    fun member => clear.2 (List.mem_append_left _ member)⟩

variable [Service σ]

/-- What was dropped between two moments. -/
def droppedBetween (before left : Estate n σ κ) : List Mishap :=
  (List.finRange n).flatMap fun i =>
    ((before.backendAt i).objects.toList.filter fun entry =>
      !Backend.keeps (left.backendAt i) entry.2.serial &&
        left.registry.slots.sharers entry.1 == 0).map
          fun entry => .dropped entry.1

theorem keeps_of_not_dropped {before left : Estate n σ κ} {udi : String}
    (stays : .dropped udi ∉ droppedBetween before left)
    (unused : left.registry.slots.sharers udi = 0) {i : Fin n}
    {kept : Kept ServiceObject}
    (held : (before.backendAt i).objects[udi]? = some kept) :
    Backend.keeps (left.backendAt i) kept.serial = true := by
  apply Bool.of_not_eq_false
  intro gone
  apply stays
  apply List.mem_flatMap.mpr
  refine ⟨i, List.mem_finRange i,
    List.mem_map.mpr ⟨(udi, kept), List.mem_filter.mpr ⟨?_, ?_⟩, rfl⟩⟩
  · exact Std.ExtTreeMap.mem_toList_iff_getElem?_eq_some.mpr held
  · rw [gone, unused]
    rfl

end Estate

namespace Chore

variable {n : Nat} {σ κ α : Type} [Service σ] {pathExists : String → Bool}
  {callbacks : κ → DeviceEvent → Run (Estate n σ κ) Unit}

def deed : Chore n σ κ → Deed n (ServiceBackend σ) ServiceObject κ (List Mishap)
  | plain deed _ | load deed _ => deed
  | handle i signal => .atBackend i (do let _ ← ServiceBackend.absorb signal)
  | serve i step =>
      .atBackend i (ServiceBackend.onCache fun _ => Cache.call step)
  | pump => .pump

def mishaps (before left : Estate n σ κ) (crashed : Bool) :
    Chore n σ κ → List Mishap
  | load _ _ => Estate.droppedBetween before left
  | pump => if crashed then [.interrupted] else []
  | _ => []

def perform (pathExists : String → Bool)
    (callbacks : κ → DeviceEvent → Run (Estate n σ κ) Unit)
    (chore : Chore n σ κ) :
    Run (Estate n σ κ) Unit :=
  .ofStart fun before =>
    match (chore.deed.perform pathExists callbacks).start before with
    | (.ok (), left) =>
        (.ok (), Estate.record (chore.mishaps before left false) left)
    | (.error reason, left) =>
        (.error reason, Estate.record (chore.mishaps before left true) left)

theorem yields_perform {chore : Chore n σ κ} {before : Estate n σ κ}
    {after : Unit → Estate n σ κ → Prop} {failed : Estate n σ κ → Prop} :
    (chore.perform pathExists callbacks).Yields before after failed ↔
      (chore.deed.perform pathExists callbacks).Yields before
        (fun _ left => after () (Estate.record
          (chore.mishaps before left false) left))
        (fun left => failed (Estate.record
          (chore.mishaps before left true) left)) := by
  unfold Run.Yields
  rw [perform, Run.start_ofStart]
  rcases (chore.deed.perform pathExists callbacks).start
    before with ⟨reason | _, left⟩ <;> rfl

theorem keeps_tallied
    (keeps : ∀ callback event, (callbacks callback event).Keeps World.Tallied)
    (chore : Chore n σ κ) :
    (chore.perform pathExists callbacks).Keeps World.Tallied := by
  intro before tallied
  rw [yields_perform]
  exact (World.Tallied.keeps_perform pathExists keeps chore.deed
    before tallied).mono (fun _ _ left => ⟨left.sharers, left.past⟩)
      fun _ left => ⟨left.sharers, left.past⟩

end Chore

namespace Estate

variable {n : Nat} {σ κ α : Type} [Service σ] {pathExists : String → Bool}
  {callbacks : κ → DeviceEvent → Run (Estate n σ κ) Unit} {udi : String}
  {pending : List DeviceEvent} {estate left : Estate n σ κ}

/-- The slots of the estate are tended as long as no mishap concerns them. -/
abbrev Tended (udi : String) (pending : List DeviceEvent)
    (estate : Estate n σ κ) :
    Prop :=
  Hub.Tended (Clear udi) udi pending estate

/-- The slots are tended once it is noted what was dropped since a load
began. -/
def TendedSince (start : Estate n σ κ) (udi : String)
    (pending : List DeviceEvent) (estate : Estate n σ κ) :
    Prop :=
  Tended udi pending (Estate.record (droppedBetween start estate) estate)

namespace Tended

theorem record (tended : Tended udi pending estate) (mishaps : List Mishap) :
    Tended udi pending (Estate.record mishaps estate) :=
  tended.congr rfl rfl rfl rfl Clear.of_record

theorem bylaw : World.Bylaw (Tended udi pending : Estate n σ κ → Prop) where
  account := Hub.Tended.account
  cloning handle tended := Hub.Tended.clone tended handle
  shuttingDown tended := Hub.Tended.shutDown tended
  unnoticed tended backends roster slots held memory := by
    refine Hub.Tended.congr tended backends roster slots held ?_
    rw [Clear, Clear, memory]
    exact id

theorem note (tended : Tended udi pending estate) :
    Tended udi pending (World.note estate) :=
  bylaw.unnoticed tended rfl rfl rfl rfl rfl

theorem yields_atBackend (tended : Tended udi pending estate) {i : Fin n}
    {step : Run (ServiceBackend σ) Unit}
    (candid : step.Yields (estate.backendAt i)
      (fun _ => ServiceBackend.Candid (estate.backendAt i))
      (ServiceBackend.Candid (estate.backendAt i))) :
    ((Deed.atBackend i step).perform pathExists callbacks).Yields estate
      (fun _ => Tended udi pending) (Tended udi pending) := by
  rw [Deed.perform, Run.yields_ensuring, Deed.run, Hub.yields_atBackend]
  refine candid.mono ?_ ?_
  · intro _ backend candid
    exact note (tended.ofBackend candid)
  · intro backend candid
    exact note (tended.ofBackend candid)

theorem loaded (tended : Tended udi pending estate) {grown : Estate n σ κ}
    (isGrown : Hub.Grown True estate grown)
    (backends : left.backends = grown.backends)
    (roster : left.registry.roster = grown.registry.roster)
    (slots : left.registry.slots = grown.registry.slots)
    (held : left.held = grown.held)
    (memory : left.client.memory = grown.client.memory) :
    TendedSince estate udi pending left := by
  have same : droppedBetween estate left = droppedBetween estate grown := by
    simp only [droppedBetween, Hub.backendAt, backends, slots]
  -- What is dropped is noted only at the end, so until then it is a condition
  -- of its own.
  have before : Hub.Tended
      (fun client => Clear udi client ∧
        .dropped udi ∉ droppedBetween estate grown)
      udi pending estate := tended.congr rfl rfl rfl rfl And.left
  have after := before.ofGrown isGrown fun given unused i object held =>
    keeps_of_not_dropped given.2 unused held
  refine after.congr backends roster slots held fun given => ⟨?_, ?_⟩
  · rw [Clear, ← memory]
    exact given.of_record
  · rw [← same]
    exact fun member => given.1 (List.mem_append_right _ member)

theorem yields_load (tended : Tended udi pending estate)
    {deed : Deed n (ServiceBackend σ) ServiceObject κ (List Mishap)}
    (loads : deed.Loads) :
    (deed.perform pathExists callbacks).Yields estate
      (fun _ => TendedSince estate udi pending)
        (TendedSince estate udi pending) := by
  have everyDevice :
    ((Deed.everyDevice : Deed n (ServiceBackend σ) ServiceObject κ _).perform
      pathExists callbacks).Yields estate
      (fun _ => TendedSince estate udi pending)
          (TendedSince estate udi pending) := by
    rw [Deed.perform, Run.yields_ensuring, Deed.run, Run.yields_bind]
    exact (Hub.yields_everyDevice_grown tended.anchored).mono
      (fun _ _ grown => tended.loaded grown rfl rfl rfl rfl rfl)
      fun _ grown => tended.loaded grown rfl rfl rfl rfl rfl
  cases deed with
  | everyDevice => exact everyDevice
  | select predicate under =>
      rw [Deed.perform, Deed.run, Hub.select_of_isEmpty loads]
      exact everyDevice
  | query text under =>
      rw [Deed.perform, Deed.run, Hub.query, Hub.select_of_isEmpty loads]
      exact everyDevice
  | reload =>
      rw [Deed.perform, Run.yields_ensuring, Deed.run, Run.yields_bind]
      exact (Hub.yields_reload_grown tended.anchored).mono
        (fun _ _ grown => tended.loaded grown rfl rfl rfl rfl rfl)
        fun _ grown => tended.loaded grown rfl rfl rfl rfl rfl
  | _ => exact loads.elim

section Delivering

variable {events : List DeviceEvent} {event : DeviceEvent}

/-- The events still to be delivered are pending while the callbacks run. -/
theorem yields_deliver
    (keeps : ∀ pending callback event,
      (callbacks callback event).Keeps (Tended udi pending))
    (tended : Tended udi (event :: pending) estate) :
    (Hub.deliver callbacks event).Yields estate (fun _ => Tended udi pending)
      (Tended udi pending) := by
  rw [Hub.deliver, Run.yields_bind]
  refine (Hub.Tended.yields_updateHandles tended).mono ?_ fun _ => id
  exact fun _ updated => bylaw.keeps_broadcast (keeps pending) event updated

/-- By induction on the events.  A crash loses those that come after it. -/
theorem yields_deliveries
    (keeps : ∀ pending callback event,
      (callbacks callback event).Keeps (Tended udi pending))
    (tended : Tended udi (events ++ pending) estate) :
    (events.forM (Hub.deliver callbacks)).Yields estate
      (fun _ => Tended udi pending)
      fun left => ∃ lost, Tended udi lost left := by
  induction events generalizing estate with
  | nil => exact tended
  | cons event events induction =>
      rw [Run.yields_forM_cons]
      refine (yields_deliver keeps tended).mono ?_ fun _ failed => ⟨_, failed⟩
      exact fun _ left tendedLeft => induction tendedLeft

theorem yields_pump
    (keeps : ∀ pending callback event,
      (callbacks callback event).Keeps (Tended udi pending))
    (tended : Tended udi pending estate) :
    (Hub.pump callbacks).Yields estate (fun _ => Tended udi pending)
      fun left => ∃ lost, Tended udi lost left := by
  rw [Hub.pump, Run.yields_bind, Run.yields_get]
  refine Run.yields_foldlM (fun _ => Tended udi pending) tended ?_
  intro i _ count left tendedLeft
  rw [Run.yields_bind]
  refine (Hub.Tended.yields_drain tendedLeft i).mono ?_ fun _ => False.elim
  intro events drained tendedDrained
  rw [Run.yields_bind]
  exact yields_deliveries keeps tendedDrained

/-- Nothing is promised any more once a delivery was cut short. -/
theorem interrupted {lost : List DeviceEvent}
    (tended : Tended udi lost estate) :
    Tended udi pending (Estate.record [.interrupted] estate) where
  anchored := tended.anchored.congr rfl rfl rfl
  free := tended.free
  accounted given := (given.2 (List.mem_append_right _ List.mem_cons_self)).elim

end Delivering

theorem keptByActions (pathExists : String → Bool) :
    KeptByActions (Tended udi : List DeviceEvent → Estate n σ κ → Prop)
      (Chore.perform pathExists) := by
  intro callbacks keeps pending chore estate tended
  rw [Chore.yields_perform]
  cases chore with
  | plain deed plain =>
      exact (bylaw.keeps_perform pathExists plain estate tended).mono
        (fun _ _ left => left.record _) fun _ left => left.record _
  | load deed loads => exact tended.yields_load loads
  | handle i signal =>
      refine (tended.yields_atBackend ?_).mono (fun _ _ left => left.record _)
        fun _ left => left.record _
      rw [Run.yields_bind]
      refine (ServiceBackend.yields_absorb signal _).mono ?_
        fun _ outcome => outcome.1.candid
      intro _ backend outcome
      obtain ⟨events, absorbed⟩ := outcome
      exact absorbed.candid
  | serve i step =>
      refine (tended.yields_atBackend ?_).mono (fun _ _ left => left.record _)
        fun _ left => left.record _
      have gentle := ServiceBackend.Gentle.onCache fun _ : CacheSettings σ =>
        (Cache.sameTracked_call step).gentle
      exact (gentle _).mono (fun _ _ mild => mild.candid)
        fun _ mild => mild.candid
  | pump =>
      rw [Chore.deed, Deed.perform, Run.yields_ensuring,
        Deed.run, Run.yields_bind]
      refine (yields_pump keeps tended).mono ?_ ?_
      · intro count left tendedLeft
        exact (tendedLeft.note).record []
      · intro left outcome
        obtain ⟨lost, tendedLeft⟩ := outcome
        exact (tendedLeft.note).interrupted

end Tended

/-- Each slot has a handle that is out or a living object, as soon as no removal
of its identifier is left to deliver, unless a mishap concerns it. -/
def Disposed (estate : Estate n σ κ) : Prop :=
  ∀ (udi : String) slot, estate.registry.slots[udi]? = some slot →
    (∀ i, .removed udi ∉ estate.queueAt i) →
    .dropped udi ∉ estate.client.memory → .interrupted ∉ estate.client.memory →
    ⟨udi, true⟩ ∈ estate.client.handles ∨ slot.isValid estate.isAlive = true

theorem Tended.disposed (tallied : World.Tallied estate)
    (tended : ∀ udi, Tended udi [] estate) :
    Disposed estate := by
  intro udi slot found delivered kept uncut
  rcases (tended udi).accounted ⟨kept, uncut⟩ slot found with
    counted | valid | awaited | ⟨i, queued⟩
  · left
    apply List.count_pos_iff.mp
    rw [← tallied.sharers udi, HandleTable.sharers, found]
    exact counted
  · exact .inr valid
  · cases awaited
  · exact (delivered i queued).elim

/-- Whatever is done to a new registry over backends without objects, by its
client and by callbacks while events are delivered: no slot is left over, but
for mishaps. -/
theorem disposed_afterActions {backends : Vector (ServiceBackend σ) n}
    (new : ∀ (i : Fin n) (udi : String), (backends.get i).objects[udi]? = none)
    (roster : List (Fin n)) (pathExists : String → Bool)
    (react : κ → DeviceEvent → Estate n σ κ →
      Script (Estate n σ κ) (Chore n σ κ))
    (depth : Nat) (chores : List (Chore n σ κ)) :
    Disposed (afterActions (Chore.perform pathExists) react depth chores
      (World.fresh backends roster [])) := by
  apply Tended.disposed
  · have kept : KeptByActions
      (fun (_ : Unit) (estate : Estate n σ κ) => estate.Tallied)
        (Chore.perform pathExists) :=
      fun callbacks keeps _ chore => Chore.keeps_tallied (keeps ()) chore
    apply @KeptByActions.afterActions _ _ _ _ _ _ _ kept depth chores () _
    constructor
    · intro udi
      simp [World.fresh, HandleTable.sharers]
    · simp [World.fresh]
  · intro udi
    apply (Tended.keptByActions pathExists).afterActions depth chores
    refine ⟨World.anchored_fresh roster [] new, rfl, fun _ slot found => ?_⟩
    simp [World.fresh] at found

section Leftovers

def disk (name : String) : String := "/s/d/" ++ name

def driveInterface : String := "s.Drive"

def disks : Objects :=
  Std.ExtTreeMap.ofList
    [(disk "sda", Std.ExtTreeMap.ofList [(driveInterface, ∅)]),
      (disk "sdb", Std.ExtTreeMap.ofList [(driveInterface, ∅)])]

def shelf : Vector (ServiceBackend MemoryService) 1 :=
  #v[{
    settings := .ofConfig .compact
    cache := { service := { objects := disks } } }]

def attic : Estate 1 MemoryService Unit := World.fresh shelf [Fin.last 0] []

/-- The first disk is taken out.  The service tells nobody by itself. -/
def takeOut : Run MemoryService Unit :=
  modify fun service => (service.remove (disk "sda") [driveInterface]).2

/-- A disk is looked up and given up at once. -/
def visit (name : String) : List (Chore 1 MemoryService Unit) :=
  [.plain (.find (disk name)) trivial, .plain (.drop ⟨disk name, true⟩) trivial]

/-- The callback loads everything again. -/
def reloads (_ : Unit) (_ : DeviceEvent) (_ : Estate 1 MemoryService Unit) :
    Script (Estate 1 MemoryService Unit) (Chore 1 MemoryService Unit) :=
  .act (.load .reload trivial) fun _ => .done

/-- The removal is told, and the callback reloads before the event is delivered
to the end. -/
def announced : Estate 1 MemoryService Unit :=
  afterActions (Chore.perform fun _ => true) reloads 1
    (visit "sda" ++ visit "sdb" ++
      [.plain (.attend fun audience => (audience.subscribe .removed ()).2)
        trivial, .serve (Fin.last 0) takeOut,
        .handle (Fin.last 0) (.interfacesRemoved (disk "sda") [driveInterface]),
          .pump]) attic

/-- The removal is not told, but everything is loaded again. -/
def unannounced : Estate 1 MemoryService Unit :=
  afterActions (Chore.perform fun _ => true) reloads 1
    (visit "sda" ++ [.serve (Fin.last 0) takeOut, .load .reload trivial]) attic

/-- The disk whose removal was told has no slot any more, and the other one has
a living object. -/
theorem disposed_announced :
    announced.registry.slots[disk "sda"]? = none ∧
      ∃ slot, announced.registry.slots[disk "sdb"]? = some slot ∧
        slot.refs = 0 ∧ slot.isValid announced.isAlive = true := by
  have new : ∀ (i : Fin 1) (udi : String),
      (shelf.get i).objects[udi]? = none := by
    intro i udi
    obtain rfl : i = Fin.last 0 := Subsingleton.elim i _
    exact Std.ExtTreeMap.getElem?_empty
  have disposed : Disposed announced :=
    disposed_afterActions new [Fin.last 0] (fun _ => true) reloads 1 _
  have present : announced.registry.slots[disk "sdb"]?.map (·.refs) =
    some 0 := by decide +kernel
  obtain ⟨slot, found, unused⟩ := Option.map_eq_some_iff.mp present
  refine ⟨by decide +kernel, slot, found, unused, ?_⟩
  refine (disposed (disk "sdb") slot found ?_ ?_ ?_).resolve_left ?_ <;>
    decide +kernel

/-- A slot without handles is left over when a reload drops its object, for no
event tells. -/
theorem leftover_unannounced :
    (∀ i, unannounced.queueAt i = []) ∧ unannounced.client.handles = [] ∧
      unannounced.registry.slots[disk "sda"]?.any (fun slot =>
        !slot.isValid unannounced.isAlive) = true := by
  decide +kernel

end Leftovers

end Estate

end Hotplug
