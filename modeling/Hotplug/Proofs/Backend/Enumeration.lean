import Mathlib.Data.String.Basic
import Hotplug.Proofs.Backend.Composition
import Hotplug.Proofs.Backend.Foreseen

/-!
# What a backend enumerates

A backend is asked for all its devices, for those with a capability, and for
those under a parent. While its service rests these enumerations agree with each
other and with what the devices answer: none of them leaves a device out, and
the properties that are fetched for one are not seen by the next.
-/

namespace Hotplug

/-- What there is to enumerate: the tracked identifiers, and what their devices
answer. -/
structure Inventory where
  udis : List String
  capabilities : String → List Capability
  parent : String → String

namespace Inventory

variable {inventory : Inventory} {parent : Option String}
  {capability : Option Capability} {udi : String}

/-- The identifiers under a parent and with a capability, where those are
given. -/
def select (inventory : Inventory) (parent : Option String)
    (capability : Option Capability) :
    List String :=
  inventory.udis.filter fun udi =>
    capability.all (inventory.capabilities udi).contains &&
      parent.all (inventory.parent udi == ·)

theorem mem_select_iff :
    udi ∈ inventory.select parent capability ↔ udi ∈ inventory.udis ∧
      (∀ wanted ∈ capability, wanted ∈ inventory.capabilities udi) ∧
      ∀ place ∈ parent, inventory.parent udi = place := by
  cases parent <;> cases capability <;> simp [select]

theorem select_eq_udis
    (general : ∀ udi ∈ inventory.udis, ∀ wanted ∈ capability,
      wanted ∈ inventory.capabilities udi) :
    inventory.select none capability = inventory.udis := by
  refine List.filter_eq_self.mpr fun udi member => ?_
  cases capability with
  | none => rfl
  | some wanted => simpa using general udi member wanted rfl

theorem existsUnique_mem_select
    (listed : udi ∈ inventory.select none capability) :
    ∃! place, udi ∈ inventory.select (some place) capability := by
  obtain ⟨member, able, -⟩ := mem_select_iff.mp listed
  refine ⟨inventory.parent udi, mem_select_iff.mpr ⟨member, able, ?_⟩,
    fun place under => ?_⟩
  · exact fun _ given => Option.some.inj given
  · exact ((mem_select_iff.mp under).2.2 place rfl).symm

variable {σ : Type} [Service σ]

open ServiceBackend in
/-- The backend tracks these identifiers and answers so of their devices. What a
device can do is told by its interfaces. -/
structure Describes (inventory : Inventory) (backend : ServiceBackend σ) :
    Prop where
  tracked : ∀ udi, udi ∈ inventory.udis ↔ backend.tracks udi = true
  capabilities : ∀ udi, ((trackedDevice udi).capabilities.start backend).1 =
    .ok (inventory.capabilities udi)
  parent : ∀ udi, ((trackedDevice udi).parent.start backend).1 =
    .ok (some (inventory.parent udi))
  meant : ∀ udi capability, capability ∈ inventory.capabilities udi ↔
    capability = .genericInterface ∨ ∃ interface,
      backend.cache.hasInterface udi interface = true ∧
        backend.config.meaning? interface = some capability

end Inventory

theorem Config.mem_supported_of_meaning? {config : Config} {interface : String}
    {capability : Capability}
    (means : config.meaning? interface = some capability) :
    capability ∈ config.supported := by
  rw [supported, Capability.mem_collect, Bool.or_eq_true, List.contains_iff_mem,
    Named.values_eq_map_toList]
  exact .inr (List.mem_map.mpr
    ⟨(interface, capability),
      Std.ExtTreeMap.mem_toList_iff_getElem?_eq_some.mpr means, rfl⟩)

theorem Config.genericInterface_mem_supported (config : Config) :
    .genericInterface ∈ config.supported := by
  simp [supported]

namespace ServiceBackend

variable {σ : Type} [Service σ] {outlook : Outlook σ}
  {backend : ServiceBackend σ}

/-- No object reports a capability that the backend does not declare. -/
theorem mem_supported_of_start_capabilities {object : ServiceObject}
    {left : ServiceBackend σ} {reported : List Capability}
    (answered : (deviceOf object).capabilities.start backend =
      (.ok reported, left)) :
    ∀ capability ∈ reported,
      capability ∈ (Backend.descriptor backend).supported := by
  intro capability member
  cases object with
  | root udi =>
      cases answered
      obtain rfl := List.mem_singleton.mp member
      exact Config.genericInterface_mem_supported _
  | tracked udi =>
      cases answered
      rcases mem_capabilitiesOf_iff.mp member with rfl | ⟨interface, _, means⟩
      · exact Config.genericInterface_mem_supported _
      · exact Config.mem_supported_of_meaning? means

section Resting

/-- A backend is foreseen to enumerate what is foreseen of its devices. -/
theorem exists_inventory (right : outlook.Right)
    (unwatched : outlook.watched = []) :
    ∃ inventory : Inventory, inventory.udis = outlook.devices.keys ∧
      (∀ backend, Displays outlook backend → inventory.Describes backend) ∧
      ∀ parent capability, Run.Answers (Holds outlook) (Displays outlook)
        (list parent capability) (inventory.select parent capability) := by
  have determined (udi : String) :
      Run.Determined (Displays outlook) (Displays outlook) (parentOf udi) :=
    determined_parentOf right udi (by simp [unwatched])
  choose parentAt _ answers using determined
  refine ⟨⟨outlook.devices.keys, outlook.capabilitiesOf, parentAt⟩, rfl, ?_, ?_⟩
  · intro backend displays
    refine ⟨fun udi => ?_, fun udi => ?_, fun udi => ?_,
      fun udi capability => ?_⟩
    · rw [tracks, displays.cache.tracks, Std.ExtTreeMap.contains_iff_mem,
        Std.ExtTreeMap.mem_keys]
    · exact congrArg Except.ok (displays.capabilitiesOf udi)
    · have placed : Run.Answers (Displays outlook) (Displays outlook)
          (trackedDevice udi).parent (some (parentAt udi)) :=
        (answers udi).bind fun _ displays => ⟨rfl, displays⟩
      obtain ⟨_, _, started, rfl, _⟩ := (placed backend displays).exists_start
      rw [started]
    · rw [← mem_capabilitiesOf_iff, displays.capabilitiesOf]
  · exact fun parent capability => answers_list right
      (fun _ _ => answers) capability

theorem Holds.afterLists (right : outlook.Right)
    (unwatched : outlook.watched = []) (holds : Holds outlook backend)
    (asked : List (Option String × Option Capability)) :
    Holds outlook (afterUses (asked.map fun one => .list one.1 one.2)
      backend) := by
  obtain ⟨inventory, -, -, answers⟩ := exists_inventory right unwatched
  induction asked generalizing backend with
  | nil => exact holds
  | cons one asked induction =>
      obtain ⟨_, left, started, _, displays⟩ :=
        (answers one.1 one.2 backend holds).exists_start
      have done : (Use.list one.1 one.2 : Use σ).after backend = left := by
        rw [Use.after, Use.perform, Run.start_bind, started]
        rfl
      rw [List.map_cons, afterUses, List.foldl_cons, done]
      exact induction displays.holds

end Resting

/-- A backend whose service rests, in any state. It declares all that its
devices report, and there is an inventory of the tracked devices that tells each
enumeration, also after any number of others: it answers, in the order of the
identifiers, those that have the capability and the parent, where these are
asked for. So none is left out where nothing or the generic capability is asked
for, and each is found under one parent. -/
theorem exists_inventory_of_atRest
    (resting : Service.AtRest backend.cache.service) :
    (∀ object reported left,
      (deviceOf object).capabilities.start backend = (.ok reported, left) →
        ∀ capability ∈ reported,
          capability ∈ (Backend.descriptor backend).supported) ∧
    ∃ inventory : Inventory,
      inventory.udis.Pairwise (· < ·) ∧
      (∀ (asked : List (Option String × Option Capability)) parent capability,
        ∃ left, (list parent capability).start
            (afterUses (asked.map fun one => .list one.1 one.2) backend) =
          (.ok (inventory.select parent capability), left) ∧
            inventory.Describes left) ∧
      inventory.select none none = inventory.udis ∧
      inventory.select none (some .genericInterface) = inventory.udis ∧
      ∀ capability, ∀ udi ∈ inventory.select none capability,
        ∃! parent, udi ∈ inventory.select (some parent) capability := by
  refine ⟨fun _ _ _ => mem_supported_of_start_capabilities, ?_⟩
  obtain ⟨outlook, settings, unwatched, right, covers⟩ :=
    Outlook.exists_of_atRest backend.settings resting []
  have holds : Holds outlook backend := ⟨settings.symm, covers⟩
  obtain ⟨inventory, udis, describes, answers⟩ :=
    exists_inventory right unwatched
  have enumerates (asked : List (Option String × Option Capability))
    (parent : Option String) (capability : Option Capability) : ∃ left,
      (list parent capability).start
          (afterUses (asked.map fun one => .list one.1 one.2) backend) =
        (.ok (inventory.select parent capability), left) ∧
            inventory.Describes left := by
    obtain ⟨_, left, started, rfl, displays⟩ := (answers parent capability _
      (holds.afterLists right unwatched asked)).exists_start
    exact ⟨left, started, describes left displays⟩
  obtain ⟨left, -, described⟩ := enumerates [] none none
  refine ⟨inventory, ?_, enumerates, Inventory.select_eq_udis (by simp), ?_, ?_⟩
  · rw [udis]
    exact Std.ExtTreeMap.ordered_keys.imp
      fun before => compare_lt_iff_lt.mp before
  · refine Inventory.select_eq_udis fun udi _ wanted given => ?_
    exact (described.meant udi wanted).mpr (.inl (Option.some.inj given).symm)
  · exact fun _ _ => Inventory.existsUnique_mem_select

section Shelf

def driveUdi : String := "/s/d/dvd"

def discUdi : String := "/s/b/sr0"

/-- A drive, the disc in it, and a disk that names no drive as its parent. -/
def shelf : ServiceBackend MemoryService :=
  untouched (.ofConfig .compact) { objects := Std.ExtTreeMap.ofList [
    (driveUdi, Std.ExtTreeMap.ofList [("s.Drive", ∅)]),
    (discUdi, Std.ExtTreeMap.ofList [("s.Block",
      Std.ExtTreeMap.ofList [("Drive", Value.text driveUdi)]),
        (fileSystem, ∅)]),
    (diskUdi, Std.ExtTreeMap.ofList [("s.Block",
      Std.ExtTreeMap.ofList [("Drive", Value.text "/")])])] }

/-- The disc alone is in the drive, also if all that are under the service are
looked for first. -/
theorem exists_inventory_of_atRest_shelf :
    Service.AtRest shelf.cache.service ∧
      ∃ (inventory : Inventory) (left : ServiceBackend MemoryService),
        inventory.udis = [diskUdi, discUdi, driveUdi] ∧
        inventory.select (some "/s") none = [diskUdi, driveUdi] ∧
        (list (some driveUdi) (some .block)).start
            (afterUses [.list (some "/s") none] shelf) =
          (.ok [discUdi], left) ∧
        inventory.Describes left := by
  have resting : Service.AtRest shelf.cache.service := MemoryService.atRest _
  obtain ⟨-, inventory, -, enumerates, every, -, -⟩ :=
    exists_inventory_of_atRest resting
  have selected {parent : Option String} {capability : Option Capability}
    {found : List String} (answered :
      ((list parent capability).start shelf).1.toOption = some found) :
      inventory.select parent capability = found := by
    obtain ⟨left, started, -⟩ := enumerates [] parent capability
    rw [List.map_nil, afterUses, List.foldl_nil] at started
    rw [started] at answered
    exact Option.some.inj answered
  refine ⟨resting, inventory, ?_⟩
  obtain ⟨left, started, described⟩ :=
    enumerates [(some "/s", none)] (some driveUdi) (some .block)
  have disc : inventory.select (some driveUdi) (some .block) = [discUdi] :=
    selected (by decide +kernel)
  rw [disc] at started
  refine ⟨left, every.symm.trans ?_, ?_, started, described⟩
  · exact selected (by decide +kernel)
  · exact selected (by decide +kernel)

end Shelf

end ServiceBackend

end Hotplug
