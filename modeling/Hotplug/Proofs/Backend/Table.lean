import Hotplug.Backend.Table
import Hotplug.Proofs.Hub.Census
import Hotplug.Proofs.Named

/-!
# Tables of devices as censuses

A table that lists nothing but its devices, and whose descriptor admits what
they report, is described by a truthful census in the state in which it is.
-/

namespace Hotplug

namespace TableBackend

variable {table : TableBackend}

def census (table : TableBackend) : Census TableBackend FixedDevice where
  descriptor := table.descriptor
  devices udi := ∃ kept, table.devices[udi]? = some kept
  parentOf udi := table.devices[udi]?.bind fun kept => kept.object.parent
  profile udi :=
    { reports := fun capability =>
        table.devices[udi]?.any fun kept =>
          kept.object.capabilities.contains capability
      value := fun capability name =>
        table.devices[udi]?.bind
          fun kept => kept.object.lookup capability name }
  listing parent capability := table.select parent (some capability)
  holds state := state = table
  stands udi kept _ := table.devices[udi]? = some kept

theorem onward_census : table.census.Onward table table :=
  ⟨rfl, fun _ _ => id, fun _ _ _ => id⟩

theorem nodup_select (listsOnly : table.extraIds = []) (parent : Option String)
    (capability : Option Capability) :
    (table.select parent capability).Nodup := by
  rw [select, listsOnly, List.append_nil]
  refine List.Pairwise.map _ ?_ (table.devices.distinct_toList.filter _)
  intro left right different
  exact different

theorem mem_select (listsOnly : table.extraIds = []) {parent : Option String}
    {capability : Option Capability} {udi : String} :
    udi ∈ table.select parent capability ↔
      ∃ kept, table.devices[udi]? = some kept ∧
        hasParent kept.object parent = true ∧
        hasCapability kept.object capability = true := by
  simp only [select, listsOnly, List.append_nil, List.mem_map, List.mem_filter,
    Std.ExtTreeMap.mem_toList_iff_getElem?_eq_some,
      Bool.and_eq_true, Prod.exists]
  constructor
  · intro given
    obtain ⟨_, kept, ⟨held, passes⟩, rfl⟩ := given
    exact ⟨kept, held, passes⟩
  · intro given
    obtain ⟨kept, held, passes⟩ := given
    exact ⟨udi, kept, ⟨held, passes⟩, rfl⟩

theorem truthful_census (listsOnly : table.extraIds = [])
    (supports : ∀ (udi : String) kept, table.devices[udi]? = some kept →
      ∀ capability ∈ kept.object.capabilities,
        capability ∈ table.descriptor.supported) :
    table.census.Truthful where
  describes := by
    intro _ same
    obtain rfl := same
    rfl
  nodupListing parent capability :=
    nodup_select listsOnly parent (some capability)
  memListing := by
    intro parent capability udi
    change udi ∈ table.select parent (some capability) ↔ _
    rw [mem_select listsOnly]
    cases held : table.devices[udi]? with
    | none => simp [census, held]
    | some kept =>
        cases parent <;>
          simp [census, held, Census.Under, hasParent, hasCapability, and_comm]
  supports udi capability isDevice reported := by
    cases held : table.devices[udi]? with
    | none => simp [census, held] at reported
    | some kept =>
        exact supports udi kept held capability
          (by simpa [census, held] using reported)
  lists := by
    intro _ same parent capability
    obtain rfl := same
    exact ⟨rfl, onward_census⟩
  resolves := by
    intro _ same udi listed
    obtain rfl := same
    obtain ⟨parent, capability, member⟩ := listed
    obtain ⟨kept, held, _⟩ := (mem_select listsOnly).mp member
    refine ⟨onward_census, kept, held, held, ?_⟩
    exact Named.any_values_iff.mpr ⟨udi, kept, held, by simp⟩
  parent := by
    intro table same udi kept stands
    obtain rfl := same
    refine ⟨?_, onward_census⟩
    change table.devices[udi]? = some kept at stands
    simp [census, stands]
  answers := by
    intro table same udi kept stands
    obtain rfl := same
    change table.devices[udi]? = some kept at stands
    constructor
    · intro _ outcome
      obtain ⟨rfl, _, _⟩ := outcome
      exact ⟨fun capability => by simp [census, stands], onward_census⟩
    · intro _ outcome capability name _
      obtain ⟨rfl, _, _⟩ := outcome
      exact ⟨by simp [census, stands], onward_census⟩

end TableBackend

end Hotplug
