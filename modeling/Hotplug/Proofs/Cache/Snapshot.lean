import Hotplug.Cache.Signals
import Hotplug.Proofs.Named

/-!
# Slots of a snapshot after a change

A snapshot is read by `slot?` and by the names of its interfaces. Each change of
a snapshot has one equation for what is read afterwards; the definitions of the
changes are not opened anywhere else.
-/

namespace Hotplug

theorem Properties.getElem?_plain (properties : Properties) (name : String) :
    properties.plain[name]? = properties[name]?.map Value.plain := by
  simp [Properties.plain]

namespace Snapshot

variable {snapshot : Snapshot} {interface other name : String}

theorem slot?_eq_bind (snapshot : Snapshot) (interface name : String) :
    snapshot.slot? interface name = snapshot.interfaces[interface]?.bind
      (·[name]?) := rfl

theorem hasInterface_iff :
    snapshot.hasInterface interface = true ↔
      snapshot.interfaces[interface]?.isSome := by
  simp [hasInterface]

theorem hasInterface_insert_iff {slots : Named Slot} :
    hasInterface ⟨snapshot.interfaces.insert interface slots⟩ other = true ↔
      interface = other ∨ snapshot.hasInterface other = true := by
  simp [hasInterface]

@[simp] theorem getElem?_resolvedSlots (properties : Properties)
    (name : String) :
    (resolvedSlots properties)[name]? =
      properties[name]?.map Slot.resolved := by
  simp [resolvedSlots]

@[simp] theorem slot?_empty : empty.slot? interface name = none := by
  simp [empty, slot?_eq_bind]

theorem slot?_put (properties : Properties) :
    (snapshot.put interface properties).slot? other name =
      if interface = other then properties[name]?.map Slot.resolved
      else snapshot.slot? other name := by
  rw [slot?_eq_bind, put, Std.ExtTreeMap.getElem?_insert]
  by_cases same : interface = other <;> simp [same, slot?_eq_bind]

theorem slot?_drop :
    (snapshot.drop interface).slot? other name =
      if interface = other then none else snapshot.slot? other name := by
  rw [slot?_eq_bind, drop, Std.ExtTreeMap.getElem?_erase]
  by_cases same : interface = other <;> simp [same, slot?_eq_bind]

theorem slot?_set {property : String} {slot : Slot} :
    (snapshot.set interface property slot).slot? other name =
      if interface = other ∧ property = name then some slot
      else snapshot.slot? other name := by
  rw [slot?_eq_bind, set, Std.ExtTreeMap.getElem?_insert]
  by_cases same : interface = other
  · subst other
    by_cases here : property = name
    · simp [here]
    · cases held : snapshot.interfaces[interface]? <;>
        simp [here, slot?_eq_bind, held, Std.ExtTreeMap.getElem?_insert]
  · simp [same, slot?_eq_bind]

theorem slot?_update {property : String} {slot : Slot} :
    (snapshot.update interface property slot).slot? other name =
      if interface = other ∧ property = name ∧
        snapshot.hasInterface interface = true then
        some slot
      else snapshot.slot? other name := by
  rw [slot?_eq_bind, update, Std.ExtTreeMap.getElem?_modify]
  by_cases same : interface = other
  · subst other
    cases held : snapshot.interfaces[interface]? with
    | none => simp [hasInterface_iff, slot?_eq_bind, held]
    | some slots =>
        by_cases here : property = name <;>
          simp [hasInterface_iff, slot?_eq_bind, held, here,
            Std.ExtTreeMap.getElem?_insert]
  · simp [same, slot?_eq_bind]

theorem slot?_ofInterfaces (interfaces : Interfaces) :
    (ofInterfaces interfaces).slot? interface name =
      (interfaces[interface]?.bind (·[name]?)).map Slot.resolved := by
  simp only [slot?_eq_bind, ofInterfaces, Std.ExtTreeMap.getElem?_map]
  cases interfaces[interface]? <;> simp

theorem slot?_foldl_drop (interfaces : List String) :
    (interfaces.foldl drop snapshot).slot? other name =
      if other ∈ interfaces then none else snapshot.slot? other name := by
  induction interfaces generalizing snapshot with
  | nil => simp
  | cons interface interfaces induction =>
      rw [List.foldl_cons, induction, slot?_drop]
      by_cases here : other = interface
      · simp [here]
      · simp [here, Ne.symm here]

/-- Announced interfaces in the namespace take the place of what was cached of
them. -/
theorem getElem?_announce (config : Config) (interfaces : Interfaces)
    (name : String) :
    (snapshot.announce config interfaces).interfaces[name]? =
      match if config.admitsInterface name then interfaces[name]? else none with
      | some properties => some (resolvedSlots properties.plain)
      | none => snapshot.interfaces[name]? := by
  have distinct := interfaces.distinct_toList.filter
    (fun entry => config.admitsInterface entry.1)
  have filled (entries : List (String × Properties)) (start : Snapshot) :
      (entries.foldl (fun merged entry => merged.put entry.1
        (Properties.plain entry.2)) start).interfaces =
        entries.foldl
          (fun merged entry => merged.insert entry.1
            (resolvedSlots (Properties.plain entry.2)))
          start.interfaces := by
    induction entries generalizing start with
    | nil => rfl
    | cons entry entries induction =>
        rw [List.foldl_cons, induction, List.foldl_cons]
        rfl
  rw [announce, filled,
    Named.getElem?_foldl_insert distinct
      (fun properties => resolvedSlots properties.plain),
    Named.lookup_filter_toList]
  cases (if config.admitsInterface name then interfaces[name]? else none) with
  | none => simp
  | some properties => simp

theorem slot?_announce (config : Config) (interfaces : Interfaces) :
    (snapshot.announce config interfaces).slot? other name =
      match if config.admitsInterface other then interfaces[other]?
        else none with
      | some properties => (properties[name]?.map Value.plain).map Slot.resolved
      | none => snapshot.slot? other name := by
  rw [slot?_eq_bind, getElem?_announce]
  cases (if config.admitsInterface other then interfaces[other]? else none) with
  | none => simp [slot?_eq_bind]
  | some properties => simp [Properties.getElem?_plain]

theorem hasInterface_announce_iff {config : Config} {interfaces : Interfaces} :
    (snapshot.announce config interfaces).hasInterface other = true ↔
      snapshot.hasInterface other = true ∨
        other ∈ interfaces ∧ config.admitsInterface other = true := by
  rw [hasInterface_iff, hasInterface_iff, getElem?_announce,
    Std.ExtTreeMap.mem_iff_isSome_getElem?]
  by_cases admits : config.admitsInterface other = true
  · cases interfaces[other]? <;> simp [admits]
  · simp [admits]

private theorem slot?_foldl_unresolved (names : List String) :
    (names.foldl (fun left name => left.set interface name .unresolved)
      snapshot).slot? other name =
      if interface = other ∧ name ∈ names then some .unresolved
      else snapshot.slot? other name := by
  induction names generalizing snapshot with
  | nil => simp
  | cons first names induction =>
      rw [List.foldl_cons, induction, slot?_set]
      by_cases here : interface = other
      · by_cases later : name ∈ names
        · simp [here, later]
        · by_cases same : first = name
          · simp [here, same]
          · simp [here, later, same, Ne.symm same]
      · simp [here]

private theorem slot?_foldl_resolved (entries : List (String × Value))
    (distinct : entries.Pairwise fun left right => left.1 ≠ right.1) :
    (entries.foldl (fun left entry => left.set interface entry.1
      (.resolved entry.2)) snapshot).slot? other name =
      match if interface = other then entries.lookup name else none with
      | some value => some (.resolved value)
      | none => snapshot.slot? other name := by
  induction entries generalizing snapshot with
  | nil => simp
  | cons entry entries induction =>
      obtain ⟨held, value⟩ := entry
      obtain ⟨first, rest⟩ := List.pairwise_cons.mp distinct
      rw [List.foldl_cons, induction rest, slot?_set]
      by_cases here : interface = other
      · by_cases same : name = held
        · subst held
          have notLater : entries.lookup name = none := by
            rw [List.lookup_eq_none_iff]
            intro later member
            simpa using first later member
          simp [here, notLater]
        · have test : (name == held) = false := by simpa using same
          simp [here, List.lookup_cons, test, Ne.symm same]
      · simp [here]

/-- A changed property is resolved, one that is only invalidated is unresolved,
and every other slot is as it was. -/
theorem slot?_applyChanges (changed : Properties) (invalidated : List String) :
    (snapshot.applyChanges interface changed invalidated).slot? other name =
      if interface = other then
        match changed[name]? with
        | some value => some (.resolved value)
        | none =>
            if name ∈ invalidated then some .unresolved
              else snapshot.slot? other name
      else snapshot.slot? other name := by
  rw [applyChanges, slot?_foldl_resolved _ changed.distinct_toList,
    slot?_foldl_unresolved, Named.lookup_toList]
  by_cases here : interface = other
  · cases changed[name]? <;> simp [here]
  · simp [here]

private theorem hasInterface_foldl_set {α : Type} {items : List α}
    {name : α → String} {slot : α → Slot} :
    (items.foldl (fun left item => left.set interface (name item) (slot item))
        snapshot).hasInterface other = true ↔
      snapshot.hasInterface other = true ∨ interface = other ∧ items ≠ [] := by
  induction items generalizing snapshot with
  | nil => simp
  | cons item items induction =>
      rw [List.foldl_cons, induction, set, hasInterface_insert_iff]
      grind

theorem hasInterface_applyChanges_iff (changed : Properties)
    (invalidated : List String) :
    (snapshot.applyChanges interface changed invalidated).hasInterface other =
      true ↔ snapshot.hasInterface other = true ∨
        interface = other ∧ ∃ name, name ∈ changed ∨ name ∈ invalidated := by
  have stored : changed.toList ≠ [] ↔ ∃ name, name ∈ changed := by
    rw [Ne, Std.ExtTreeMap.toList_eq_nil_iff,
      Std.ExtTreeMap.eq_empty_iff_forall_not_mem]
    simp
  have dropped : invalidated ≠ [] ↔ ∃ name, name ∈ invalidated := by
    rw [Ne, List.eq_nil_iff_forall_not_mem]
    simp
  rw [applyChanges, hasInterface_foldl_set, hasInterface_foldl_set,
    stored, dropped]
  grind

end Snapshot

end Hotplug
