import Hotplug.Cache.Fetch
import Hotplug.Proofs.Named
import Hotplug.Service.Memory

/-!
# The content of a service in memory

A service in memory is read by `value?`, key by key. The equations below say how
a change of the service changes what is read, and what its answers tell of it.
-/

namespace Hotplug

namespace MemoryService

variable {service : MemoryService}

def properties? (service : MemoryService) (udi interface : String) :
    Option Properties :=
  service.objects[udi]?.bind fun interfaces => interfaces[interface]?

def value? (service : MemoryService) (key : PropertyKey) : Option Value :=
  (service.properties? key.udi key.interface).bind
    fun properties => properties[key.property]?

/-- Nothing is hidden and nothing is refused. -/
structure Open (service : MemoryService) : Prop where
  noneHidden : service.hidden = []
  noneFailing : service.failingInterfaces = []

theorem properties?_put {udi other interface : String}
    {interfaces : Interfaces} :
    (service.put udi interfaces).properties? other interface =
      if udi = other then interfaces[interface]?
        else service.properties? other interface := by
  rw [properties?, put, Std.ExtTreeMap.getElem?_insert]
  by_cases same : udi = other <;> simp [same, properties?]

theorem properties?_add {udi other interface : String}
    {interfaces : Interfaces} :
    (service.add udi interfaces).2.properties? other interface =
      if udi = other then interfaces[interface]?.or
        (service.properties? other interface)
      else service.properties? other interface := by
  rw [add, properties?_put]
  by_cases same : udi = other
  · subst other
    have merged := Named.getElem?_foldl_insert interfaces.distinct_toList id
      (service.objects[udi]?.getD ∅) interface
    simp only [id_eq, Named.lookup_toList, Option.map_id_fun] at merged
    rw [if_pos rfl, if_pos rfl, merged, properties?]
    cases service.objects[udi]? <;> simp
  · simp [same]

theorem getElem?_foldl_erase (interfaces : List String) (present : Interfaces)
    (interface : String) :
    (interfaces.foldl (fun rest name => rest.erase name) present)[interface]? =
      if interface ∈ interfaces then none else present[interface]? := by
  induction interfaces generalizing present with
  | nil => simp
  | cons first interfaces induction =>
      rw [List.foldl_cons, induction, Std.ExtTreeMap.getElem?_erase]
      by_cases same : interface = first
      · simp [same]
      · simp [same, Ne.symm same]

theorem properties?_remove {udi other interface : String}
    {interfaces : List String} :
    (service.remove udi interfaces).2.properties? other interface =
      if udi = other ∧ interface ∈ interfaces then none
      else service.properties? other interface := by
  simp only [remove]
  cases held : service.objects[udi]? with
  | none =>
      by_cases gone : udi = other ∧ interface ∈ interfaces
      · obtain ⟨rfl, taken⟩ := gone
        simp [taken, properties?, held]
      · simp [gone]
  | some present =>
      have remaining := getElem?_foldl_erase interfaces present interface
      by_cases emptied :
          (interfaces.foldl (fun rest name => rest.erase name)
            present).isEmpty = true
      · rw [Named.isEmpty_iff_forall.mp emptied] at remaining
        simp only [emptied, ↓reduceIte, properties?,
          Std.ExtTreeMap.getElem?_erase]
        by_cases same : udi = other
        · subst other
          by_cases taken : interface ∈ interfaces
          · simp [taken]
          · rw [if_neg taken] at remaining
            simp [taken, held, ← remaining]
        · simp [same]
      · simp only [emptied, Bool.false_eq_true, ↓reduceIte,
          properties?_put, remaining]
        by_cases same : udi = other
        · subst other
          simp [properties?, held]
        · simp [same]

theorem value?_store {key other : PropertyKey} {value : Value} :
    (service.store key value).value? other =
      if key = other then some value else service.value? other := by
  obtain ⟨udi, interface, property⟩ := key
  obtain ⟨udi', interface', property'⟩ := other
  simp only [value?, store, properties?_put, PropertyKey.mk.injEq]
  by_cases sameObject : udi = udi'
  · subst udi'
    rw [if_pos rfl, Std.ExtTreeMap.getElem?_insert]
    by_cases sameInterface : interface = interface'
    · subst interface'
      by_cases sameProperty : property = property'
      · simp [sameProperty]
      · cases held : service.objects[udi]? with
        | none => simp [sameProperty, properties?, held]
        | some interfaces =>
            cases here : interfaces[interface]? <;>
              simp [sameProperty, properties?, held, here,
                Std.ExtTreeMap.getElem?_insert]
    · cases held : service.objects[udi]? <;>
        simp [sameInterface, properties?, held]
  · simp [sameObject]

theorem slotOf_answerProperty (isOpen : service.Open) (key : PropertyKey) :
    Cache.slotOf (service.answerProperty key) =
      match service.value? key with
      | some value => .resolved value.plain
      | none => .absent := by
  simp only [answerProperty, propertiesOf, value?, properties?,
    isOpen.noneHidden]
  cases service.objects[key.udi]? with
  | none => rfl
  | some interfaces =>
      simp only [Option.bind_some]
      cases interfaces[key.interface]? with
      | none => rfl
      | some properties =>
          simp only [Option.bind_some]
          cases held : properties[key.property]? <;>
            simp [bind, Except.bind, held, Cache.slotOf]

theorem toOption_answerAll (isOpen : service.Open) (udi interface : String) :
    (service.answerAll udi interface).toOption =
      service.properties? udi interface := by
  simp only [answerAll, propertiesOf, properties?, isOpen.noneFailing]
  cases service.objects[udi]? with
  | none => rfl
  | some interfaces =>
      cases held : interfaces[interface]? <;> simp [held, Except.toOption]

end MemoryService

end Hotplug
