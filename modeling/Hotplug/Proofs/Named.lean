import Hotplug.Named

/-!
# Finding things by name after a change

The lists that name tables are read as have each name once, so a table that is
filled from such a list finds what the list holds under the name.
-/

namespace Hotplug

namespace Named

variable {α β : Type}

theorem isEmpty_iff_forall {things : Named α} :
    things.isEmpty = true ↔ ∀ name : String, things[name]? = none := by
  rw [Std.ExtTreeMap.isEmpty_iff]
  constructor
  · intro same name
    obtain rfl := same
    simp
  · intro absent
    apply Std.ExtTreeMap.ext_getElem?
    intro name
    simpa using absent name

theorem getElem?_insert {things : Named α} {name other : String} {thing : α} :
    (things.insert name thing)[other]? = if name = other then some thing
      else things[other]? := by
  simp [Std.ExtTreeMap.getElem?_insert]

theorem distinct_toList (things : Named α) :
    things.toList.Pairwise fun left right => left.1 ≠ right.1 := by
  refine things.distinct_keys_toList.imp ?_
  intro left right different same
  simp [same] at different

theorem lookup_eq_none {entries : List (String × α)} {name : String}
    (absent : ∀ entry ∈ entries, name ≠ entry.1) :
    entries.lookup name = none := by
  rw [List.lookup_eq_none_iff]
  intro entry member
  simpa using absent entry member

/-- What a table holds after a list with distinct names was filled into it. -/
theorem getElem?_foldl_insert {entries : List (String × α)}
    (distinct : entries.Pairwise fun left right => left.1 ≠ right.1)
    (change : α → β) (start : Named β) (name : String) :
    (entries.foldl (fun filled entry => filled.insert entry.1 (change entry.2))
      start)[name]? = ((entries.lookup name).map change).or start[name]? := by
  induction entries generalizing start with
  | nil => simp
  | cons entry entries induction =>
      obtain ⟨held, thing⟩ := entry
      obtain ⟨first, rest⟩ := List.pairwise_cons.mp distinct
      rw [List.foldl_cons, induction rest, Std.ExtTreeMap.getElem?_insert]
      by_cases same : name = held
      · subst held
        simp [lookup_eq_none first]
      · have other : held ≠ name := Ne.symm same
        have test : (name == held) = false := by simpa using same
        simp [List.lookup_cons, test, other]

theorem mem_of_lookup_eq_some {entries : List (String × α)} {name : String}
    {thing : α} (found : entries.lookup name = some thing) :
    (name, thing) ∈ entries := by
  induction entries with
  | nil => simp at found
  | cons entry entries induction =>
      obtain ⟨held, kept⟩ := entry
      rw [List.lookup_cons] at found
      cases test : name == held with
      | true => simp_all
      | false =>
          rw [test] at found
          exact List.mem_cons_of_mem _ (induction found)

theorem lookup_filter_toList (things : Named α) (admits : String → Bool)
    (name : String) :
    (things.toList.filter fun entry => admits entry.1).lookup name =
      if admits name then things[name]? else none := by
  have distinct : (things.toList.filter fun entry => admits entry.1).Pairwise
      fun left right => left.1 ≠ right.1 := things.distinct_toList.filter _
  cases found : (things.toList.filter fun entry => admits entry.1).lookup
      name with
  | none =>
      rw [List.lookup_eq_none_iff] at found
      by_cases admitted : admits name = true
      · rw [if_pos admitted]
        cases held : things[name]? with
        | none => rfl
        | some thing =>
            have member : (name, thing) ∈ things.toList.filter
                fun entry => admits entry.1 := by
              simp [admitted, held]
            simpa using found _ member
      · rw [if_neg admitted]
  | some thing =>
      have member := mem_of_lookup_eq_some found
      simp only [List.mem_filter,
        Std.ExtTreeMap.mem_toList_iff_getElem?_eq_some] at member
      rw [if_pos member.2, member.1]

theorem lookup_toList (things : Named α) (name : String) :
    things.toList.lookup name = things[name]? := by
  have every := things.lookup_filter_toList (fun _ => true) name
  rwa [List.filter_eq_self.mpr fun _ _ => rfl] at every

theorem values_eq_map_toList (things : Named α) :
    things.values = things.toList.map (·.2) := by
  rcases things with ⟨⟨inner⟩⟩
  induction inner using Quotient.inductionOn with
  | h tree =>
      change Std.DTreeMap.Internal.Impl.values tree.inner =
        (Std.DTreeMap.Internal.Impl.Const.toList tree.inner).map (·.2)
      rw [Std.DTreeMap.Internal.Impl.values_eq_map_snd,
        Std.DTreeMap.Internal.Impl.Const.toList_eq_toListModel_map,
          List.map_map]
      rfl

theorem any_values_iff {things : Named α} {test : α → Bool} :
    things.values.any test = true ↔
      ∃ (name : String) (thing : α), things[name]? = some thing ∧
        test thing = true := by
  simp only [values_eq_map_toList, List.any_map, List.any_eq_true, Prod.exists,
    Std.ExtTreeMap.mem_toList_iff_getElem?_eq_some, Function.comp_apply]

theorem keys_congr {left : Named α} {right : Named β}
    (same : ∀ name : String, name ∈ left ↔ name ∈ right) :
    left.keys = right.keys := by
  have units : left.map (fun _ _ => ()) = right.map fun _ _ => () := by
    apply Std.ExtTreeMap.ext_getElem?
    intro name
    have here := same name
    rw [Std.ExtTreeMap.mem_iff_isSome_getElem?,
      Std.ExtTreeMap.mem_iff_isSome_getElem?] at here
    rw [Std.ExtTreeMap.getElem?_map, Std.ExtTreeMap.getElem?_map]
    cases held : left[name]? <;> cases heldToo : right[name]? <;> simp_all
  calc
    left.keys = (left.map fun _ _ => ()).keys := Std.ExtTreeMap.keys_map.symm
    _ = (right.map fun _ _ => ()).keys := by rw [units]
    _ = right.keys := Std.ExtTreeMap.keys_map

end Named

end Hotplug
