import Std.Data.ExtTreeMap

/-!
# Things by name

Devices, interfaces and properties are all found by their names and listed in
name order, which is the order of code points.
-/

namespace Hotplug

/-- Things of one kind by name. Two are equal when every name finds the same. -/
abbrev Named (α : Type) : Type := Std.ExtTreeMap String α compare

/-- Whether a text starts with another one. -/
def Text.startsBy (text start : String) : Bool :=
  start.toList.isPrefixOf text.toList

theorem Text.startsBy_iff {text start : String} :
    Text.startsBy text start = true ↔ ∃ rest, text = start ++ rest := by
  simp only [Text.startsBy, List.isPrefixOf_iff_prefix]
  constructor
  · rintro ⟨rest, split⟩
    exact ⟨String.ofList rest, by
      apply String.toList_injective
      simp [← split]⟩
  · rintro ⟨rest, rfl⟩
    exact ⟨rest.toList, by simp⟩

end Hotplug
