import Hotplug.Json.Reader

/-!
# The tokens of a tree

A tree is one list of tokens, and the machine that reads tokens takes this list
from any situation in which a value is due to the one in which the tree is
complete. So the tree is all that is read from its own tokens.
-/

namespace Hotplug

namespace Json

mutual

/-- The tokens of a tree from left to right. -/
def tokens : Json → List JsonToken
  | null => [.null]
  | bool truth => [.bool truth]
  | number digits => [.number digits]
  | text units => [.text units]
  | list [] => [.openList, .closeList]
  | list (item :: rest) => .openList :: (tokens item ++ itemTokens rest)
  | object [] => [.openObject, .closeObject]
  | object ((name, value) :: rest) =>
      .openObject :: .text name :: .colon :: (tokens value ++ fieldTokens rest)

/-- The tokens of the items after the first one, and the end of the list. -/
def itemTokens : List Json → List JsonToken
  | [] => [.closeList]
  | item :: rest => .comma :: (tokens item ++ itemTokens rest)

/-- The tokens of the fields after the first one, and the end of the object. -/
def fieldTokens : List (List TextUnit × Json) → List JsonToken
  | [] => [.closeObject]
  | (name, value) :: rest =>
      .comma :: .text name :: .colon :: (tokens value ++ fieldTokens rest)

end

namespace Reading

variable {frames : List Frame} {later : List JsonToken}

/-- Where reading gets from somewhere with these tokens and any that follow. -/
def Leads (tokens : List JsonToken) (start final : Reading) : Prop :=
  ∀ later, (tokens ++ later).foldlM step? start = later.foldlM step? final

theorem Leads.step {token : JsonToken} {tokens : List JsonToken}
    {start next final : Reading} (steps : step? start token = some next)
    (leads : Leads tokens next final) :
    Leads (token :: tokens) start final := by
  intro later
  rw [List.cons_append, List.foldlM_cons, steps]
  exact leads later

theorem Leads.refl (reading : Reading) : Leads [] reading reading :=
  fun _ => rfl

theorem Leads.append {first second : List JsonToken}
    {start middle final : Reading} (leads : Leads first start middle)
    (leadsOn : Leads second middle final) :
    Leads (first ++ second) start final := by
  intro later
  rw [List.append_assoc, leads, leadsOn]

theorem exists_tokens_eq_cons (json : Json) :
    ∃ first rest, json.tokens = first :: rest ∧ first ≠ .closeList := by
  cases json with
  | list items => cases items <;> exact ⟨_, _, tokens.eq_def _, by simp⟩
  | object fields =>
      rcases fields with _ | ⟨⟨name, value⟩, rest⟩ <;>
        exact ⟨_, _, tokens.eq_def _, by simp⟩
  | _ => exact ⟨_, _, tokens.eq_def _, by simp⟩

theorem Leads.firstItem {json : Json} {final : Reading}
    (leads : Leads json.tokens ⟨.list [] :: frames, .value⟩ final) :
    Leads json.tokens ⟨frames, .firstItem⟩ final := by
  obtain ⟨first, rest, starts, notEnd⟩ := exists_tokens_eq_cons json
  rw [starts] at leads ⊢
  intro later
  rw [← leads later, List.cons_append, List.foldlM_cons, List.foldlM_cons]
  cases first <;> first | rfl | exact absurd rfl notEnd

mutual

theorem leads_tokens (json : Json) (frames : List Frame) :
    Leads json.tokens ⟨frames, .value⟩ ⟨frames, .complete json⟩ := by
  -- By induction on the tree, with the parts that are complete already in
  -- reverse.
  cases json with
  | null => exact .step rfl (.refl _)
  | bool truth => exact .step rfl (.refl _)
  | number digits => exact .step rfl (.refl _)
  | text units => exact .step rfl (.refl _)
  | list items =>
      cases items with
      | nil => exact .step rfl (.step rfl (.refl _))
      | cons item rest =>
          rw [tokens]
          refine .step rfl ((leads_tokens item _).firstItem.append ?_)
          exact leads_itemTokens rest frames [] item
  | object fields =>
      cases fields with
      | nil => exact .step rfl (.step rfl (.refl _))
      | cons field rest =>
          obtain ⟨name, value⟩ := field
          rw [tokens]
          refine .step
            rfl (.step rfl (.step rfl ((leads_tokens value _).append ?_)))
          exact leads_fieldTokens rest frames [] name value

theorem leads_itemTokens (rest : List Json) (frames : List Frame)
    (items : List Json) (item : Json) :
    Leads (itemTokens rest) ⟨.list items :: frames, .complete item⟩
      ⟨frames, .complete (list (items.reverse ++ item :: rest))⟩ := by
  cases rest with
  | nil =>
      rw [itemTokens, ← List.reverse_cons]
      exact .step rfl (.refl _)
  | cons next rest =>
      rw [itemTokens]
      refine .step rfl ((leads_tokens next _).append ?_)
      simpa using leads_itemTokens rest frames (item :: items) next

theorem leads_fieldTokens (rest : List (List TextUnit × Json))
    (frames : List Frame) (fields : List (List TextUnit × Json))
    (name : List TextUnit) (value : Json) :
    Leads (fieldTokens rest) ⟨.field fields name :: frames, .complete value⟩
      ⟨frames,
        .complete (object (fields.reverse ++ (name, value) :: rest))⟩ := by
  cases rest with
  | nil =>
      rw [fieldTokens, ← List.reverse_cons]
      exact .step rfl (.refl _)
  | cons next rest =>
      obtain ⟨nextName, nextValue⟩ := next
      rw [fieldTokens]
      refine .step
        rfl (.step rfl (.step rfl ((leads_tokens nextValue _).append ?_)))
      simpa using leads_fieldTokens rest frames ((name, value) :: fields)
        nextName nextValue

end

end Reading

theorem ofTokens?_tokens (json : Json) : ofTokens? json.tokens = some json := by
  have leads := Reading.leads_tokens json [] []
  rw [List.append_nil] at leads
  rw [ofTokens?, leads]
  rfl

end Json

end Hotplug
