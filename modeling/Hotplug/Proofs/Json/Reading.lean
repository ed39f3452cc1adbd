import Hotplug.Proofs.Json.Spelling

/-!
# Reading back what was written

A tree that can be written is read from its own text. Trees that are put
together of plain texts, of records and of integers can be written.
-/

namespace Hotplug

namespace TextUnit

theorem chars?_map_char (cs : List Char) : chars? (cs.map char) = some cs := by
  induction cs with
  | nil => rfl
  | cons c cs induction => simp [chars?, induction]

@[simp] theorem toText?_ofText (s : String) : toText? (ofText s) = some s := by
  rw [toText?, ofText, chars?_map_char, Option.map_some, String.ofList_toList]

end TextUnit

namespace Json

open JsonToken

/-- A tree of which each token can be written. -/
def IsSound (json : Json) : Prop := ∀ token ∈ json.tokens, token.IsSound

/-- Each tree that can be written is read from its own text. -/
def Faithful (write : Json → String) (read? : String → Option Json) : Prop :=
  ∀ json : Json, json.IsSound → read? (write json) = some json

section Writing

theorem endsNumber_writeItems (items : List Json) (rest : List Char) :
    EndsNumber (writeItems items ++ rest) := by
  intro c starts
  cases items with
  | nil =>
      obtain rfl : ']' = c := by simpa [writeItems] using starts
      decide
  | cons item items =>
      obtain rfl : ',' = c := by simpa [writeItems] using starts
      decide

theorem endsNumber_writeFields (fields : List (List TextUnit × Json))
    (rest : List Char) :
    EndsNumber (writeFields fields ++ rest) := by
  intro c starts
  rcases fields with _ | ⟨⟨name, value⟩, fields⟩
  · obtain rfl : '\x7d' = c := by simpa [writeFields] using starts
    decide
  · obtain rfl : ',' = c := by simpa [writeFields] using starts
    decide

theorem spells_field {name : List TextUnit}
    (named : ∀ unit ∈ name, unit.IsSound) {cs rest : List Char}
    {tokens : List JsonToken} (valued : Spells cs rest tokens) :
    Spells (TextUnit.writeAll name ++ ':' :: cs) rest
      (.text name :: .colon :: tokens) :=
  (spells_text named _).append ((spells_colon _).cons valued)

mutual

theorem spells_writeChars (json : Json) (sound : json.IsSound)
    {rest : List Char} (ends : EndsNumber rest) :
    Spells json.writeChars rest json.tokens := by
  -- By induction on the tree. Only a number at the end of the text looks at
  -- what follows, and what follows an item or a value of a field cannot
  -- continue a number.
  cases json with
  | null => exact spells_scanned _ (by decide) rfl
  | bool truth => cases truth <;> exact spells_scanned _ (by decide) rfl
  | number digits =>
      exact spells_number (sound (.number digits) List.mem_cons_self) ends
  | text units =>
      exact spells_text (sound (.text units) List.mem_cons_self) rest
  | list items =>
      cases items with
      | nil => exact (spells_openList _).cons (spells_closeList rest)
      | cons item items =>
          rw [writeChars, tokens]
          rw [IsSound, tokens, List.forall_mem_cons,
            List.forall_mem_append] at sound
          exact (spells_openList _).cons
            ((spells_writeChars item sound.2.1
              (endsNumber_writeItems items rest)).append
              (spells_writeItems items sound.2.2 rest))
  | object fields =>
      cases fields with
      | nil => exact (spells_openObject _).cons (spells_closeObject rest)
      | cons field fields =>
          obtain ⟨name, value⟩ := field
          rw [writeChars, tokens]
          rw [IsSound, tokens] at sound
          simp only [List.forall_mem_cons, List.forall_mem_append] at sound
          obtain ⟨-, named, -, valued, others⟩ := sound
          have first := spells_writeChars value valued
            (endsNumber_writeFields fields rest)
          exact (spells_openObject _).cons
            ((spells_field named first).append
              (spells_writeFields fields others rest))

theorem spells_writeItems (items : List Json)
    (sound : ∀ token ∈ itemTokens items, token.IsSound) (rest : List Char) :
    Spells (writeItems items) rest (itemTokens items) := by
  cases items with
  | nil => exact spells_closeList rest
  | cons item items =>
      rw [writeItems, itemTokens]
      rw [itemTokens, List.forall_mem_cons, List.forall_mem_append] at sound
      exact (spells_comma _).cons
        ((spells_writeChars item sound.2.1
          (endsNumber_writeItems items rest)).append
          (spells_writeItems items sound.2.2 rest))

theorem spells_writeFields (fields : List (List TextUnit × Json))
    (sound : ∀ token ∈ fieldTokens fields, token.IsSound) (rest : List Char) :
    Spells (writeFields fields) rest (fieldTokens fields) := by
  cases fields with
  | nil => exact spells_closeObject rest
  | cons field fields =>
      obtain ⟨name, value⟩ := field
      rw [writeFields, fieldTokens]
      rw [fieldTokens] at sound
      simp only [List.forall_mem_cons, List.forall_mem_append] at sound
      obtain ⟨-, named, -, valued, others⟩ := sound
      have first := spells_writeChars value valued
        (endsNumber_writeFields fields rest)
      exact (spells_comma _).cons
        ((spells_field named first).append
          (spells_writeFields fields others rest))

end

theorem faithful_write : Faithful write read? := by
  intro json sound
  have spells := spells_writeChars json sound endsNumber_nil
  rw [Spells, List.append_nil, ofChars?, Option.map_some,
    List.append_nil] at spells
  rw [read?, write, String.toList_ofList, spells]
  exact ofTokens?_tokens json

end Writing

section Building

variable {items : List Json} {fields : List (String × Json)}

@[simp] theorem isSound_null : null.IsSound := by
  intro token member
  obtain rfl := List.mem_singleton.mp member
  trivial

theorem isSound_bool (truth : Bool) : (bool truth).IsSound := by
  intro token member
  obtain rfl := List.mem_singleton.mp member
  trivial

theorem isSound_number {digits : JsonNumber} (sound : digits.IsSound) :
    (number digits).IsSound := by
  intro token member
  obtain rfl := List.mem_singleton.mp member
  exact sound

@[simp] theorem isSound_ofText (s : String) : (ofText s).IsSound := by
  intro token member
  obtain rfl := List.mem_singleton.mp member
  intro unit inside
  obtain ⟨c, -, rfl⟩ := List.mem_map.mp inside
  trivial

theorem forall_mem_itemTokens (each : ∀ item ∈ items, item.IsSound) :
    ∀ token ∈ itemTokens items, token.IsSound := by
  induction items with
  | nil => simp [itemTokens, JsonToken.IsSound]
  | cons item items induction =>
      obtain ⟨first, others⟩ := List.forall_mem_cons.mp each
      rw [itemTokens, List.forall_mem_cons, List.forall_mem_append]
      exact ⟨trivial, first, induction others⟩

theorem isSound_list (each : ∀ item ∈ items, item.IsSound) :
    (list items).IsSound := by
  rw [IsSound]
  cases items with
  | nil => simp [tokens, JsonToken.IsSound]
  | cons item items =>
      have inside := forall_mem_itemTokens each
      rw [itemTokens, List.forall_mem_cons] at inside
      rw [tokens, List.forall_mem_cons]
      exact ⟨trivial, inside.2⟩

@[simp] theorem isSound_ofTexts (items : List String) :
    (ofTexts items).IsSound := by
  refine isSound_list fun json member => ?_
  obtain ⟨s, -, rfl⟩ := List.mem_map.mp member
  exact isSound_ofText s

/-- The fields of a record, as an object has them. -/
def plainFields (fields : List (String × Json)) : List (List TextUnit × Json) :=
  fields.map fun field => (TextUnit.ofText field.1, field.2)

theorem forall_mem_fieldTokens (each : ∀ field ∈ fields, field.2.IsSound) :
    ∀ token ∈ fieldTokens (plainFields fields), token.IsSound := by
  induction fields with
  | nil => simp [plainFields, fieldTokens, JsonToken.IsSound]
  | cons field fields induction =>
      obtain ⟨first, others⟩ := List.forall_mem_cons.mp each
      have name := isSound_ofText field.1
      rw [plainFields, List.map_cons, fieldTokens]
      simp only [List.forall_mem_cons, List.forall_mem_append]
      exact ⟨trivial, name _ List.mem_cons_self, trivial,
        first, induction others⟩

theorem isSound_record (each : ∀ field ∈ fields, field.2.IsSound) :
    (record fields).IsSound := by
  rw [IsSound, record]
  cases fields with
  | nil => simp [tokens, JsonToken.IsSound]
  | cons field fields =>
      have inside := forall_mem_fieldTokens each
      rw [plainFields, List.map_cons, fieldTokens,
        List.forall_mem_cons] at inside
      rw [List.map_cons, tokens, List.forall_mem_cons]
      exact ⟨trivial, inside.2⟩

end Building

section Parts

theorem mapM_map_eq_some {α β : Type} {write : α → β} {read : β → Option α}
    (each : ∀ item, read (write item) = some item) (items : List α) :
    (items.map write).mapM read = some items := by
  have inverse : read ∘ write = pure := funext each
  rw [List.mapM_map, inverse, List.mapM_pure, List.map_id']
  rfl

@[simp] theorem toText?_ofText (s : String) : (ofText s).toText? = some s :=
  TextUnit.toText?_ofText s

end Parts

end Json

end Hotplug
