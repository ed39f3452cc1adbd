import Hotplug.Value.Untagged
import Hotplug.Proofs.Json.Number
import Hotplug.Proofs.Json.Reading

/-!
# Values through untagged JSON

The text of a value does not say of which kind the value is. It is read as the
first kind that fits, so an integer without a sign comes back with one where it
can, and no bytes come back as no texts. Every other value but a double comes
back as it was.
-/

namespace Hotplug

namespace Value

/-- The value as which the JSON text of a value is read. -/
def reread : Value → Value
  | .uint n =>
      if n.toNat < Word.signedLimit then .int (Int64.ofNat n.toNat) else .uint n
  | .bytes content => if content = [] then .texts [] else .bytes content
  | value => value

/-- Whether the text of the value is also that of a value of an earlier kind. -/
def IsAmbiguous : Value → Prop
  | .uint n => n.toNat < Word.signedLimit
  | .bytes content => content = []
  | _ => False

variable {value : Value} {json : Json}

theorem reread_eq_self_iff : value.reread = value ↔ ¬value.IsAmbiguous := by
  cases value with
  | uint n =>
      rw [reread, IsAmbiguous]
      split <;> simp_all
  | bytes content => cases content <;> simp [reread, IsAmbiguous]
  | _ => simp [reread, IsAmbiguous]

theorem toInteger?_reread (value : Value) :
    value.reread.toInteger? = value.toInteger? := by
  cases value with
  | uint n =>
      rw [reread]
      split
      · next small => rw [toInteger?, Int64.toInt_ofNat_of_lt small, toInteger?]
      · rfl
  | bytes content => cases content <;> rfl
  | _ => rfl

theorem toJson?_reread (value : Value) :
    value.reread.toJson? = value.toJson? := by
  cases value with
  | uint n =>
      rw [reread]
      split
      · next small =>
          rw [toJson?, Int64.toInt_ofNat_of_lt small,
            JsonNumber.ofInt_natCast, toJson?]
      · rfl
  | bytes content => cases content <;> rfl
  | _ => rfl

theorem toJson?_eq_none_iff :
    value.toJson? = none ↔ ∃ number, value = .double number := by
  cases value <;> simp [toJson?]

theorem byte?_ofNat (byte : UInt8) :
    byte? (.number (.ofNat byte.toNat)) = some byte := by
  have small : byte.toNat < 256 := byte.toNat_lt
  have signed : byte.toNat < Word.signedLimit := small.trans (by decide)
  rw [byte?, JsonNumber.toInteger?_ofNat (signed.trans (by decide)),
    if_pos signed]
  simp only [Int64.toInt_ofNat_of_lt signed]
  rw [if_pos (by omega), Int.toNat_natCast, UInt8.ofNat_toNat]

theorem ofJson?_of_toJson? (written : value.toJson? = some json) :
    ofJson? json = some value.reread := by
  -- By the kind of the value: no earlier kind fits its tree.
  cases value with
  | bool truth =>
      cases written
      rfl
  | int n =>
      cases written
      rw [ofJson?, JsonNumber.toValue?, JsonNumber.toInteger?_ofInt]
      rfl
  | uint n =>
      cases written
      rw [ofJson?, JsonNumber.toValue?,
        JsonNumber.toInteger?_ofNat n.toNat_lt, reread, UInt64.ofNat_toNat]
  | double number => cases written
  | text content =>
      cases written
      rw [Json.ofText, ofJson?, TextUnit.toText?_ofText]
      rfl
  | texts items =>
      cases written
      rw [Json.ofTexts, ofJson?, Json.mapM_map_eq_some Json.toText?_ofText]
      rfl
  | bytes content =>
      cases written
      cases content with
      | nil => rfl
      | cons byte content =>
          have noText : ((byte :: content).map fun byte =>
              Json.number (.ofNat byte.toNat)).mapM Json.toText? = none := by
            rw [List.map_cons, List.mapM_cons]
            rfl
          rw [ofJson?, noText, Json.mapM_map_eq_some byte?_ofNat]
          rfl

theorem isSound_of_toJson? (written : value.toJson? = some json) :
    json.IsSound := by
  cases value with
  | bool truth =>
      cases written
      exact Json.isSound_bool truth
  | int n =>
      cases written
      exact Json.isSound_number (JsonNumber.isSound_digits _ _)
  | uint n =>
      cases written
      exact Json.isSound_number (JsonNumber.isSound_digits _ _)
  | double number => cases written
  | text content =>
      cases written
      exact Json.isSound_ofText content
  | texts items =>
      cases written
      exact Json.isSound_ofTexts items
  | bytes content =>
      cases written
      refine Json.isSound_list fun item member => ?_
      obtain ⟨byte, -, rfl⟩ := List.mem_map.mp member
      exact Json.isSound_number (JsonNumber.isSound_digits _ _)

section Texts

variable {write : Json → String} {read? : String → Option Json}

theorem bind_read?_of_toJson? (faithful : Json.Faithful write read?)
    (written : value.toJson? = some json) :
    (read? (write json)).bind ofJson? = some value.reread := by
  rw [faithful json (isSound_of_toJson? written), Option.bind_some,
    ofJson?_of_toJson? written]

theorem write_eq_iff_reread_eq (faithful : Json.Faithful write read?)
    (written : value.toJson? = some json) {other : Value} {otherJson : Json}
    (otherWritten : other.toJson? = some otherJson) :
    write otherJson = write json ↔ other.reread = value.reread := by
  constructor
  · intro same
    have otherRead := bind_read?_of_toJson? faithful otherWritten
    rw [same, bind_read?_of_toJson? faithful written] at otherRead
    exact (Option.some.inj otherRead).symm
  · intro same
    rw [← toJson?_reread, same, toJson?_reread, written] at otherWritten
    rw [Option.some.inj otherWritten]

end Texts

/-- Every value that is no double has a text, and is read from it as it was,
unless it is an integer without a sign that fits with one, which gets the sign,
or no bytes, which become no texts. An integer stays the same number. Two values
have the same text only if they are read as the same value. All this holds for
any texts from which trees are read as they were. -/
theorem exists_json_reread (notDouble : ∀ number, value ≠ .double number) :
    ∃ json, value.toJson? = some json ∧
      (Json.read? json.write).bind ofJson? = some value.reread ∧
      (value.reread = value ↔ ¬value.IsAmbiguous) ∧
      value.reread.toInteger? = value.toInteger? ∧
      (∀ (other : Value) otherJson, other.toJson? = some otherJson →
        (otherJson.write = json.write ↔ other.reread = value.reread)) ∧
      ∀ (write : Json → String) (read? : String → Option Json),
        Json.Faithful write read? →
        (read? (write json)).bind ofJson? = some value.reread ∧
        ∀ (other : Value) otherJson, other.toJson? = some otherJson →
          (write otherJson = write json ↔ other.reread = value.reread) := by
  obtain ⟨json, written⟩ : ∃ json, value.toJson? = some json := by
    rw [← Option.ne_none_iff_exists']
    exact fun none => (toJson?_eq_none_iff.mp none).elim notDouble
  have faithful (write : Json → String) (read? : String → Option Json)
      (keeps : Json.Faithful write read?) :
      (read? (write json)).bind ofJson? = some value.reread ∧
      ∀ (other : Value) otherJson, other.toJson? = some otherJson →
        (write otherJson = write json ↔ other.reread = value.reread) :=
    ⟨bind_read?_of_toJson? keeps written,
      fun _ _ otherWritten => write_eq_iff_reread_eq keeps written otherWritten⟩
  obtain ⟨own, alike⟩ := faithful _ _ Json.faithful_write
  exact ⟨json, written, own, reread_eq_self_iff, toInteger?_reread value,
    alike, faithful⟩

/-- The greatest integer with a sign comes back with it. -/
theorem exists_json_reread_greatest :
    (∀ number, Value.uint 9223372036854775807 ≠ .double number) ∧
      ∃ json, toJson? (.uint 9223372036854775807) = some json ∧
        (Json.read? json.write).bind ofJson? =
          some (.int 9223372036854775807) := by
  have notDouble :
      ∀ number, Value.uint 9223372036854775807 ≠ .double number := nofun
  obtain ⟨json, written, read, -⟩ := exists_json_reread notDouble
  have signed : reread (.uint 9223372036854775807) =
    .int 9223372036854775807 := by decide
  exact ⟨notDouble, json, written, signed ▸ read⟩

end Value

end Hotplug
