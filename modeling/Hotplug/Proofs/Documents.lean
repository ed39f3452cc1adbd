import Mathlib.Data.List.Nodup
import Hotplug.Config.Document
import Hotplug.Proofs.Json.Reading
import Hotplug.Proofs.Named

/-!
# Configurations through documents

A record is read from the object that it is written as, whatever its parts are:
each of them is written, so none of them is replaced by its default. A
configuration is therefore read from its own document, if it is valid.
-/

namespace Hotplug

namespace Named

variable {α : Type}

theorem ofList_toList (things : Named α) :
    Std.ExtTreeMap.ofList things.toList = things := by
  apply Std.ExtTreeMap.ext_getElem?
  intro name
  cases held : things[name]? with
  | some thing =>
      exact Std.ExtTreeMap.getElem?_ofList_of_mem Std.ReflCmp.compare_self
        things.distinct_keys_toList
          (Std.ExtTreeMap.mem_toList_iff_getElem?_eq_some.mpr held)
  | none =>
      apply Std.ExtTreeMap.getElem?_ofList_of_contains_eq_false
      rw [← lookup_toList, List.lookup_eq_none_iff] at held
      rw [← Bool.not_eq_true, List.contains_iff_mem, List.mem_map]
      rintro ⟨entry, member, rfl⟩
      simpa using held entry member

end Named

namespace Json

variable {fields : List (String × Json)}

/-- The parts of a record are its fields, if each name is there once. -/
theorem parts?_record (names : List String) (named : fields.map (·.1) = names)
    (distinct : names.Nodup) :
    (record fields).parts? names = some fun name => fields.lookup name := by
  have read : (fields.map fun field => (TextUnit.ofText field.1, field.2)).mapM
      (fun field => do return (← TextUnit.toText? field.1, field.2)) =
          some fields := by
    refine mapM_map_eq_some (fun field => ?_) fields
    simp
  have single : (names.any fun name =>
      decide (1 < (fields.filter fun field => field.1 == name).length)) =
          false := by
    refine List.any_eq_false.mpr fun name _ => ?_
    have once := List.nodup_iff_count_le_one.mp distinct name
    rw [← named, List.count_eq_length_filter, List.filter_map,
      List.length_map] at once
    rw [decide_eq_true_iff]
    exact Nat.not_lt.mpr once
  rw [record, parts?, read]
  exact if_neg (by rw [single]; decide)

@[simp] theorem toTexts?_ofTexts (items : List String) :
    (ofTexts items).toTexts? = some items :=
  mapM_map_eq_some toText?_ofText items

@[simp] theorem toTextOrNull?_ofTextOrNull (text : Option String) :
    (ofTextOrNull text).toTextOrNull? = some text := by
  cases text with
  | none => rfl
  | some s =>
      rw [ofTextOrNull, toTextOrNull?, toText?_ofText]
      · rfl
      · nofun

@[simp] theorem isSound_ofTextOrNull (text : Option String) :
    (ofTextOrNull text).IsSound := by
  cases text with
  | none => exact isSound_null
  | some s => exact isSound_ofText s

end Json

namespace Capability

theorem ofExactName?_name (capability : Capability) :
    ofExactName? capability.name = some capability := by
  cases capability <;> decide

theorem ofJson?_toJson (capability : Capability) :
    ofJson? capability.toJson = some capability := by
  rw [toJson, Json.ofText, ofJson?, TextUnit.toText?_ofText, Option.bind_some,
    ofExactName?_name]

@[simp] theorem meanings?_record (meanings : Named Capability) :
    meanings? (.record (meanings.toList.map
      fun entry => (entry.1, entry.2.toJson))) = some meanings := by
  have read : ((meanings.toList.map fun entry => (entry.1, entry.2.toJson)).map
      fun field => (TextUnit.ofText field.1, field.2)).mapM
        (fun field => do
          return (← TextUnit.toText? field.1, ← ofJson? field.2)) =
      some meanings.toList := by
    rw [List.map_map]
    refine Json.mapM_map_eq_some (fun entry => ?_) meanings.toList
    simp [ofJson?_toJson]
  rw [Json.record, meanings?, read]
  exact congrArg some meanings.ofList_toList

@[simp] theorem isSound_meanings (meanings : Named Capability) :
    (Json.record (meanings.toList.map
      fun entry => (entry.1, entry.2.toJson))).IsSound := by
  refine Json.isSound_record fun field member => ?_
  obtain ⟨entry, -, rfl⟩ := List.mem_map.mp member
  exact Json.isSound_ofText entry.2.name

end Capability

namespace RootPresentation

@[simp] theorem ofJson?_toJson (root : RootPresentation) :
    ofJson? root.toJson = some root := by
  rw [ofJson?, toJson, Json.parts?_record fieldNames rfl (by decide),
    Option.bind_eq_bind, Option.bind_some]
  simp only [Json.part?, List.lookup_cons, beq_self_eq_true, String.reduceBEq]
  simp only [Json.toText?_ofText]
  rfl

@[simp] theorem isSound_toJson (root : RootPresentation) :
    root.toJson.IsSound :=
  Json.isSound_record (by simp)

end RootPresentation

namespace MediaRule

@[simp] theorem ofJson?_toJson (rule : MediaRule) :
    ofJson? rule.toJson = some rule := by
  rw [ofJson?, toJson, Json.parts?_record fieldNames rfl (by decide),
    Option.bind_eq_bind, Option.bind_some]
  simp only [Json.part?, List.lookup_cons, beq_self_eq_true, String.reduceBEq]
  simp only [Json.toText?_ofText, Json.toTexts?_ofTexts]
  rfl

@[simp] theorem isSound_toJson (rule : MediaRule) : rule.toJson.IsSound :=
  Json.isSound_record (by simp)

end MediaRule

namespace Config

/-- No field of a configuration is left out, so no part of it becomes its
default. -/
theorem ofJson?_toJson (config : Config) :
    ofJson? config.toJson = some config := by
  rw [ofJson?, toJson, Json.parts?_record fieldNames rfl (by decide),
    Option.bind_eq_bind, Option.bind_some]
  simp only [Json.part?, List.lookup_cons, beq_self_eq_true, String.reduceBEq]
  simp only [Json.toText?_ofText, Json.toTexts?_ofTexts,
    Json.toTextOrNull?_ofTextOrNull,
    Capability.meanings?_record, MediaRule.ofJson?_toJson,
      RootPresentation.ofJson?_toJson]
  rfl

theorem isSound_toJson (config : Config) : config.toJson.IsSound :=
  Json.isSound_record (by simp)

variable {config : Config} {json : Json} {document : String}

theorem ofJson_of_ofJson? (describes : ofJson? json = some config) :
    (config.identifierPrefix ≠ "" → config.baselineInterface ≠ "" →
      ofJson json = .ok config) ∧
    (config.identifierPrefix = "" → ofJson json =
      .error .emptyIdentifierPrefix) ∧
    (config.identifierPrefix ≠ "" → config.baselineInterface = "" →
      ofJson json = .error .emptyBaselineInterface) := by
  rw [ofJson, describes]
  dsimp only
  rw [validate]
  refine ⟨fun named based => ?_, fun unnamed => ?_, fun named unbased => ?_⟩
  · rw [if_neg named, if_neg based]
    rfl
  · rw [if_pos unnamed]
    rfl
  · rw [if_neg named, if_pos unbased]
    rfl

theorem ofText_of_read? (read : Json.read? document = some json) :
    ofText document = ofJson json := by
  rw [ofText, read]

/-- A configuration with an identifier prefix and a baseline interface is read
from its own document as it was. Any other document that says a configuration is
treated alike: without one of the two the configuration is refused. The same
holds for any documents from which trees are read as they were. -/
theorem ofText_write_toJson (config : Config) :
    (config.identifierPrefix ≠ "" → config.baselineInterface ≠ "" →
      ofText config.toJson.write = .ok config) ∧
    (Json.read? config.toJson.write = some config.toJson ∧
      ofJson? config.toJson = some config) ∧
    (∀ document json, Json.read? document = some json →
      ofJson? json = some config →
      (config.identifierPrefix ≠ "" → config.baselineInterface ≠ "" →
        ofText document = .ok config) ∧
      (config.identifierPrefix = "" → ofText document =
        .error .emptyIdentifierPrefix) ∧
      (config.identifierPrefix ≠ "" → config.baselineInterface = "" →
        ofText document = .error .emptyBaselineInterface)) ∧
    ∀ (write : Json → String) (read? : String → Option Json),
      Json.Faithful write read? →
      (config.identifierPrefix ≠ "" → config.baselineInterface ≠ "" →
        (read? (write config.toJson)).map ofJson = some (.ok config)) ∧
      (config.identifierPrefix = "" →
        (read? (write config.toJson)).map ofJson =
          some (.error .emptyIdentifierPrefix)) ∧
      (config.identifierPrefix ≠ "" → config.baselineInterface = "" →
        (read? (write config.toJson)).map ofJson =
          some (.error .emptyBaselineInterface)) := by
  have own := config.ofJson?_toJson
  have written := Json.faithful_write config.toJson config.isSound_toJson
  refine ⟨?_, ⟨written, own⟩, fun document json read describes => ?_,
    fun write read? faithful => ?_⟩
  · rw [ofText_of_read? written]
    exact (ofJson_of_ofJson? own).1
  · rw [ofText_of_read? read]
    exact ofJson_of_ofJson? describes
  · rw [faithful _ config.isSound_toJson, Option.map_some]
    simpa only [Option.some.injEq] using ofJson_of_ofJson? own

/-- A service of which next to nothing is known, and nothing that the defaults
say. -/
def bare : Config where
  identifierPrefix := "/dev"
  trackedRoots := []
  ignoredPrefixes := []
  interfaceNamespace := none
  baselineInterface := "true"
  parentProperty := none
  mountPointsProperty := none
  meanings := (∅ : Named Capability).insert "" .unknown
  removableMedia := { removablePrefixes := [] }

theorem ofText_write_toJson_bare :
    ofText bare.toJson.write = .ok bare ∧
      ofText { bare with identifierPrefix := "" }.toJson.write =
        .error .emptyIdentifierPrefix := by
  have named : bare.identifierPrefix ≠ "" := by decide
  have based : bare.baselineInterface ≠ "" := by decide
  obtain ⟨-, ⟨written, own⟩, refused, -⟩ :=
    ofText_write_toJson { bare with identifierPrefix := "" }
  exact ⟨(ofText_write_toJson bare).1 named based,
    (refused _ _ written own).2.1 rfl⟩

end Config

end Hotplug
