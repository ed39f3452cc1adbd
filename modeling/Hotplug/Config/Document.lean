import Hotplug.Config
import Hotplug.Json.Reader
import Hotplug.Json.Writer
import Hotplug.Text.Utf8

/-!
# Configuration documents

A record is written as an object with one field for each part. It is read from
an object, where a missing field has its default, an unknown one is passed over
and a repeated one is refused, or from a list of its parts in order, of which
the last ones may be missing.
-/

namespace Hotplug

namespace Json

/-- The parts of a record by the names of its fields. -/
def parts? (names : List String) : Json → Option (String → Option Json)
  | .list items =>
      if items.length ≤ names.length then some fun name =>
        (names.zip items).lookup name
      else none
  | .object fields => do
      let named ← fields.mapM fun field => do
        return (← TextUnit.toText? field.1, field.2)
      let repeated := names.any fun name =>
        decide (1 < (named.filter fun field => field.1 == name).length)
      if repeated then none else some fun name => named.lookup name
  | _ => none

/-- A part read in its own way, or its default when it is missing. -/
def part? {α : Type} (parts : String → Option Json) (name : String)
    (read : Json → Option α) (default : α) :
    Option α :=
  match parts name with
  | none => some default
  | some json => read json

def toTexts? : Json → Option (List String)
  | .list items => items.mapM toText?
  | _ => none

/-- A text, or null for none. -/
def toTextOrNull? : Json → Option (Option String)
  | .null => some none
  | json => json.toText?.map some

def ofTextOrNull : Option String → Json
  | none => .null
  | some s => ofText s

end Json

namespace Capability

/-- The capability of a name in exactly its own case. -/
def ofExactName? (text : String) : Option Capability :=
  every.find? fun capability => capability.name == text

/-- A capability is a name, or an object with that name for a field of no
value. -/
def ofJson? : Json → Option Capability
  | .text units => (TextUnit.toText? units).bind ofExactName?
  | .object [(units, .null)] => (TextUnit.toText? units).bind ofExactName?
  | _ => none

def toJson (capability : Capability) : Json := .ofText capability.name

/-- The meanings of interface names; of a repeated name the last one counts. -/
def meanings? : Json → Option (Named Capability)
  | .object fields => do
      let entries ← fields.mapM fun field => do
        return (← TextUnit.toText? field.1, ← ofJson? field.2)
      return Std.ExtTreeMap.ofList entries
  | _ => none

end Capability

namespace RootPresentation

def fieldNames : List String := ["product", "description", "icon"]

def ofJson? (json : Json) : Option RootPresentation := do
  let default : RootPresentation := {}
  let parts ← json.parts? fieldNames
  return {
    product := ← Json.part? parts "product" Json.toText? default.product
    description := ← Json.part? parts "description" Json.toText?
      default.description
    icon := ← Json.part? parts "icon" Json.toText? default.icon }

def toJson (root : RootPresentation) : Json :=
  .record [
    ("product", .ofText root.product),
    ("description", .ofText root.description),
    ("icon", .ofText root.icon)]

end RootPresentation

namespace MediaRule

def fieldNames : List String :=
  ["drive_property", "drive_interface", "compatibility_property",
    "removable_prefixes"]

def ofJson? (json : Json) : Option MediaRule := do
  let default : MediaRule := {}
  let parts ← json.parts? fieldNames
  return {
    driveProperty := ← Json.part? parts "drive_property" Json.toText?
      default.driveProperty
    driveInterface := ← Json.part? parts "drive_interface" Json.toText?
      default.driveInterface
    compatibilityProperty :=
      ← Json.part? parts "compatibility_property" Json.toText?
        default.compatibilityProperty
    removablePrefixes :=
      ← Json.part? parts "removable_prefixes" Json.toTexts?
        default.removablePrefixes }

def toJson (rule : MediaRule) : Json :=
  .record [
    ("drive_property", .ofText rule.driveProperty),
    ("drive_interface", .ofText rule.driveInterface),
    ("compatibility_property", .ofText rule.compatibilityProperty),
    ("removable_prefixes", .ofTexts rule.removablePrefixes)]

end MediaRule

namespace Config

def fieldNames : List String :=
  ["identifier_prefix", "tracked_roots", "ignored_prefixes",
    "interface_namespace",
    "baseline_interface", "readiness_interface", "size_property",
      "parent_property",
    "mount_points_property", "interfaces", "removable_media", "root"]

def ofJson? (json : Json) : Option Config := do
  let default : Config := {}
  let parts ← json.parts? fieldNames
  return {
    identifierPrefix := ← Json.part? parts "identifier_prefix" Json.toText?
      default.identifierPrefix
    trackedRoots := ← Json.part? parts "tracked_roots" Json.toTexts?
      default.trackedRoots
    ignoredPrefixes := ← Json.part? parts "ignored_prefixes" Json.toTexts?
      default.ignoredPrefixes
    interfaceNamespace :=
      ← Json.part? parts "interface_namespace" Json.toTextOrNull?
        default.interfaceNamespace
    baselineInterface :=
      ← Json.part? parts "baseline_interface" Json.toText?
        default.baselineInterface
    readinessInterface :=
      ← Json.part? parts "readiness_interface" Json.toText?
        default.readinessInterface
    sizeProperty := ← Json.part? parts "size_property" Json.toText?
      default.sizeProperty
    parentProperty := ← Json.part? parts "parent_property" Json.toTextOrNull?
      default.parentProperty
    mountPointsProperty :=
      ← Json.part? parts "mount_points_property" Json.toTextOrNull?
        default.mountPointsProperty
    meanings := ← Json.part? parts "interfaces" Capability.meanings?
      default.meanings
    removableMedia := ← Json.part? parts "removable_media" MediaRule.ofJson?
      default.removableMedia
    root := ← Json.part? parts "root" RootPresentation.ofJson? default.root }

def toJson (config : Config) : Json :=
  .record [
    ("identifier_prefix", .ofText config.identifierPrefix),
    ("tracked_roots", .ofTexts config.trackedRoots),
    ("ignored_prefixes", .ofTexts config.ignoredPrefixes),
    ("interface_namespace", Json.ofTextOrNull config.interfaceNamespace),
    ("baseline_interface", .ofText config.baselineInterface),
    ("readiness_interface", .ofText config.readinessInterface),
    ("size_property", .ofText config.sizeProperty),
    ("parent_property", Json.ofTextOrNull config.parentProperty),
    ("mount_points_property", Json.ofTextOrNull config.mountPointsProperty),
    ("interfaces",
      .record (config.meanings.toList.map
        fun entry => (entry.1, entry.2.toJson))),
    ("removable_media", config.removableMedia.toJson),
    ("root", config.root.toJson)]

/-- The valid configuration of a JSON tree. -/
def ofJson (json : Json) : Except ConfigError Config :=
  match ofJson? json with
  | none => .error .malformed
  | some config => do
      config.validate
      return config

/-- The valid configuration of a document. -/
def ofText (document : String) : Except ConfigError Config :=
  match Json.read? document with
  | none => .error .malformed
  | some json => ofJson json

/-- The valid configuration of a file's bytes, if there is a file. -/
def ofFile : Option (List UInt8) → Except ConfigError Config
  | none => .error .unreadable
  | some bytes =>
      match Text.decodeUtf8? bytes with
      | none => .error .unreadable
      | some document => ofText document

end Config

namespace Descriptor

def toJson (descriptor : Descriptor) : Json :=
  .record [
    ("identifier_prefix", .ofText descriptor.identifierPrefix),
    ("supported_interfaces",
      .list (descriptor.supported.map Capability.toJson))]

end Descriptor

end Hotplug
