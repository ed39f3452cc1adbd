import Hotplug.Descriptor

/-!
# Configuration of a service

Where the objects of a platform service live, which of its interfaces matter,
and what they mean as capabilities. The defaults describe a storage service.
-/

namespace Hotplug

/-- How the device that stands for the service itself is presented. -/
structure RootPresentation where
  product : String := "Storage"
  description : String := "Storage devices"
  icon : String := "server-database"
  deriving DecidableEq, Repr

/-- How a device is recognised as holding removable media: its drive lists the
kinds of media that it takes. -/
structure MediaRule where
  /-- The baseline property that names the drive. -/
  driveProperty : String := "Drive"
  driveInterface : String := "org.freedesktop.UDisks2.Drive"
  compatibilityProperty : String := "MediaCompatibility"
  /-- A kind of media that starts with one of these is removable. -/
  removablePrefixes : List String := ["optical"]
  deriving DecidableEq, Repr

namespace MediaRule

def isRemovable (rule : MediaRule) (kinds : List String) : Bool :=
  kinds.any fun kind => rule.removablePrefixes.any
    fun start => Text.startsBy kind start

end MediaRule

def defaultMeanings : Named Capability :=
  Std.ExtTreeMap.ofList [
    ("org.freedesktop.UDisks2.Block", Capability.block),
    ("org.freedesktop.UDisks2.Filesystem", Capability.storageAccess),
    ("org.freedesktop.UDisks2.Drive", Capability.storageDrive),
    ("org.freedesktop.UDisks2.Partition", Capability.storageVolume),
    ("org.freedesktop.UDisks2.OpticalDisc", Capability.opticalDisc),
    ("org.freedesktop.UDisks2.OpticalDrive", Capability.opticalDrive)]

/-- All that a cache needs to know about one service. -/
structure Config where
  /-- The identifiers of the service start with this text. -/
  identifierPrefix : String := "/org/freedesktop/UDisks2"
  /-- Only objects under these are loaded; an empty list admits every object. -/
  trackedRoots : List String :=
    ["/org/freedesktop/UDisks2/block_devices",
      "/org/freedesktop/UDisks2/drives"]
  /-- Objects under these are left out entirely. -/
  ignoredPrefixes : List String := ["/org/freedesktop/UDisks2/jobs"]
  /-- If set, interfaces that are announced must start with it. -/
  interfaceNamespace : Option String := some "org.freedesktop.UDisks2"
  /-- The interface that every tracked device has. -/
  baselineInterface : String := "org.freedesktop.UDisks2.Block"
  /-- The interface whose arrival means that a device is ready for use. -/
  readinessInterface : String := "org.freedesktop.UDisks2.Filesystem"
  /-- The baseline property that tells whether there is a medium. -/
  sizeProperty : String := "Size"
  /-- The baseline property that names the parent device. -/
  parentProperty : Option String := some "Drive"
  /-- The property that lists mount points. -/
  mountPointsProperty : Option String := some "MountPoints"
  /-- What interface names mean. -/
  meanings : Named Capability := defaultMeanings
  removableMedia : MediaRule := {}
  root : RootPresentation := {}
  deriving DecidableEq

inductive ConfigError where
  /-- There is no file, or it holds no text. -/
  | unreadable
  /-- The text is no JSON, or not that of a configuration. -/
  | malformed
  | emptyIdentifierPrefix
  | emptyBaselineInterface
  deriving DecidableEq, Repr

namespace ConfigError

def message : ConfigError → String
  | unreadable => "Unreadable configuration"
  | malformed => "Malformed configuration"
  | emptyIdentifierPrefix =>
      "Invalid configuration: identifier_prefix must not be empty"
  | emptyBaselineInterface =>
      "Invalid configuration: baseline_interface must not be empty"

end ConfigError

namespace Config

/-- Refuse what a cache cannot work with. -/
def validate (config : Config) : Except ConfigError Unit :=
  if config.identifierPrefix = "" then .error .emptyIdentifierPrefix
  else if config.baselineInterface = "" then .error .emptyBaselineInterface
  else .ok ()

/-- The set of capabilities that devices of the service may report. -/
def supported (config : Config) : List Capability :=
  Capability.collect fun capability =>
    capability == .genericInterface ||
      config.meanings.values.contains capability

def descriptor (config : Config) : Descriptor where
  identifierPrefix := config.identifierPrefix
  supported := config.supported

def meaning? (config : Config) (interface : String) : Option Capability :=
  config.meanings[interface]?

/-- The interface names with a meaning, in name order. -/
def interfacesOf (config : Config) (capability : Capability) : List String :=
  (config.meanings.toList.filter fun entry => entry.2 == capability).map (·.1)

def leavesOut (config : Config) (udi : String) : Bool :=
  config.ignoredPrefixes.any fun start => Text.startsBy udi start

def isUnderRoot (config : Config) (udi : String) : Bool :=
  config.trackedRoots.isEmpty || config.trackedRoots.any
    fun start => Text.startsBy udi start

def admitsInterface (config : Config) (interface : String) : Bool :=
  match config.interfaceNamespace with
  | none => true
  | some start => Text.startsBy interface start

end Config

end Hotplug
