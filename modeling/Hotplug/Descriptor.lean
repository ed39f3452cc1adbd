import Hotplug.Capability

/-!
# What a backend is responsible for
-/

namespace Hotplug

/-- Where the identifiers of a backend begin, and what its devices can be. -/
structure Descriptor where
  /-- An identifier that starts with this text belongs to the backend. -/
  identifierPrefix : String
  /-- The set of capabilities that its devices may report. -/
  supported : List Capability
  deriving DecidableEq, Repr

namespace Descriptor

def make (identifierPrefix : String) (capabilities : List Capability) :
    Descriptor where
  identifierPrefix := identifierPrefix
  supported := Capability.toSet capabilities

def owns (descriptor : Descriptor) (udi : String) : Bool :=
  Text.startsBy udi descriptor.identifierPrefix

end Descriptor

end Hotplug
