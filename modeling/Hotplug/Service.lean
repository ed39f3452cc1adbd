import Hotplug.Run
import Hotplug.Value

/-!
# Platform services

A service manages objects, each with named interfaces of named properties. It is
asked by calls that block until it answers, fails or crashes.
-/

namespace Hotplug

/-- Why a service did not answer a call. -/
inductive ServiceError where
  | unknownObject (udi : String)
  | unknownInterface (udi interface : String)
  | unknownProperty (udi interface property : String)
  | transport (reason : String)
  deriving DecidableEq, Repr

namespace ServiceError

def message : ServiceError → String
  | unknownObject udi => "Unknown object: " ++ udi
  | unknownInterface udi interface =>
      "Object " ++ udi ++ " has no interface " ++ interface
  | unknownProperty udi interface property =>
      "Interface " ++ interface ++ " on " ++ udi ++
        " has no property " ++ property
  | transport reason => "Transport error: " ++ reason

end ServiceError

structure PropertyKey where
  udi : String
  interface : String
  property : String
  deriving DecidableEq, Repr

/-- The calls that a service in a state of type `σ` answers. -/
class Service (σ : Type) where
  /-- Every object with all of its interfaces and properties. -/
  managedObjects : Run σ (Except ServiceError Objects)
  getProperty : PropertyKey → Run σ (Except ServiceError Value)
  /-- Every property of one interface of an object. -/
  getAll : String → String → Run σ (Except ServiceError Properties)

inductive Signal where
  | interfacesAdded (udi : String) (interfaces : Interfaces)
  | interfacesRemoved (udi : String) (interfaces : List String)
  /-- Properties with their new values, and others whose values are no longer
  valid. -/
  | propertiesChanged (udi : String) (interface : String) (changed : Properties)
      (invalidated : List String)
  deriving DecidableEq

namespace Signal

def udi : Signal → String
  | interfacesAdded udi _ => udi
  | interfacesRemoved udi _ => udi
  | propertiesChanged udi _ _ _ => udi

end Signal

inductive ServiceCall where
  | managedObjects
  | getProperty (key : PropertyKey)
  | getAll (udi interface : String)
  deriving DecidableEq, Repr

end Hotplug
