import Hotplug.Descriptor
import Hotplug.Device
import Hotplug.DeviceEvent
import Hotplug.Run

/-!
# Backends

A backend owns the devices of one service. It lists them, makes the objects by
which they are used, and keeps the events about them until they are asked for.
It alone keeps its objects alive; others refer to them by number.
-/

namespace Hotplug

/-- An object and the number by which its backend knows it. Numbers are not used
again. -/
structure Kept (ο : Type) where
  serial : Nat
  object : ο
  deriving DecidableEq, Repr

/-- What a backend in a state of type `β`, with objects of type `ο`, can be
asked. -/
class Backend (β : Type) (ο : outParam Type) where
  descriptor : β → Descriptor
  /-- Every identifier, after loading all of them again. -/
  reload : Run β (List String)
  objectOf : String → Run β (Option (Kept ο))
  /-- The identifiers under a parent and with a capability, where those are
  given. -/
  list : Option String → Option Capability → Run β (List String)
  /-- The events since the last time. -/
  drain : Run β (List DeviceEvent)
  /-- Whether the object of a number is still owned. -/
  keeps : β → Nat → Bool
  device : ο → Device (Run β)

namespace Backend

variable {α β γ ο π : Type}

def inLeft (absent : α) (step : Run β α) : Run (β ⊕ γ) α :=
  step.zoom? Sum.getLeft? (fun part _ => .inl part) absent

def inRight (absent : α) (step : Run γ α) : Run (β ⊕ γ) α :=
  step.zoom? Sum.getRight? (fun part _ => .inr part) absent

/-- A step of whichever of two backends there is. -/
def either (left : Run β α) (right : Run γ α) : Run (β ⊕ γ) α :=
  .ofStart fun
    | .inl state => let (answer, next) := left.start state; (answer, .inl next)
    | .inr state => let (answer, next) := right.start state; (answer, .inr next)

end Backend

/-- A backend of one of two kinds. An object of the other kind, which such a
backend never makes, answers nothing. -/
instance {β γ ο π : Type} [Backend β ο] [Backend γ π] :
    Backend (β ⊕ γ) (ο ⊕ π) where
  descriptor
    | .inl state => Backend.descriptor state
    | .inr state => Backend.descriptor state
  reload := Backend.either Backend.reload Backend.reload
  objectOf udi :=
    Backend.either
      (do return (← Backend.objectOf udi).map fun kept => ⟨kept.serial,
        .inl kept.object⟩)
      (do return (← Backend.objectOf udi).map fun kept => ⟨kept.serial,
        .inr kept.object⟩)
  list parent capability :=
    Backend.either (Backend.list parent capability)
      (Backend.list parent capability)
  drain := Backend.either Backend.drain Backend.drain
  keeps
    | .inl state, serial => Backend.keeps state serial
    | .inr state, serial => Backend.keeps state serial
  device
    | .inl object =>
        (Backend.device object).within (Backend.inLeft "") (Backend.inLeft none)
          (Backend.inLeft []) (Backend.inLeft none)
    | .inr object =>
        (Backend.device object).within (Backend.inRight "")
          (Backend.inRight none) (Backend.inRight []) (Backend.inRight none)

end Hotplug
