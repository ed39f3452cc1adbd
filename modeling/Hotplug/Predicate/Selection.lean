import Hotplug.Predicate.Compare

/-!
# Which devices a predicate selects

Operands are judged from left to right, and only until the result is known. A
property is read only of a device that reports its capability.
-/

namespace Hotplug

namespace Predicate

variable {m : Type → Type} [Monad m]

/-- Whether a comparison holds on a device. -/
def comparisonSelects (device : Device m) (capability : Capability)
    (property : String) (op : Comparator) (literal : Value) : m Bool := do
  if ← device.reports capability then
    match ← device.property capability property .fetched with
    | some actual => return actual.related op literal
    | none => return false
  else return false

mutual

/-- Whether the predicate means the device. -/
def selects (device : Device m) : Predicate → m Bool
  | empty => pure true
  | invalid => pure false
  | is capability => device.reports capability
  | compare capability property op literal =>
      comparisonSelects device capability property op literal
  | all operands => selectsAll device operands
  | any operands => selectsAny device operands

def selectsAll (device : Device m) : List Predicate → m Bool
  | [] => pure true
  | operand :: rest => do
      if ← selects device operand then selectsAll device rest else return false

def selectsAny (device : Device m) : List Predicate → m Bool
  | [] => pure false
  | operand :: rest => do
      if ← selects device operand then return true else selectsAny device rest

end

/-- What a device that never changes answers. -/
structure Profile where
  reports : Capability → Bool
  value : Capability → String → Option Value

mutual

/-- The truth value of a predicate on a profile, with every operand
evaluated. -/
def truth (profile : Profile) : Predicate → Bool
  | empty => true
  | invalid => false
  | is capability => profile.reports capability
  | compare capability property op literal =>
      profile.reports capability &&
        (profile.value capability property).any
          fun actual => actual.related op literal
  | all operands => truthAll profile operands
  | any operands => truthAny profile operands

def truthAll (profile : Profile) : List Predicate → Bool
  | [] => true
  | operand :: rest => Bool.and (truth profile operand) (truthAll profile rest)

def truthAny (profile : Profile) : List Predicate → Bool
  | [] => false
  | operand :: rest => Bool.or (truth profile operand) (truthAny profile rest)

end

end Predicate

end Hotplug
