import Hotplug.Device

/-!
# Predicates

A predicate says which devices are meant. Its leaves ask for a capability or
compare a property with a literal, and its inner nodes are conjunctions and
disjunctions of any number of operands.
-/

namespace Hotplug

inductive Comparator where
  | eq
  | ne
  | lt
  | le
  | gt
  | ge
  /-- Whether the value and the mask have a bit in common. -/
  | mask
  deriving DecidableEq, Repr

namespace Comparator

def symbol : Comparator → String
  | eq => "=="
  | ne => "!="
  | lt => "<"
  | le => "<="
  | gt => ">"
  | ge => ">="
  | mask => "&"

/-- Whether an ordering operator holds between values in this order. -/
def allows : Comparator → Ordering → Bool
  | eq, order => order == .eq
  | ne, order => order != .eq
  | lt, order => order == .lt
  | le, order => order != .gt
  | gt, order => order == .gt
  | ge, order => order != .lt
  | mask, _ => false

end Comparator

/-- A filter on devices. -/
inductive Predicate where
  /-- Every device is meant. -/
  | empty
  /-- No device is meant: what stands for text that is no predicate. -/
  | invalid
  | is (capability : Capability)
  | compare (capability : Capability) (property : String) (op : Comparator)
    (literal : Value)
  | all (operands : List Predicate)
  | any (operands : List Predicate)

instance : Inhabited Predicate := ⟨.empty⟩

namespace Predicate

/-- Conjunction. One that is a conjunction already takes the operand in. -/
def and : Predicate → Predicate → Predicate
  | all operands, other => all (operands ++ [other])
  | first, other => all [first, other]

/-- Disjunction. One that is a disjunction already takes the operand in. -/
def or : Predicate → Predicate → Predicate
  | any operands, other => any (operands ++ [other])
  | first, other => any [first, other]

def isEmpty : Predicate → Bool
  | empty => true
  | _ => false

def isValid : Predicate → Bool
  | invalid => false
  | _ => true

mutual

def mentions (capability : Capability) : Predicate → Bool
  | empty => false
  | invalid => false
  | is other => other == capability
  | compare other _ _ _ => other == capability
  | all operands => someMentions capability operands
  | any operands => someMentions capability operands

def someMentions (capability : Capability) : List Predicate → Bool
  | [] => false
  | operand :: rest =>
      mentions capability operand || someMentions capability rest

end

/-- The set of capabilities that the predicate names. -/
def usedCapabilities (predicate : Predicate) : List Capability :=
  Capability.collect fun capability => predicate.mentions capability

mutual

/-- Equality of shape, with literals compared as values. -/
def same : Predicate → Predicate → Bool
  | empty, empty => true
  | invalid, invalid => true
  | is left, is right => left == right
  | compare capability property op literal,
      compare capability' property' op' literal' =>
      capability == capability' && property == property' && op == op' &&
        literal.same literal'
  | all left, all right => sameAll left right
  | any left, any right => sameAll left right
  | _, _ => false

def sameAll : List Predicate → List Predicate → Bool
  | [], [] => true
  | left :: lefts, right :: rights => same left right && sameAll lefts rights
  | _, _ => false

end

end Predicate

end Hotplug
