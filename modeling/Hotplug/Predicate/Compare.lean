import Hotplug.Predicate

/-!
# Comparing a property with a literal

Integers of either kind compare exactly, other numbers as doubles, texts by code
points. Against a truth literal every value is read as a truth value if it can
be. A list of texts can only be asked whether it has a member.
-/

namespace Hotplug

namespace Value

/-- Whether two integers have a one bit in common in two's complement. Every
integer value fits in 128 bits with its sign. -/
def sharesBit (left right : Int) : Bool :=
  (BitVec.ofInt 128 left &&& BitVec.ofInt 128 right) != 0#128

def compareBool (left right : Bool) : Ordering := compare (bit left) (bit right)

/-- How a value lies to a literal, if the two are comparable. -/
def order? (actual literal : Value) : Option Ordering :=
  match actual.toInteger?, literal.toInteger? with
  | some left, some right => some (compare left right)
  | _, _ =>
      if actual.isNumeric && literal.isNumeric then
        match actual.toDouble?, literal.toDouble? with
        | some left, some right => left.compare? right
        | _, _ => none
      else
        match actual, literal with
        | .text left, .text right => some (compare left right)
        | _, .bool right =>
            actual.toBool?.map fun left => compareBool left right
        | _, _ => none

/-- Whether a list of texts is related to a literal: by membership or its
absence. -/
def listRelation (op : Comparator) (items : List String) (literal : Value) :
    Bool :=
  match op, literal with
  | .eq, .text content => items.contains content
  | .ne, .text content => !items.contains content
  | _, _ => false

/-- Whether a value stands in a relation to a literal. -/
def related (actual : Value) (op : Comparator) (literal : Value) : Bool :=
  match op with
  | .mask =>
      match actual.toInteger?, literal.toInteger? with
      | some left, some right => sharesBit left right
      | _, _ => false
  | _ =>
      match actual with
      | .texts items => listRelation op items literal
      | _ =>
          match order? actual literal with
          | some order => op.allows order
          | none => false

end Value

end Hotplug
