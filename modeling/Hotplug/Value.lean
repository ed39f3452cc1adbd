import Hotplug.Binary64.Text
import Hotplug.Named
import Hotplug.Text.Case
import Hotplug.Text.Utf8
import Hotplug.Word

/-!
# Property values

Platform services hand out loosely typed values. A value keeps the shapes that
devices are described with, and offers readings that accept the neighbouring
shapes.
-/

namespace Hotplug

/-- One concrete property value. -/
inductive Value where
  | bool (truth : Bool)
  | int (number : Int64)
  | uint (number : UInt64)
  | double (number : Binary64)
  | text (content : String)
  | texts (items : List String)
  | bytes (content : List UInt8)
  deriving DecidableEq, Repr

abbrev Properties := Named Value

abbrev Interfaces := Named Properties

abbrev Objects := Named Interfaces

/-- A value that cannot be read the way it was asked for. -/
structure ConversionError where
  property : String
  expected : String
  deriving DecidableEq, Repr

namespace ConversionError

def message (error : ConversionError) : String :=
  "Cannot convert property " ++ error.property ++ " to " ++ error.expected

end ConversionError

namespace Value

/-- The text in a byte string that ends in its only zero byte. -/
def terminatedText? (content : List UInt8) : Option String :=
  match content.getLast? with
  | some 0 =>
      if content.dropLast.contains 0 then none else
        Text.decodeUtf8? content.dropLast
  | _ => none

/-- Services often send paths as zero terminated byte strings. Those become
text, and every other value stays as it is. -/
def plain : Value → Value
  | .bytes content =>
      match terminatedText? content with
      | some content => .text content
      | none => .bytes content
  | other => other

def toBool? : Value → Option Bool
  | .bool truth => some truth
  | .int number => some (number ≠ 0)
  | .uint number => some (number ≠ 0)
  | .text content =>
      if Text.lowered content = "true".toList then some true
      else if Text.lowered content = "false".toList then some false
      else none
  | _ => none

/-- The word of a truth value: one or zero. -/
def bit (truth : Bool) : Nat := if truth then 1 else 0

def toInt64? : Value → Option Int64
  | .int number => some number
  | .uint number =>
      if number.toNat < Word.signedLimit then some (Int64.ofNat number.toNat)
        else none
  | .bool truth => some (Int64.ofNat (bit truth))
  | _ => none

/-- Integers that are not negative, and doubles without a fraction, clamped to
what fits. -/
def toUInt64? : Value → Option UInt64
  | .uint number => some number
  | .int number =>
      if 0 ≤ number.toInt then some (UInt64.ofNat number.toInt.toNat) else none
  | .bool truth => some (UInt64.ofNat (bit truth))
  | .double number =>
      number.toNat?.map fun n => UInt64.ofNat (min n (Word.unsignedLimit - 1))
  | _ => none

def toDouble? : Value → Option Binary64
  | .double number => some number
  | .int number => some (.ofInt number.toInt)
  | .uint number => some (.ofNat number.toNat)
  | _ => none

def toText? : Value → Option String
  | .text content => some content
  | _ => none

def toTexts? : Value → Option (List String)
  | .texts items => some items
  | _ => none

def isNumeric : Value → Bool
  | .int _ | .uint _ | .double _ => true
  | _ => false

/-- The integer in an integer value of either kind. -/
def toInteger? : Value → Option Int
  | .int number => some number.toInt
  | .uint number => some number.toNat
  | _ => none

def expectUInt64 (value : Value) (property : String) :
    Except ConversionError UInt64 :=
  match value.toUInt64? with
  | some number => .ok number
  | none => .error ⟨property, "unsigned integer"⟩

def display : Value → String
  | .bool truth => if truth then "true" else "false"
  | .int number => toString number.toInt
  | .uint number => toString number.toNat
  | .double number => DecimalLayout.plain.write number
  | .text content => "'" ++ content ++ "'"
  | .texts items => "[" ++ String.intercalate ", " items ++ "]"
  | .bytes content => "<" ++ toString content.length ++ " bytes>"

/-- Equality of values as numbers and texts: zeros of either sign are the same,
and what is not a number differs even from itself. -/
def same : Value → Value → Bool
  | .double x, .double y => x.same y
  | x, y => decide (x = y)

@[simp] theorem plain_plain (value : Value) :
    value.plain.plain = value.plain := by
  cases value with
  | bytes content =>
      cases found : terminatedText? content <;> simp [plain, found]
  | _ => rfl

end Value

namespace Properties

def plain (properties : Properties) : Properties :=
  properties.map fun _ value => value.plain

end Properties

namespace Interfaces

def plain (interfaces : Interfaces) : Interfaces :=
  interfaces.map fun _ properties => Properties.plain properties

end Interfaces

end Hotplug
