import Hotplug.Json.Number

/-!
# Values as untagged JSON

A value is written without saying which kind it is, and read as the first kind
that fits: truth, signed integer, unsigned integer, double, text, texts, bytes.
-/

namespace Hotplug

namespace Value

/-- The byte in a JSON number that is an integer below 256. -/
def byte? : Json → Option UInt8
  | .number digits =>
      match digits.toInteger? with
      | some (.int n) =>
          if 0 ≤ n.toInt ∧ n.toInt < 256 then some (UInt8.ofNat n.toInt.toNat)
            else none
      | _ => none
  | _ => none

/-- The first kind of value that fits a JSON tree. -/
def ofJson? : Json → Option Value
  | .bool truth => some (.bool truth)
  | .number digits => digits.toValue?
  | .text units => (TextUnit.toText? units).map Value.text
  | .list items =>
      match items.mapM Json.toText? with
      | some contents => some (.texts contents)
      | none => (items.mapM byte?).map Value.bytes
  | .null => none
  | .object _ => none

/-- The JSON tree of a value. There is none for doubles. -/
def toJson? : Value → Option Json
  | .bool truth => some (.bool truth)
  | .int n => some (.number (.ofInt n.toInt))
  | .uint n => some (.number (.ofNat n.toNat))
  | .double _ => none
  | .text content => some (.ofText content)
  | .texts items => some (.ofTexts items)
  | .bytes content =>
      some (.list (content.map fun byte => .number (.ofNat byte.toNat)))

end Value

end Hotplug
