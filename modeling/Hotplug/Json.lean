/-!
# JSON trees

A tree keeps what the text said: the digits of numbers, the halves of characters
that escapes name one by one, and fields that are repeated. What they mean is
decided where they are used, so that a part nobody looks at may hold what has no
meaning.
-/

namespace Hotplug

/-- A character of a JSON text, or one half of a character that needs two
escapes. -/
inductive TextUnit where
  | char (c : Char)
  | half (code : Nat)
  deriving DecidableEq, Repr

namespace TextUnit

/-- The character of a leading and a trailing half. -/
def join? (leading trailing : Nat) : Option Char :=
  if 0xD800 ≤ leading ∧ leading ≤ 0xDBFF ∧ 0xDC00 ≤ trailing ∧
      trailing ≤ 0xDFFF then
    some (Char.ofNat (0x10000 + (leading - 0xD800) * 0x400 +
      (trailing - 0xDC00)))
  else none

/-- The characters of a text in which every half has its partner. -/
def chars? : List TextUnit → Option (List Char)
  | [] => some []
  | char c :: rest => (chars? rest).map (c :: ·)
  | half leading :: half trailing :: rest =>
      match join? leading trailing with
      | some c => (chars? rest).map (c :: ·)
      | none => none
  | half _ :: _ => none

def toText? (units : List TextUnit) : Option String :=
  (chars? units).map String.ofList

def ofText (s : String) : List TextUnit := s.toList.map char

end TextUnit

/-- The digits of a JSON number as they were written. -/
structure JsonNumber where
  negative : Bool
  whole : List Char
  fraction : List Char
  /-- Whether the exponent is negative, and its digits. -/
  exponent : Option (Bool × List Char)
  deriving DecidableEq, Repr

namespace JsonNumber

def ofNat (n : Nat) : JsonNumber := ⟨false, Nat.toDigits 10 n, [], none⟩

def ofInt (n : Int) : JsonNumber :=
  ⟨decide (n < 0), Nat.toDigits 10 n.natAbs, [], none⟩

end JsonNumber

/-- What a JSON text describes. -/
inductive Json where
  | null
  | bool (truth : Bool)
  | number (number : JsonNumber)
  | text (units : List TextUnit)
  | list (items : List Json)
  | object (fields : List (List TextUnit × Json))
  deriving Repr, Inhabited

namespace Json

def ofText (s : String) : Json := text (TextUnit.ofText s)

def ofTexts (items : List String) : Json := list (items.map ofText)

/-- An object with plain names for its fields. -/
def record (fields : List (String × Json)) : Json :=
  object (fields.map fun field => (TextUnit.ofText field.1, field.2))

def toText? : Json → Option String
  | text units => TextUnit.toText? units
  | _ => none

end Json

end Hotplug
