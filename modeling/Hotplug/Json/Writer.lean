import Hotplug.Json
import Hotplug.Text.Hex

/-!
# Writing JSON text

The compact form, without blanks. Only quotes, backslashes and control
characters are escaped.
-/

namespace Hotplug

namespace TextUnit

/-- A code by four lower case hexadecimal digits. -/
def writeCode (code : Nat) : List Char := ['\\', 'u'] ++ Text.Hex.write 4 code

def writeChar (c : Char) : List Char :=
  if c = '"' then ['\\', '"']
  else if c = '\\' then ['\\', '\\']
  else if c = '\x08' then ['\\', 'b']
  else if c = '\x0c' then ['\\', 'f']
  else if c = '\n' then ['\\', 'n']
  else if c = '\r' then ['\\', 'r']
  else if c = '\t' then ['\\', 't']
  else if c.toNat < 32 then writeCode c.toNat
  else [c]

def write : TextUnit → List Char
  | char c => writeChar c
  | half code => writeCode code

def writeAll (units : List TextUnit) : List Char :=
  '"' :: units.flatMap write ++ ['"']

end TextUnit

namespace JsonNumber

def writeExponent : Option (Bool × List Char) → List Char
  | none => []
  | some (below, digits) => 'e' :: (if below then ['-'] else []) ++ digits

def write (number : JsonNumber) : List Char :=
  (if number.negative then ['-'] else []) ++ number.whole
    ++ (if number.fraction.isEmpty then [] else '.' :: number.fraction)
    ++ writeExponent number.exponent

end JsonNumber

namespace Json

mutual

def writeChars : Json → List Char
  | null => "null".toList
  | bool truth => if truth then "true".toList else "false".toList
  | number digits => digits.write
  | text units => TextUnit.writeAll units
  | list [] => ['[', ']']
  | list (item :: rest) => '[' :: writeChars item ++ writeItems rest
  | object [] => ['\x7b', '\x7d']
  | object ((name, value) :: rest) =>
      '\x7b' :: TextUnit.writeAll name ++ ':' :: writeChars value ++
        writeFields rest

/-- The items after the first one, and the end of the list. -/
def writeItems : List Json → List Char
  | [] => [']']
  | item :: rest => ',' :: writeChars item ++ writeItems rest

/-- The fields after the first one, and the end of the object. -/
def writeFields : List (List TextUnit × Json) → List Char
  | [] => ['\x7d']
  | (name, value) :: rest =>
      ',' :: TextUnit.writeAll name ++ ':' :: writeChars value ++
        writeFields rest

end

def write (json : Json) : String := String.ofList json.writeChars

end Json

end Hotplug
