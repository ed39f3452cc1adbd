/-!
# Reading bytes as text

Bytes are UTF-8 or they are not. Where text is needed in any case, each longest
piece that could have begun a character, but does not complete one, is replaced
by the replacement character.
-/

namespace Hotplug.Text

/-- The text that bytes encode, if they are valid UTF-8. -/
def decodeUtf8? (bytes : List UInt8) : Option String :=
  String.fromUTF8? bytes.toByteArray

/-- The character at the start of the bytes, if a complete one stands there. -/
def leadingChar? (bytes : List UInt8) : Option Char :=
  (bytes.take 4).toByteArray.utf8DecodeChar? 0

/-- The bytes that may follow a lead byte as the second of its character: fewer
for the leads of overlong forms, surrogates and code points out of range. -/
def secondRange (lead : UInt8) : Option (UInt8 × UInt8) :=
  if 0xC2 ≤ lead ∧ lead ≤ 0xDF then some (0x80, 0xBF)
  else if lead = 0xE0 then some (0xA0, 0xBF)
  else if lead = 0xED then some (0x80, 0x9F)
  else if 0xE1 ≤ lead ∧ lead ≤ 0xEF then some (0x80, 0xBF)
  else if lead = 0xF0 then some (0x90, 0xBF)
  else if 0xF1 ≤ lead ∧ lead ≤ 0xF3 then some (0x80, 0xBF)
  else if lead = 0xF4 then some (0x80, 0x8F)
  else none

def isContinuation (byte : UInt8) : Bool :=
  decide (0x80 ≤ byte) && decide (byte ≤ 0xBF)

/-- How many bytes one replacement character stands for, where no complete
character begins. -/
def brokenLength : List UInt8 → Nat
  | lead :: second :: rest =>
      match secondRange lead with
      | none => 1
      | some (least, greatest) =>
          if least ≤ second ∧ second ≤ greatest then
            match rest with
            | third :: _ => if isContinuation third then 3 else 2
            | [] => 2
          else 1
  | _ => 1

/-- The characters of bytes; what is no character becomes U+FFFD. -/
def decodeLossyChars (bytes : List UInt8) : List Char :=
  match bytes with
  | [] => []
  | byte :: rest =>
      match leadingChar? (byte :: rest) with
      | some c => c :: decodeLossyChars (rest.drop (c.utf8Size - 1))
      | none =>
          '\uFFFD' :: decodeLossyChars
            (rest.drop (brokenLength (byte :: rest) - 1))
  termination_by bytes.length
  decreasing_by all_goals simp only [List.length_drop, List.length_cons]; omega

def decodeLossy (bytes : List UInt8) : String :=
  String.ofList (decodeLossyChars bytes)

end Hotplug.Text
