import Hotplug.Json
import Hotplug.Text.Hex

/-!
# Reading JSON text

The text is cut into tokens, and a machine with a stack of unfinished lists and
objects takes them one by one. Only what the grammar allows is read: no
comments, no trailing commas, no bare control characters in texts.
-/

namespace Hotplug

/-- The smallest meaningful piece of JSON text. -/
inductive JsonToken where
  | openList
  | closeList
  | openObject
  | closeObject
  | comma
  | colon
  | null
  | bool (truth : Bool)
  | number (number : JsonNumber)
  | text (units : List TextUnit)
  deriving DecidableEq, Repr

namespace JsonToken

def isBlank (c : Char) : Bool := c == ' ' || c == '\t' || c == '\n' || c == '\r'

/-- The unit of an escape by code. -/
def codeUnit? (a b c d : Char) : Option TextUnit := do
  let code ← Text.Hex.read? [a, b, c, d]
  return if 0xD800 ≤ code ∧ code ≤ 0xDFFF then .half code
    else .char (Char.ofNat code)

/-- The character of a short escape. -/
def shortEscape? (c : Char) : Option Char :=
  if c = '"' ∨ c = '\\' ∨ c = '/' then some c
  else if c = 'b' then some '\x08'
  else if c = 'f' then some '\x0c'
  else if c = 'n' then some '\n'
  else if c = 'r' then some '\r'
  else if c = 't' then some '\t'
  else none

/-- The units of a text after its opening quote, and the number of characters up
to and with the closing one. -/
def textUnits? : List Char → Option (List TextUnit × Nat)
  | [] => none
  | '"' :: _ => some ([], 1)
  | '\\' :: 'u' :: a :: b :: c :: d :: rest => do
      let unit ← codeUnit? a b c d
      let (units, count) ← textUnits? rest
      return (unit :: units, count + 6)
  | '\\' :: escaped :: rest => do
      let c ← shortEscape? escaped
      let (units, count) ← textUnits? rest
      return (.char c :: units, count + 2)
  | c :: rest =>
      if c = '\\' ∨ c.toNat < 32 then none
      else do
        let (units, count) ← textUnits? rest
        return (.char c :: units, count + 1)

/-- The digits after a point, if a point comes next; one digit there must be. -/
def fractionDigits? : List Char → Option (List Char)
  | '.' :: rest =>
      let digits := rest.takeWhile Char.isDigit
      if digits.isEmpty then none else some digits
  | _ => some []

/-- Whether an exponent mark has a sign, and which one. -/
def exponentSign : List Char → Bool × Nat
  | '-' :: _ => (true, 1)
  | '+' :: _ => (false, 1)
  | _ => (false, 0)

/-- The exponent, if a mark comes next, and the number of its characters. -/
def exponentPart? : List Char → Option (Option (Bool × List Char) × Nat)
  | [] => some (none, 0)
  | mark :: rest =>
      if mark = 'e' ∨ mark = 'E' then
        let (below, signs) := exponentSign rest
        let digits := (rest.drop signs).takeWhile Char.isDigit
        if digits.isEmpty then none else
          some (some (below, digits), 1 + signs + digits.length)
      else some (none, 0)

/-- The digits before the point: a zero alone, or digits that do not start with
one. -/
def wholeDigits : List Char → List Char
  | '0' :: _ => ['0']
  | cs => cs.takeWhile Char.isDigit

/-- An unsigned number at the start of characters, and how many it takes. -/
def unsignedNumber? (negative : Bool) (cs : List Char) :
    Option (JsonNumber × Nat) := do
  let whole := wholeDigits cs
  if whole.isEmpty then none
  else
    let afterWhole := cs.drop whole.length
    let fraction ← fractionDigits? afterWhole
    let fractionLength := if fraction.isEmpty then 0 else fraction.length + 1
    let (exponent, exponentLength) ← exponentPart?
      (afterWhole.drop fractionLength)
    return (⟨negative, whole, fraction, exponent⟩,
      whole.length + fractionLength + exponentLength)

/-- A keyword without its first character. -/
def keyword? (token : JsonToken) (tail : String) (rest : List Char) :
    Option (JsonToken × Nat) :=
  if tail.toList.isPrefixOf rest then some (token, tail.toList.length) else none

/-- The token that starts with a character, and how many of the following ones
belong to it. -/
def scan? (c : Char) (rest : List Char) : Option (JsonToken × Nat) :=
  if c = '[' then some (openList, 0)
  else if c = ']' then some (closeList, 0)
  else if c = '\x7b' then some (openObject, 0)
  else if c = '\x7d' then some (closeObject, 0)
  else if c = ',' then some (comma, 0)
  else if c = ':' then some (colon, 0)
  else if c = 'n' then keyword? null "ull" rest
  else if c = 't' then keyword? (bool true) "rue" rest
  else if c = 'f' then keyword? (bool false) "alse" rest
  else if c = '"' then (textUnits? rest).map
    fun (units, count) => (text units, count)
  else if c = '-' then
    (unsignedNumber? true rest).map fun (digits, count) =>
      (number digits, count)
  else
    (unsignedNumber? false (c :: rest)).map fun (digits, count) =>
      (number digits, count - 1)

def ofChars? (cs : List Char) : Option (List JsonToken) :=
  match cs with
  | [] => some []
  | c :: rest =>
      if isBlank c then ofChars? rest
      else do
        let (token, further) ← scan? c rest
        let later ← ofChars? (rest.drop further)
        return token :: later
  termination_by cs.length
  decreasing_by all_goals simp only [List.length_cons, List.length_drop]; omega

end JsonToken

namespace Json

/-- A list or object that is not complete, with its parts so far, the last one
first. -/
inductive Frame where
  | list (items : List Json)
  /-- The value of the named field comes next. -/
  | field (fields : List (List TextUnit × Json)) (name : List TextUnit)

/-- What may come next inside the innermost frame. -/
inductive Stage where
  | value
  /-- A first item, or the end of an empty list. -/
  | firstItem
  /-- A first field, or the end of an empty object. -/
  | firstField
  | nextField (fields : List (List TextUnit × Json))
  | colon (fields : List (List TextUnit × Json)) (name : List TextUnit)
  | complete (value : Json)

/-- Where reading stands. -/
structure Reading where
  frames : List Frame
  stage : Stage

namespace Reading

/-- A token where a value is due. -/
def value? (frames : List Frame) : JsonToken → Option Reading
  | .null => some ⟨frames, .complete null⟩
  | .bool truth => some ⟨frames, .complete (bool truth)⟩
  | .number digits => some ⟨frames, .complete (number digits)⟩
  | .text units => some ⟨frames, .complete (text units)⟩
  | .openList => some ⟨frames, .firstItem⟩
  | .openObject => some ⟨frames, .firstField⟩
  | _ => none

/-- A token after a complete value. -/
def after? (finished : Json) : List Frame → JsonToken → Option Reading
  | .list items :: frames, .comma =>
      some ⟨.list (finished :: items) :: frames, .value⟩
  | .list items :: frames, .closeList =>
      some ⟨frames, .complete (list (finished :: items).reverse)⟩
  | .field fields name :: frames, .comma =>
      some ⟨frames, .nextField ((name, finished) :: fields)⟩
  | .field fields name :: frames, .closeObject =>
      some ⟨frames, .complete (object ((name, finished) :: fields).reverse)⟩
  | _, _ => none

/-- One step of reading. -/
def step? (reading : Reading) (token : JsonToken) : Option Reading :=
  match reading.stage, token with
  | .value, token => value? reading.frames token
  | .firstItem, .closeList => some ⟨reading.frames, .complete (list [])⟩
  | .firstItem, token => value? (.list [] :: reading.frames) token
  | .firstField, .closeObject => some ⟨reading.frames, .complete (object [])⟩
  | .firstField, .text name => some ⟨reading.frames, .colon [] name⟩
  | .nextField fields, .text name => some ⟨reading.frames, .colon fields name⟩
  | .colon fields name, .colon =>
      some ⟨.field fields name :: reading.frames, .value⟩
  | .complete finished, token => after? finished reading.frames token
  | _, _ => none

def result? (reading : Reading) : Option Json :=
  match reading.frames, reading.stage with
  | [], .complete finished => some finished
  | _, _ => none

end Reading

/-- The tree of tokens that describe exactly one value. -/
def ofTokens? (tokens : List JsonToken) : Option Json := do
  (← tokens.foldlM Reading.step? ⟨[], .value⟩).result?

def read? (s : String) : Option Json := do
  ofTokens? (← JsonToken.ofChars? s.toList)

end Json

end Hotplug
