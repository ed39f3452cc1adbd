import Hotplug.Predicate.Error
import Hotplug.Text.Blank
import Hotplug.Text.Digits
import Hotplug.Text.Letter

/-!
# From text to lexemes

Blanks separate lexemes and have no other meaning. Each lexeme takes the first
character and as many of the following ones as belong to it, so that lexemes lie
side by side in the text and nothing but blanks is left over.
-/

namespace Hotplug

namespace Lexeme

def isWordStart (c : Char) : Bool := Text.isAlphabetic c || c == '_'

def isWordPart (c : Char) : Bool := Text.isAlphanumeric c || c == '_'

/-- How many characters continue a number: digits, and at most one dot. -/
def numberLength : Bool → List Char → Nat
  | _, [] => 0
  | dotSeen, c :: rest =>
      if c.isDigit then numberLength dotSeen rest + 1
      else if c = '.' ∧ dotSeen = false then numberLength true rest + 1
      else 0

/-- The integer token of a magnitude, signed if it fits and unsigned
otherwise. -/
def integerToken? (negative : Bool) (magnitude : Nat) : Option Token :=
  if negative then
    if magnitude ≤ Word.signedLimit then
      some (.int (Int64.ofInt (-(magnitude : Int)))) else none
  else if magnitude < Word.signedLimit then some (.int (Int64.ofNat magnitude))
  else if magnitude < Word.unsignedLimit then
    some (.uint (UInt64.ofNat magnitude))
  else none

/-- The token of an unsigned number's spelling. A dot makes it a double, and one
digit there must be. -/
def numberToken? (negative : Bool) (body : List Char) : Option Token :=
  let whole := body.takeWhile (· != '.')
  match body.drop whole.length with
  | [] =>
      if whole.isEmpty then none else integerToken? negative
        (Text.Digits.read whole)
  | _ :: fraction =>
      if whole.isEmpty && fraction.isEmpty then none
      else
        some (.double
          (.ofDecimal negative (Text.Digits.read (whole ++ fraction))
            (-(fraction.length : Int))))

/-- A number that starts with a character, and the count of further ones it
takes. -/
def scanNumber (offset : Nat) (c : Char) (rest : List Char) :
    Except PredicateError (Token × Nat) :=
  let further := numberLength false rest
  let digits := rest.take further
  match numberToken? (c == '-') (if c = '-' then digits else c :: digits) with
  | some token => .ok (token, further)
  | none => .error (.invalidNumber (String.ofList (c :: digits)) offset)

/-- The token of a word; keywords may be written in any case. -/
def wordToken (spelling : List Char) : Token :=
  let upper := spelling.map Char.toUpper
  if upper = "AND".toList then .and
  else if upper = "OR".toList then .or
  else if upper = "IS".toList then .is
  else if upper = "TRUE".toList then .truth true
  else if upper = "FALSE".toList then .truth false
  else .word (String.ofList spelling)

/-- A text between quotes of one kind. There are no escapes, so the first quote
of the kind ends it. -/
def scanText (offset : Nat) (quote : Char) (rest : List Char) :
    Except PredicateError (Token × Nat) :=
  let content := rest.takeWhile (· != quote)
  if rest.contains quote then .ok (.text (String.ofList content),
    content.length + 1)
  else .error (.unterminatedText offset)

/-- An operator that may be followed by an equals sign, by what it is with and
without the sign. -/
def scanOperator (offset : Nat) (c : Char) (rest : List Char)
    (withEquals : Comparator) (alone : Option Comparator) :
    Except PredicateError (Token × Nat) :=
  if rest.head? = some '=' then .ok (.op withEquals, 1)
  else
    match alone with
    | some op => .ok (.op op, 0)
    | none => .error (.unexpectedChar c offset)

/-- The token that starts with a character which is no blank, and how many of
the following characters belong to it. -/
def scan (offset : Nat) (c : Char) (rest : List Char) :
    Except PredicateError (Token × Nat) :=
  if c = '(' then .ok (.opening .round, 0)
  else if c = ')' then .ok (.closing .round, 0)
  else if c = '[' then .ok (.opening .square, 0)
  else if c = ']' then .ok (.closing .square, 0)
  else if c = '.' then .ok (.dot, 0)
  else if c = '&' then .ok (.op .mask, 0)
  else if c = '=' then scanOperator offset c rest .eq none
  else if c = '!' then scanOperator offset c rest .ne none
  else if c = '<' then scanOperator offset c rest .le (some .lt)
  else if c = '>' then scanOperator offset c rest .ge (some .gt)
  else if c = '\'' ∨ c = '"' then scanText offset c rest
  else if c.isDigit ∨ c = '-' then scanNumber offset c rest
  else if isWordStart c then
    let part := rest.takeWhile isWordPart
    .ok (wordToken (c :: part), part.length)
  else .error (.unexpectedChar c offset)

def ofChars (offset : Nat) (cs : List Char) :
    Except PredicateError (List Lexeme) :=
  match cs with
  | [] => .ok []
  | c :: rest =>
      if Text.isBlank c then ofChars (offset + c.utf8Size) rest
      else do
        let (token, further) ← scan offset c rest
        let spelling := c :: rest.take further
        let later ← ofChars (offset + byteCount spelling) (rest.drop further)
        return ⟨token, spelling, offset⟩ :: later
  termination_by cs.length
  decreasing_by all_goals simp only [List.length_cons, List.length_drop]; omega

def ofText (text : String) : Except PredicateError (List Lexeme) :=
  ofChars 0 text.toList

end Lexeme

end Hotplug
