import Hotplug.Predicate.Token

/-!
# Why text is not a predicate
-/

namespace Hotplug

/-- What the grammar asks for at some place. -/
inductive Expectation where
  | expression
  | closing (bracket : Bracket)
  | capabilityName
  | dot
  | propertyName
  | operator
  | literal
  | endOfInput
  deriving DecidableEq, Repr

namespace Expectation

def display : Expectation → String
  | expression => "expression"
  | closing bracket => bracket.closing
  | capabilityName => "interface name"
  | dot => "'.'"
  | propertyName => "property name"
  | operator => "operator"
  | literal => "literal"
  | endOfInput => "end of input"

end Expectation

/-- The first thing that is wrong with a predicate text. -/
inductive PredicateError where
  | unexpectedChar (char : Char) (offset : Nat)
  | unterminatedText (offset : Nat)
  | invalidNumber (spelling : String) (offset : Nat)
  | unexpectedToken (expected : Expectation) (found : Token) (offset : Nat)
  /-- A bit mask test with a literal that is not an integer. -/
  | unsuitableMask (found : Value) (offset : Nat)
  | unexpectedEnd (expected : Expectation)
  | tooDeep (offset : Nat)
  | unknownCapability (name : String)
  deriving DecidableEq, Repr

namespace PredicateError

def message : PredicateError → String
  | unexpectedChar char offset =>
      "Unexpected character '" ++ char.toString ++ "' at offset " ++
        toString offset
  | unterminatedText offset =>
      "Unterminated string starting at offset " ++ toString offset
  | invalidNumber spelling offset =>
      "Invalid number '" ++ spelling ++ "' at offset " ++ toString offset
  | unexpectedToken expected found offset =>
      "Expected " ++ expected.display ++ ", found " ++
        found.display ++ " at offset " ++ toString offset
  | unsuitableMask found offset =>
      "Expected integer mask, found " ++ found.display ++ " at offset " ++
        toString offset
  | unexpectedEnd expected =>
      "Unexpected end of input, expected " ++ expected.display
  | tooDeep offset => "Groups nested too deeply at offset " ++ toString offset
  | unknownCapability name => (UnknownCapability.mk name).message

end PredicateError

end Hotplug
