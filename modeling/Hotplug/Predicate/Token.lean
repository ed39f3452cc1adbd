import Hotplug.Predicate

/-!
# Tokens of predicate text
-/

namespace Hotplug

/-- The two kinds of brackets, which are interchangeable but close their own
kind. -/
inductive Bracket where
  | round
  | square
  deriving DecidableEq, Repr

namespace Bracket

def opening : Bracket → String
  | round => "'('"
  | square => "'['"

def closing : Bracket → String
  | round => "')'"
  | square => "']'"

end Bracket

/-- The smallest meaningful piece of predicate text. -/
inductive Token where
  | opening (bracket : Bracket)
  | closing (bracket : Bracket)
  | dot
  | and
  | or
  | is
  | truth (value : Bool)
  | op (operator : Comparator)
  | word (name : String)
  | text (content : String)
  | int (number : Int64)
  | uint (number : UInt64)
  | double (number : Binary64)
  deriving DecidableEq, Repr

namespace Token

/-- How a token is named in messages. -/
def display : Token → String
  | opening bracket => bracket.opening
  | closing bracket => bracket.closing
  | dot => "'.'"
  | and => "AND"
  | or => "OR"
  | is => "IS"
  | truth value => if value then "true" else "false"
  | op operator => "'" ++ operator.symbol ++ "'"
  | word name => "identifier '" ++ name ++ "'"
  | text content => "string '" ++ content ++ "'"
  | int number => "number " ++ toString number.toInt
  | uint number => "number " ++ toString number.toNat
  | double number => "number " ++ DecimalLayout.plain.write number

def literal? : Token → Option Value
  | truth value => some (.bool value)
  | text content => some (.text content)
  | int number => some (.int number)
  | uint number => some (.uint number)
  | double number => some (.double number)
  | _ => none

end Token

/-- A token with the characters it was read from and the byte they start at. -/
structure Lexeme where
  token : Token
  spelling : List Char
  offset : Nat
  deriving DecidableEq, Repr

namespace Lexeme

def byteCount (cs : List Char) : Nat :=
  cs.foldl (fun count c => count + c.utf8Size) 0

def stop (lexeme : Lexeme) : Nat := lexeme.offset + byteCount lexeme.spelling

end Lexeme

end Hotplug
