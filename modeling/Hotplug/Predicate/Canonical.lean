import Hotplug.Predicate

/-!
# Canonical predicate text

Every conjunction and disjunction stands between square brackets. A text literal
stands between apostrophes, unless it holds one itself. Spellings are lists of
characters, so that a run of operands is written in a time proportional to its
length.
-/

namespace Hotplug

namespace Predicate

def literalSpelling : Value → List Char
  | .text content =>
      let quote := if content.toList.contains '\'' then '"' else '\''
      quote :: (content.toList ++ [quote])
  | .double number => (DecimalLayout.literal.write number).toList
  | other => other.display.toList

mutual

def spelling : Predicate → List Char
  | empty => []
  | invalid => "<invalid>".toList
  | is capability => "IS ".toList ++ capability.name.toList
  | compare capability property op literal =>
      capability.name.toList ++
        '.' :: (property.toList ++
          ' ' :: (op.symbol.toList ++ ' ' :: literalSpelling literal))
  | all operands => '[' :: (joinedSpelling " AND ".toList operands ++ [']'])
  | any operands => '[' :: (joinedSpelling " OR ".toList operands ++ [']'])

def joinedSpelling (separator : List Char) : List Predicate → List Char
  | [] => []
  | operand :: rest => spelling operand ++ laterSpelling separator rest

/-- The spellings of operands with a separator before each. -/
def laterSpelling (separator : List Char) : List Predicate → List Char
  | [] => []
  | operand :: rest =>
      separator ++ (spelling operand ++ laterSpelling separator rest)

end

def render (predicate : Predicate) : String := String.ofList predicate.spelling

end Predicate

end Hotplug
