import Hotplug.Predicate.Lexeme

/-!
# From lexemes to predicates

``` expression := term (OR term)* term := factor (AND factor)* factor := '('
expression ')' | '[' expression ']' | IS Name | Name '.' word op literal ```

Every parser leaves strictly fewer lexemes than it was given. Groups may nest up
to a limit; a factor counts down the room that is left for them.
-/

namespace Hotplug

namespace Predicate

def groupLimit : Nat := 64

/-- What is left of lexemes after at least one of them was used. -/
abbrev Remainder
    (lexemes : List Lexeme) :=
      { rest : List Lexeme // rest.length < lexemes.length }

abbrev OperandParser :=
  (lexemes : List Lexeme) →
    Except PredicateError (Predicate × Remainder lexemes)

/-- The next lexeme, and what is left after it. -/
def next (expected : Expectation) (lexemes : List Lexeme) :
    Except PredicateError (Lexeme × Remainder lexemes) :=
  match lexemes with
  | [] => .error (.unexpectedEnd expected)
  | lexeme :: rest => .ok (lexeme, ⟨rest, by simp⟩)

def unexpected {α : Type} (expected : Expectation) (found : Lexeme) :
    Except PredicateError α :=
  .error (.unexpectedToken expected found.token found.offset)

def expect (token : Token) (expected : Expectation) (lexemes : List Lexeme) :
    Except PredicateError (Remainder lexemes) := do
  let (found, rest) ← next expected lexemes
  if found.token = token then return rest else unexpected expected found

/-- The capability of a name in a predicate, where the unknown one cannot be
named. -/
def capabilityNamed (name : String) : Except PredicateError Capability :=
  match Capability.ofName name with
  | .ok .unknown => .error (.unknownCapability name)
  | .ok capability => .ok capability
  | .error _ => .error (.unknownCapability name)

/-- The operands after the first one, each introduced by a separator. -/
def moreOperands (separator : Token) (operand : OperandParser)
    (lexemes : List Lexeme) :
    Except PredicateError
      (List Predicate ×
        { rest : List Lexeme // rest.length ≤ lexemes.length }) :=
  match lexemes with
  | [] => .ok ([], ⟨[], by simp⟩)
  | lexeme :: rest =>
      if lexeme.token = separator then do
        let (first, ⟨after, shorter⟩) ← operand rest
        let (others, ⟨final, noLonger⟩) ← moreOperands separator operand after
        return (first :: others,
          ⟨final, by simp only [List.length_cons]; omega⟩)
      else .ok ([], ⟨lexeme :: rest, by simp⟩)
  termination_by lexemes.length
  decreasing_by simp only [List.length_cons]; omega

/-- An operand alone is itself, and a longer run is joined. -/
def joined (combine : List Predicate → Predicate) (first : Predicate) :
    List Predicate → Predicate
  | [] => first
  | others => combine (first :: others)

/-- A run of operands between separators. -/
def chain (separator : Token) (combine : List Predicate → Predicate)
    (operand : OperandParser) : OperandParser :=
  fun lexemes => do
  let (first, ⟨after, shorter⟩) ← operand lexemes
  let (others, ⟨final, noLonger⟩) ← moreOperands separator operand after
  return (joined combine first others, ⟨final, by omega⟩)

/-- Factors joined by conjunctions, and those joined by disjunctions. -/
def expressionOf (factor : OperandParser) : OperandParser :=
  chain .or any (chain .and all factor)

/-- Whether an operator can be used with a literal. -/
def suits (op : Comparator) (literal : Value) : Bool :=
  op != .mask || literal.toInteger?.isSome

/-- A comparison after the name of its capability. -/
def comparisonOf (name : String) (lexemes : List Lexeme) :
    Except PredicateError (Predicate × Remainder lexemes) := do
  let capability ← capabilityNamed name
  let ⟨afterDot, _⟩ ← expect .dot .dot lexemes
  let (propertyLexeme, ⟨afterProperty, _⟩) ← next .propertyName afterDot
  match propertyLexeme.token with
  | .word property =>
      let (opLexeme, ⟨afterOp, _⟩) ← next .operator afterProperty
      match opLexeme.token with
      | .op op =>
          let (literalLexeme, ⟨final, _⟩) ← next .literal afterOp
          match literalLexeme.token.literal? with
          | some literal =>
              if suits op literal then
                return (compare capability property op literal,
                  ⟨final, by omega⟩)
              else .error (.unsuitableMask literal literalLexeme.offset)
          | none => unexpected .literal literalLexeme
      | _ => unexpected .operator opLexeme
  | _ => unexpected .propertyName propertyLexeme

/-- A capability test after its keyword. -/
def capabilityTest (lexemes : List Lexeme) :
    Except PredicateError (Predicate × Remainder lexemes) := do
  let (found, rest) ← next .capabilityName lexemes
  match found.token with
  | .word name => return (is (← capabilityNamed name), rest)
  | _ => unexpected .capabilityName found

/-- One factor, with room for so many levels of groups in it. -/
def factor : Nat → OperandParser
  | room, lexemes =>
      match lexemes with
      | [] => .error (.unexpectedEnd .expression)
      | first :: rest =>
          match first.token with
          | .opening bracket =>
              match room with
              | 0 => .error (.tooDeep first.offset)
              | room + 1 => do
                  let (inner, ⟨after, _⟩) ← expressionOf (factor room) rest
                  let ⟨final, _⟩ ← expect (.closing bracket)
                    (.closing bracket) after
                  return (inner,
                    ⟨final, by simp only [List.length_cons]; omega⟩)
          | .is => do
              let (test, ⟨final, _⟩) ← capabilityTest rest
              return (test, ⟨final, by simp only [List.length_cons]; omega⟩)
          | .word name => do
              let (comparison, ⟨final, _⟩) ← comparisonOf name rest
              return (comparison, ⟨final,
                by simp only [List.length_cons]; omega⟩)
          | _ => unexpected .expression first

def ofLexemes : List Lexeme → Except PredicateError Predicate
  | [] => .ok empty
  | lexemes => do
      let (predicate, ⟨rest, _⟩) ← expressionOf (factor groupLimit) lexemes
      match rest with
      | [] => return predicate
      | extra :: _ => unexpected .endOfInput extra

/-- The predicate of a text, or the first thing that is wrong with it. -/
def parse (text : String) : Except PredicateError Predicate := do
  ofLexemes (← Lexeme.ofText text)

/-- The predicate of a text; text that is none selects no device. -/
def parseOrInvalid (text : String) : Predicate :=
  match parse text with
  | .ok predicate => predicate
  | .error _ => invalid

end Predicate

end Hotplug
