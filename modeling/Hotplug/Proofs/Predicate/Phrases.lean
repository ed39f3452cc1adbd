import Hotplug.Proofs.Predicate.Derivation

/-!
# What holds of all phrases

A property of phrases that the productions of the grammar keep holds of every
factor, of every expression and of every sentence.
-/

namespace Hotplug

namespace Predicate

variable {room : Nat} {shape : List Token} {predicate : Predicate}

theorem Separated.mono {separator : Token} {Operand Wider : Phrase}
    {predicates : List Predicate}
    (separated : Separated separator Operand shape predicates)
    (widens : ∀ tokens predicate, Operand tokens predicate →
      Wider tokens predicate) :
    Separated separator Wider shape predicates := by
  induction separated with
  | one operand => exact .one (widens _ _ operand)
  | more operand _ induction => exact .more (widens _ _ operand) induction

/-- The property, which may depend on how deep groups nest, is kept by each
production. -/
structure Closed (Holds : Nat → Phrase) : Prop where
  test : ∀ {room name capability}, Names name capability →
    Holds room [.is, .word name] (is capability)
  comparison : ∀ {room name property capability op token literal},
    Names name capability →
    Token.literal? token = some literal → Suits op literal →
    Holds room [.word name, .dot, .word property, .op op, token]
      (compare capability property op literal)
  group : ∀ {room bracket tokens predicate}, Holds room tokens predicate →
    Holds (room + 1) (.opening bracket :: (tokens ++ [.closing bracket]))
      predicate
  all : ∀ {room tokens predicates},
    Separated .and (Holds room) tokens predicates →
    2 ≤ predicates.length → Holds room tokens (all predicates)
  any : ∀ {room tokens predicates},
    Separated .or (Holds room) tokens predicates →
    2 ≤ predicates.length → Holds room tokens (any predicates)

namespace Closed

variable {Holds : Nat → Phrase}

theorem joined {separator : Token} {combine : List Predicate → Predicate}
    {Operand : Phrase}
    (joins : ∀ tokens predicates,
      Separated separator (Holds room) tokens predicates →
      2 ≤ predicates.length → Holds room tokens (combine predicates))
    (each : ∀ tokens predicate, Operand tokens predicate →
      Holds room tokens predicate)
    (joined : Joined separator combine Operand shape predicate) :
    Holds room shape predicate := by
  cases joined with
  | alone operand => exact each _ _ operand
  | several operands several => exact joins _ _ (operands.mono each) several

theorem expression (closed : Closed Holds) {Operand : Phrase}
    (each : ∀ tokens predicate, Operand tokens predicate →
      Holds room tokens predicate)
    (expression : Expression Operand shape predicate) :
    Holds room shape predicate :=
  joined (fun _ _ => closed.any)
    (fun _ _ => joined (fun _ _ => closed.all) each) expression

theorem factor (closed : Closed Holds) (factor : Factor room shape predicate) :
    Holds room shape predicate := by
  -- By induction on the room: a group has one level more than what is in it.
  induction room generalizing shape predicate with
  | zero =>
      cases factor with
      | group nothing => exact nothing.elim
      | test named => exact closed.test named
      | comparison named isLiteral suits =>
          exact closed.comparison named isLiteral suits
  | succ room induction =>
      cases factor with
      | group inner =>
          exact closed.group (closed.expression (fun _ _ => induction) inner)
      | test named => exact closed.test named
      | comparison named isLiteral suits =>
          exact closed.comparison named isLiteral suits

theorem sentence (closed : Closed Holds) (sentence : Sentence shape predicate) :
    shape = [] ∧ predicate = empty ∨ Holds groupLimit shape predicate := by
  cases sentence with
  | nothing => exact .inl ⟨rfl, rfl⟩
  | expression whole =>
      exact .inr (closed.expression (fun _ _ => closed.factor) whole)

end Closed

end Predicate

end Hotplug
