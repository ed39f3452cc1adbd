import Hotplug.Proofs.Predicate.Shape

/-!
# What tokens mean

The grammar of predicates as a relation between tokens and predicates. It is
given without a parser: a phrase is split in whichever way its production
allows. The parser turns out to accept exactly the sentences of the grammar,
each with its one meaning.
-/

namespace Hotplug

@[simp] theorem ok_bind {ε α β : Type} (answer : α) (next : α → Except ε β) :
    (Except.ok answer >>= next) = next answer := rfl

namespace Predicate

/-- A kind of phrase: which tokens are one, and what they mean. -/
abbrev Phrase : Type := List Token → Predicate → Prop

/-- The name is that of the capability, in any case. The unknown capability
cannot be named. -/
def Names (name : String) (capability : Capability) : Prop :=
  capability ≠ .unknown ∧ Text.lowered name = Text.lowered capability.name

/-- A mask is tested with integers only. -/
def Suits (op : Comparator) (literal : Value) : Prop :=
  op = .mask → (∃ number, literal = .int number) ∨ ∃ number,
    literal = .uint number

/-- One operand or more, with a separator between any two. -/
inductive Separated (separator : Token) (Operand : Phrase) :
    List Token → List Predicate → Prop
  | one {tokens : List Token} {predicate : Predicate}
    (operand : Operand tokens predicate) :
      Separated separator Operand tokens [predicate]
  | more {tokens later : List Token} {predicate : Predicate}
    {predicates : List Predicate} (operand : Operand tokens predicate)
      (others : Separated separator Operand later predicates) :
      Separated separator Operand (tokens ++ separator :: later)
        (predicate :: predicates)

/-- A run of one operand means the operand, and a longer one all of them
joined. -/
inductive Joined (separator : Token) (combine : List Predicate → Predicate)
    (Operand : Phrase) : Phrase
  | alone {tokens : List Token} {predicate : Predicate}
    (operand : Operand tokens predicate) :
      Joined separator combine Operand tokens predicate
  | several {tokens : List Token} {predicates : List Predicate}
      (operands : Separated separator Operand tokens predicates)
      (length : 2 ≤ predicates.length) :
      Joined separator combine Operand tokens (combine predicates)

def Term (Factor : Phrase) : Phrase := Joined .and all Factor

def Expression (Factor : Phrase) : Phrase := Joined .or any (Term Factor)

/-- A group of something, a capability test or a comparison. -/
inductive FactorOf (Inner : Phrase) : Phrase
  | group {bracket : Bracket} {tokens : List Token} {predicate : Predicate}
      (inner : Inner tokens predicate) :
      FactorOf Inner (.opening bracket :: (tokens ++ [.closing bracket]))
        predicate
  | test {name : String} {capability : Capability}
    (named : Names name capability) :
      FactorOf Inner [.is, .word name] (is capability)
  | comparison {name property : String} {capability : Capability}
    {op : Comparator} {token : Token} {literal : Value}
      (named : Names name capability)
      (isLiteral : token.literal? = some literal) (suits : Suits op literal) :
      FactorOf Inner [.word name, .dot, .word property, .op op, token]
        (compare capability property op literal)

/-- A factor whose groups nest at most so deep. -/
def Factor : Nat → Phrase
  | 0 => FactorOf fun _ _ => False
  | depth + 1 => FactorOf (Expression (Factor depth))

/-- Nothing at all, or an expression whose groups do not nest too deep. -/
inductive Sentence : Phrase
  | nothing : Sentence [] empty
  | expression {tokens : List Token} {predicate : Predicate}
      (whole : Expression (Factor groupLimit) tokens predicate) :
        Sentence tokens predicate

/-- The tokens of lexemes, which is all that matters to the grammar. -/
def tokens (lexemes : List Lexeme) : List Token := lexemes.map Lexeme.token

@[simp] theorem tokens_nil : tokens [] = [] := rfl

@[simp] theorem tokens_cons {lexeme : Lexeme} {lexemes : List Lexeme} :
    tokens (lexeme :: lexemes) = lexeme.token :: tokens lexemes :=
  rfl

@[simp] theorem tokens_append {lexemes later : List Lexeme} :
    tokens (lexemes ++ later) = tokens lexemes ++
      tokens later := List.map_append

section Words

theorem lookup_byLoweredName (capability : Capability) :
    Capability.byLoweredName.lookup (Text.lowered capability.name) =
      some capability := by
  cases capability <;> decide +kernel

theorem ofName_eq_ok_iff {name : String} {capability : Capability} :
    Capability.ofName name = .ok capability ↔
      Text.lowered name = Text.lowered capability.name := by
  unfold Capability.ofName
  constructor
  · intro found
    split at found
    · next held lookup =>
        cases found
        obtain ⟨_, _, split, _⟩ := List.lookup_eq_some_iff.mp lookup
        have member : (Text.lowered name, capability) ∈
            Capability.byLoweredName := by
          rw [split]
          simp
        obtain ⟨other, _, same⟩ := List.mem_map.mp member
        obtain ⟨lowered, rfl⟩ := Prod.mk.inj same
        exact lowered.symm
    · cases found
  · intro same
    rw [same, lookup_byLoweredName]

theorem capabilityNamed_eq_ok_iff {name : String} {capability : Capability} :
    capabilityNamed name = .ok capability ↔ Names name capability := by
  constructor
  · intro named
    refine ⟨capabilityNamed_ne_unknown named, ofName_eq_ok_iff.mp ?_⟩
    unfold capabilityNamed at named
    split at named
    · cases named
    · next found =>
        cases named
        exact found
    · cases named
  · intro named
    obtain ⟨known, same⟩ := named
    simp only [capabilityNamed, ofName_eq_ok_iff.mpr same]

theorem suits_iff {op : Comparator} {literal : Value} :
    suits op literal = true ↔ Suits op literal := by
  unfold suits Suits
  cases literal <;> simp [Value.toInteger?]

end Words

section Pieces

variable {expected : Expectation} {lexemes rest : List Lexeme} {found : Lexeme}

theorem next_eq_ok_iff {after : Remainder lexemes} :
    next expected lexemes = .ok (found, after) ↔ lexemes =
      found :: after.1 := by
  cases lexemes with
  | nil => simp [next]
  | cons lexeme later =>
      obtain ⟨after, shorter⟩ := after
      simp [next]

theorem expect_eq_ok_iff {token : Token} {after : Remainder lexemes} :
    expect token expected lexemes = .ok after ↔
      ∃ found : Lexeme, found.token = token ∧ lexemes = found :: after.1 := by
  constructor
  · intro parsed
    obtain ⟨⟨found, rest⟩, isNext, parsed⟩ := exists_of_bind_eq_ok parsed
    dsimp only at parsed
    split at parsed
    · next same =>
        cases parsed
        exact ⟨found, same, next_eq_ok_iff.mp isNext⟩
    · cases parsed
  · intro given
    obtain ⟨found, same, split⟩ := given
    rw [expect, next_eq_ok_iff.mpr split]
    exact if_pos same

theorem capabilityTest_eq_ok_iff {predicate : Predicate} :
    (∃ shorter, capabilityTest lexemes = .ok (predicate, ⟨rest, shorter⟩)) ↔
      ∃ name capability, ∃ found : Lexeme, lexemes = found :: rest ∧
        found.token = .word name ∧ Names name capability ∧ predicate =
          is capability := by
  constructor
  · intro given
    obtain ⟨shorter, parsed⟩ := given
    obtain ⟨⟨found, after⟩, isNext, parsed⟩ := exists_of_bind_eq_ok parsed
    dsimp only at parsed
    split at parsed
    · next name isWord =>
        obtain ⟨capability, named, parsed⟩ := exists_of_bind_eq_ok parsed
        cases parsed
        exact ⟨name, capability, found, next_eq_ok_iff.mp isNext, isWord,
          capabilityNamed_eq_ok_iff.mp named, rfl⟩
    · cases parsed
  · intro given
    obtain ⟨name, capability, found, rfl, isWord, named, rfl⟩ := given
    refine ⟨by simp, ?_⟩
    simp only [capabilityTest, next, ok_bind, isWord,
      capabilityNamed_eq_ok_iff.mpr named]
    rfl

theorem comparisonOf_eq_ok_iff {name : String} {predicate : Predicate} :
    (∃ shorter, comparisonOf name lexemes = .ok (predicate, ⟨rest, shorter⟩)) ↔
      ∃ capability property op literal, ∃ dot word operator last : Lexeme,
        lexemes = dot :: word :: operator :: last :: rest ∧
        dot.token = .dot ∧ word.token = .word property ∧
          operator.token = .op op ∧
        last.token.literal? = some literal ∧ Names name capability ∧
          Suits op literal ∧
        predicate = compare capability property op literal := by
  constructor
  · intro given
    obtain ⟨shorter, parsed⟩ := given
    obtain ⟨capability, named, parsed⟩ := exists_of_bind_eq_ok parsed
    obtain ⟨⟨afterDot, _⟩, isDot, parsed⟩ := exists_of_bind_eq_ok parsed
    obtain ⟨dot, dotToken, whole⟩ := expect_eq_ok_iff.mp isDot
    obtain ⟨⟨word, afterWord, _⟩, isNext, parsed⟩ := exists_of_bind_eq_ok parsed
    have fromWord := next_eq_ok_iff.mp isNext
    dsimp only at parsed
    split at parsed
    · next property isWord =>
        obtain ⟨⟨operator, afterOp, _⟩, isNext, parsed⟩ :=
          exists_of_bind_eq_ok parsed
        have fromOp := next_eq_ok_iff.mp isNext
        dsimp only at parsed
        split at parsed
        · next op isOp =>
            obtain ⟨⟨last, final, _⟩, isNext, parsed⟩ :=
              exists_of_bind_eq_ok parsed
            have fromLast := next_eq_ok_iff.mp isNext
            dsimp only at parsed
            split at parsed
            · next literal isLiteral =>
                split at parsed
                · next suited =>
                    cases parsed
                    dsimp only at whole fromWord fromOp fromLast
                    rw [fromLast] at fromOp
                    rw [fromOp] at fromWord
                    rw [fromWord] at whole
                    exact ⟨capability, property, op, literal, dot, word,
                      operator, last, whole,
                      dotToken, isWord, isOp, isLiteral,
                        capabilityNamed_eq_ok_iff.mp named,
                      suits_iff.mp suited, rfl⟩
                · cases parsed
            · cases parsed
        · cases parsed
    · cases parsed
  · intro given
    obtain ⟨capability, property, op, literal, dot, word, operator, last,
      rfl, isDot, isWord, isOp, isLiteral, named, suited, rfl⟩ := given
    refine ⟨by simp; omega, ?_⟩
    simp only [comparisonOf, expect, next, ok_bind, pure_bind, isDot,
      isWord, isOp, isLiteral,
      capabilityNamed_eq_ok_iff.mpr named, suits_iff.mpr suited, if_pos]
    rfl

end Pieces

section Parsers

/-- The parser reads exactly the operands that are followed by something which
ends them, and leaves what follows. -/
def OperandParser.Accepts (parser : OperandParser) (Operand : Phrase)
    (Ends : List Token → Prop) : Prop :=
  ∀ lexemes predicate rest,
    (∃ shorter, parser lexemes = .ok (predicate, ⟨rest, shorter⟩)) ↔
      ∃ used, lexemes = used ++ rest ∧ Operand (tokens used) predicate ∧
        Ends (tokens rest)

variable {separator : Token} {combine : List Predicate → Predicate}
  {operand : OperandParser} {Operand : Phrase} {Ends : List Token → Prop}

/-- The operands after the first one, each with a separator before it. -/
inductive Later (separator : Token) (Operand : Phrase) :
    List Token → List Predicate → Prop
  | none : Later separator Operand [] []
  | more {tokens later : List Token} {predicate : Predicate}
    {predicates : List Predicate}
      (operand : Operand tokens predicate)
        (others : Later separator Operand later predicates) :
      Later separator Operand (separator :: (tokens ++ later))
        (predicate :: predicates)

theorem separated_iff {tokens : List Token} {predicates : List Predicate} :
    Separated separator Operand tokens predicates ↔
      ∃ first later predicate others, tokens = first ++ later ∧
        predicates = predicate :: others ∧ Operand first predicate ∧
        Later separator Operand later others := by
  constructor
  · intro separated
    induction separated with
    | @one tokens predicate operand =>
        exact ⟨tokens, [], predicate, [], by simp, rfl, operand, .none⟩
    | @more tokens later predicate predicates operand others induction =>
        obtain ⟨second, last, next, final, rfl, rfl, isNext, isFinal⟩ :=
          induction
        exact ⟨tokens, _, predicate, _, rfl, rfl, operand, .more isNext isFinal⟩
  · intro given
    obtain ⟨first, later, predicate, others, rfl, rfl, operand, isLater⟩ :=
      given
    induction isLater generalizing first predicate with
    | none =>
        rw [List.append_nil]
        exact .one operand
    | more next _ induction => exact .more operand (induction _ _ next)

theorem joined_iff {tokens : List Token} {predicate : Predicate} :
    Joined separator combine Operand tokens predicate ↔
      ∃ first later one others, tokens = first ++ later ∧ Operand first one ∧
        Later separator Operand later others ∧ predicate =
          joined combine one others := by
  constructor
  · intro given
    cases given with
    | alone operand =>
        exact ⟨tokens, [], predicate, [], by simp, operand, .none, rfl⟩
    | several operands length =>
        obtain ⟨first, later, one, others, rfl, rfl, operand, isLater⟩ :=
          separated_iff.mp operands
        refine ⟨first, later, one, others, rfl, operand, isLater, ?_⟩
        cases isLater with
        | none => simp at length
        | more _ _ => rfl
  · intro given
    obtain ⟨first, later, one, others, rfl, operand, isLater, rfl⟩ := given
    cases isLater with
    | none =>
        rw [List.append_nil]
        exact .alone operand
    | more next last =>
        exact .several (separated_iff.mpr ⟨_, _, _, _, rfl, rfl,
          operand, .more next last⟩) (by simp)

theorem ends_later (separates : ∀ after, Ends (separator :: after))
    {later rest : List Token} {others : List Predicate}
    (isLater : Later separator Operand later others) (ended : Ends rest) :
    Ends (later ++ rest) := by
  cases isLater with
  | none => exact ended
  | more _ _ => exact separates _

theorem later_of_moreOperands (accepts : operand.Accepts Operand Ends)
    {lexemes rest : List Lexeme} {others : List Predicate}
    {noLonger : rest.length ≤ lexemes.length} (ended : Ends (tokens lexemes))
    (parsed : moreOperands separator operand lexemes =
      .ok (others, ⟨rest, noLonger⟩)) :
    ∃ used, lexemes = used ++ rest ∧
      Later separator Operand (tokens used) others ∧
      Ends (tokens rest) ∧ (tokens rest).head? ≠ some separator := by
  induction lexemes using moreOperands.induct separator generalizing others with
  | case1 =>
      rw [moreOperands] at parsed
      cases parsed
      exact ⟨[], rfl, .none, ended, by simp⟩
  | case2 lexeme after isSeparator induction =>
      rw [moreOperands, if_pos isSeparator] at parsed
      obtain ⟨⟨first, middle, shorter⟩, firstParsed, parsed⟩ :=
        exists_of_bind_eq_ok parsed
      obtain ⟨⟨later, final, noLonger⟩, laterParsed, parsed⟩ :=
        exists_of_bind_eq_ok parsed
      cases parsed
      obtain ⟨used, rfl, isOperand, middleEnds⟩ :=
        (accepts _ _ _).mp ⟨_, firstParsed⟩
      obtain ⟨last, rfl, isLater, restEnds, notSeparator⟩ :=
        induction _ shorter middleEnds laterParsed
      refine ⟨lexeme :: (used ++ last), by simp, ?_, restEnds, notSeparator⟩
      rw [tokens_cons, tokens_append, isSeparator]
      exact .more isOperand isLater
  | case3 lexeme after otherwise =>
      rw [moreOperands, if_neg otherwise] at parsed
      cases parsed
      exact ⟨[], rfl, .none, ended, by simpa using otherwise⟩

theorem moreOperands_of_later (accepts : operand.Accepts Operand Ends)
    (separates : ∀ after, Ends (separator :: after)) {later : List Token}
    {others : List Predicate} (isLater : Later separator Operand later others)
    {used rest : List Lexeme} (isUsed : tokens used = later)
    (ended : Ends (tokens rest))
    (notSeparator : (tokens rest).head? ≠ some separator) :
    ∃ noLonger, moreOperands separator operand (used ++ rest) =
      .ok (others, ⟨rest, noLonger⟩) := by
  induction isLater generalizing used with
  | none =>
      obtain rfl := List.map_eq_nil_iff.mp isUsed
      rw [List.nil_append]
      refine ⟨Nat.le_refl _, ?_⟩
      cases rest with
      | nil => rw [moreOperands]
      | cons lexeme rest =>
          rw [moreOperands, if_neg (by simpa using notSeparator)]
  | @more first later predicate predicates isOperand isLater induction =>
      obtain ⟨lexeme, remaining, rfl, isSeparator, isUsed⟩ :=
        List.map_eq_cons_iff.mp isUsed
      obtain ⟨used, last, rfl, rfl, isLast⟩ := List.map_eq_append_iff.mp isUsed
      have afterEnds : Ends (tokens (last ++ rest)) := by
        rw [tokens_append]
        exact ends_later separates (isLast ▸ isLater) ended
      obtain ⟨shorter, parsed⟩ :=
        (accepts (used ++ (last ++ rest)) predicate (last ++ rest)).mpr
          ⟨used, rfl, isOperand, afterEnds⟩
      obtain ⟨noLonger, parsedLater⟩ := induction isLast
      rw [List.cons_append, List.append_assoc]
      refine ⟨by simp; omega, ?_⟩
      rw [moreOperands, if_pos isSeparator, parsed, ok_bind]
      dsimp only
      rw [parsedLater]
      rfl

/-- A run of operands ends where its last operand does, if no separator
follows. -/
theorem accepts_chain (accepts : operand.Accepts Operand Ends)
    (separates : ∀ after, Ends (separator :: after)) :
    (chain separator combine operand).Accepts (Joined separator combine Operand)
      fun rest => Ends rest ∧ rest.head? ≠ some separator := by
  intro lexemes predicate rest
  constructor
  · intro given
    obtain ⟨shorter, parsed⟩ := given
    obtain ⟨⟨first, after, _⟩, firstParsed, parsed⟩ :=
      exists_of_bind_eq_ok parsed
    obtain ⟨⟨others, final, _⟩, othersParsed, parsed⟩ :=
      exists_of_bind_eq_ok parsed
    cases parsed
    obtain ⟨used, rfl, isOperand, afterEnds⟩ :=
      (accepts _ _ _).mp ⟨_, firstParsed⟩
    obtain ⟨last, rfl, isLater, restEnds, notSeparator⟩ :=
      later_of_moreOperands accepts afterEnds othersParsed
    refine ⟨used ++ last, by simp, ?_, restEnds, notSeparator⟩
    exact joined_iff.mpr ⟨_, _, _, _, tokens_append, isOperand, isLater, rfl⟩
  · intro given
    obtain ⟨used, rfl, isJoined, restEnds, notSeparator⟩ := given
    obtain ⟨first, later, one, others, split, isOperand, isLater, rfl⟩ :=
      joined_iff.mp isJoined
    obtain ⟨used, last, rfl, rfl, isLast⟩ := List.map_eq_append_iff.mp split
    have afterEnds : Ends (tokens (last ++ rest)) := by
      rw [tokens_append]
      exact ends_later separates (isLast ▸ isLater) restEnds
    obtain ⟨shorter, firstParsed⟩ :=
      (accepts (used ++ (last ++ rest)) one (last ++ rest)).mpr
        ⟨used, rfl, isOperand, afterEnds⟩
    obtain ⟨noLonger, othersParsed⟩ :=
      moreOperands_of_later accepts separates isLater isLast
        restEnds notSeparator
    rw [List.append_assoc]
    refine ⟨by omega, ?_⟩
    rw [chain, firstParsed, ok_bind]
    dsimp only
    rw [othersParsed]
    rfl

/-- What follows an expression is no separator. -/
def EndsExpression (rest : List Token) : Prop :=
  rest.head? ≠ some .and ∧ rest.head? ≠ some .or

theorem accepts_expressionOf {factor : OperandParser} {Factor : Phrase}
    (accepts : factor.Accepts Factor fun _ => True) :
    (expressionOf factor).Accepts (Expression Factor) EndsExpression := by
  intro lexemes predicate rest
  have acceptsTerm : (chain .and all factor).Accepts (Term Factor) _ :=
    accepts_chain accepts fun _ => trivial
  have acceptsExpression : (expressionOf factor).Accepts
      (Expression Factor) _ :=
    accepts_chain acceptsTerm fun _ => ⟨trivial, by simp⟩
  have accepted := acceptsExpression lexemes predicate rest
  simp only [true_and] at accepted
  exact accepted

section Factors

variable {room : Nat} {first : Lexeme} {after rest : List Lexeme}
  {predicate : Predicate}

theorem factor_opening_eq_ok_iff {bracket : Bracket}
    (isOpening : first.token = .opening bracket)
    (accepts : ∀ inner, inner < room → (factor inner).Accepts (Factor inner)
      fun _ => True) :
    (∃ shorter, factor room (first :: after) =
      .ok (predicate, ⟨rest, shorter⟩)) ↔
      ∃ inner inside, ∃ last : Lexeme, room = inner + 1 ∧
        after = inside ++ last :: rest ∧ last.token = .closing bracket ∧
        Expression (Factor inner) (tokens inside) predicate := by
  cases room with
  | zero => simp [factor, isOpening]
  | succ inner =>
      have accepted := accepts_expressionOf (accepts inner (by omega))
      constructor
      · intro given
        obtain ⟨shorter, parsed⟩ := given
        simp only [factor, isOpening] at parsed
        obtain ⟨⟨group, middle, _⟩, grouped, parsed⟩ :=
          exists_of_bind_eq_ok parsed
        obtain ⟨⟨final, _⟩, closes, parsed⟩ := exists_of_bind_eq_ok parsed
        cases parsed
        obtain ⟨last, isClosing, split⟩ := expect_eq_ok_iff.mp closes
        obtain ⟨inside, whole, isInside, _⟩ := (accepted _ _ _).mp ⟨_, grouped⟩
        dsimp only at split
        rw [split] at whole
        exact ⟨inner, inside, last, rfl, whole, isClosing, isInside⟩
      · intro given
        obtain ⟨room, inside, last, same, rfl, isClosing, isInside⟩ := given
        obtain rfl := Nat.succ.inj same
        have ends : EndsExpression (tokens (last :: rest)) := by
          simp [EndsExpression, isClosing]
        obtain ⟨shorter, grouped⟩ :=
          (accepted _ _ _).mpr ⟨inside, rfl, isInside, ends⟩
        refine ⟨by simp; omega, ?_⟩
        simp only [factor, isOpening, grouped, ok_bind, expect,
          next, isClosing, if_pos]
        rfl

theorem factor_is_eq_ok_iff (isTest : first.token = .is) :
    (∃ shorter, factor room (first :: after) =
      .ok (predicate, ⟨rest, shorter⟩)) ↔
      ∃ shorter, capabilityTest after = .ok (predicate, ⟨rest, shorter⟩) := by
  unfold factor
  simp only [isTest]
  constructor
  · intro given
    obtain ⟨shorter, parsed⟩ := given
    obtain ⟨⟨test, final, _⟩, tested, parsed⟩ := exists_of_bind_eq_ok parsed
    cases parsed
    exact ⟨_, tested⟩
  · intro given
    obtain ⟨shorter, tested⟩ := given
    refine ⟨by simp; omega, ?_⟩
    rw [tested]
    rfl

theorem factor_word_eq_ok_iff {name : String}
    (isName : first.token = .word name) :
    (∃ shorter, factor room (first :: after) =
      .ok (predicate, ⟨rest, shorter⟩)) ↔
      ∃ shorter, comparisonOf name after =
        .ok (predicate, ⟨rest, shorter⟩) := by
  unfold factor
  simp only [isName]
  constructor
  · intro given
    obtain ⟨shorter, parsed⟩ := given
    obtain ⟨⟨comparison, final, _⟩, compared, parsed⟩ :=
      exists_of_bind_eq_ok parsed
    cases parsed
    exact ⟨_, compared⟩
  · intro given
    obtain ⟨shorter, compared⟩ := given
    refine ⟨by simp; omega, ?_⟩
    rw [compared]
    rfl

theorem factor_eq_factorOf (room : Nat) :
    Factor room = FactorOf fun tokens predicate =>
      ∃ inner, room = inner + 1 ∧
        Expression (Factor inner) tokens predicate := by
  cases room with
  | zero => simp [Factor]
  | succ room => simp [Factor]

/-- What was used of the lexemes derives the factor, one case for each lexeme
that may start one. -/
theorem derives_of_factor_eq_ok {lexemes : List Lexeme}
    {shorter : rest.length < lexemes.length}
    (accepts : ∀ inner, inner < room → (factor inner).Accepts (Factor inner)
      fun _ => True)
    (parsed : factor room lexemes = .ok (predicate, ⟨rest, shorter⟩)) :
    ∃ used, lexemes = used ++ rest ∧ Factor room (tokens used) predicate := by
  cases lexemes with
  | nil => simp [factor] at parsed
  | cons first after =>
      rw [factor_eq_factorOf]
      cases isFirst : first.token with
      | opening bracket =>
          obtain ⟨inner, inside, last, rfl, rfl, isClosing, isInside⟩ :=
            (factor_opening_eq_ok_iff isFirst accepts).mp ⟨_, parsed⟩
          refine ⟨first :: (inside ++ [last]), by simp, ?_⟩
          simp only [tokens_cons, tokens_append, tokens_nil, isFirst, isClosing]
          exact .group ⟨inner, rfl, isInside⟩
      | is =>
          obtain ⟨name, capability, found, rfl, isWord, named, rfl⟩ :=
            capabilityTest_eq_ok_iff.mp
              ((factor_is_eq_ok_iff isFirst).mp ⟨_, parsed⟩)
          refine ⟨[first, found], rfl, ?_⟩
          simp only [tokens_cons, tokens_nil, isFirst, isWord]
          exact .test named
      | word name =>
          obtain ⟨capability, property, op, literal, dot, word, operator,
            last, rfl, isDot, isWord, isOp, isLiteral, named, suited, rfl⟩ :=
            comparisonOf_eq_ok_iff.mp
              ((factor_word_eq_ok_iff isFirst).mp ⟨_, parsed⟩)
          refine ⟨[first, dot, word, operator, last], rfl, ?_⟩
          simp only [tokens_cons, tokens_nil, isFirst, isDot, isWord, isOp]
          exact .comparison named isLiteral suited
      | _ => simp [factor, isFirst, unexpected] at parsed

theorem factor_eq_ok_of_derives {used : List Lexeme}
    (accepts : ∀ inner, inner < room → (factor inner).Accepts (Factor inner)
      fun _ => True)
    (isFactor : Factor room (tokens used) predicate) :
    ∃ shorter, factor room (used ++ rest) =
      .ok (predicate, ⟨rest, shorter⟩) := by
  rw [factor_eq_factorOf] at isFactor
  generalize isUsed : tokens used = shape at isFactor
  cases isFactor with
  | @group bracket inside _ inner =>
      obtain ⟨inner, rfl, isInside⟩ := inner
      obtain ⟨first, remaining, rfl, isOpening, split⟩ :=
        List.map_eq_cons_iff.mp isUsed
      obtain ⟨inside, last, rfl, rfl, closes⟩ := List.map_eq_append_iff.mp split
      obtain ⟨last, _, rfl, isClosing, none⟩ := List.map_eq_cons_iff.mp closes
      obtain rfl := List.map_eq_nil_iff.mp none
      refine (factor_opening_eq_ok_iff isOpening accepts).mpr ?_
      exact ⟨inner, inside, last, rfl, by simp, isClosing, isInside⟩
  | test named =>
      obtain ⟨first, remaining, rfl, isTest, split⟩ :=
        List.map_eq_cons_iff.mp isUsed
      obtain ⟨word, _, rfl, isWord, none⟩ := List.map_eq_cons_iff.mp split
      obtain rfl := List.map_eq_nil_iff.mp none
      refine (factor_is_eq_ok_iff isTest).mpr (capabilityTest_eq_ok_iff.mpr ?_)
      exact ⟨_, _, word, rfl, isWord, named, rfl⟩
  | comparison named isLiteral suited =>
      simp only [tokens, List.map_eq_cons_iff, List.map_eq_nil_iff] at isUsed
      obtain ⟨first, _, rfl, isName, dot, _, rfl, isDot, word, _, rfl,
        isWord, operator, _, rfl, isOp, last, _, rfl, rfl, rfl⟩ := isUsed
      refine (factor_word_eq_ok_iff isName).mpr (comparisonOf_eq_ok_iff.mpr ?_)
      exact ⟨_, _, _, _, dot, word, operator, last, rfl, isDot,
        isWord, isOp, isLiteral, named, suited, rfl⟩

end Factors

theorem accepts_factor (room : Nat) :
    (factor room).Accepts (Factor room) fun _ => True := by
  induction room using Nat.strongRecOn with
  | ind room induction =>
      intro lexemes predicate rest
      simp only [and_true]
      constructor
      · intro given
        obtain ⟨shorter, parsed⟩ := given
        exact derives_of_factor_eq_ok induction parsed
      · intro given
        obtain ⟨used, rfl, isFactor⟩ := given
        exact factor_eq_ok_of_derives induction isFactor

end Parsers

section Sentences

theorem ofLexemes_eq_ok_iff {lexemes : List Lexeme} {predicate : Predicate} :
    ofLexemes lexemes = .ok predicate ↔
      Sentence (tokens lexemes) predicate := by
  have accepted := accepts_expressionOf (accepts_factor groupLimit)
    lexemes predicate []
  simp only [List.append_nil] at accepted
  constructor
  · intro parsed
    cases lexemes with
    | nil =>
        cases parsed
        exact .nothing
    | cons first lexemes =>
        obtain ⟨⟨whole, rest, _⟩, expressed, parsed⟩ :=
          exists_of_bind_eq_ok parsed
        dsimp only at parsed
        split at parsed
        · cases parsed
          obtain ⟨used, rfl, whole, _⟩ := accepted.mp ⟨_, expressed⟩
          exact .expression whole
        · cases parsed
  · intro sentence
    generalize isTokens : tokens lexemes = shape at sentence
    cases sentence with
    | nothing =>
        obtain rfl := List.map_eq_nil_iff.mp isTokens
        rfl
    | expression whole =>
        subst isTokens
        obtain ⟨shorter, expressed⟩ :=
          accepted.mpr ⟨lexemes, rfl, whole, by simp [EndsExpression]⟩
        cases lexemes with
        | nil => simp at shorter
        | cons first lexemes =>
            rw [ofLexemes, expressed]
            · rfl
            · simp

/-- Tokens mean one thing at most. -/
theorem sentence_unique {shape : List Token} {predicate other : Predicate}
    (sentence : Sentence shape predicate) (otherwise : Sentence shape other) :
    predicate = other := by
  let lexemes : List Lexeme := shape.map fun token => ⟨token, [], 0⟩
  have isShape : tokens lexemes = shape := by
    simp [tokens, lexemes, Function.comp_def]
  have parsed := ofLexemes_eq_ok_iff.mpr (isShape ▸ sentence)
  have reparsed := ofLexemes_eq_ok_iff.mpr (isShape ▸ otherwise)
  rw [parsed] at reparsed
  cases reparsed
  rfl

/-- A text that consists of lexemes is parsed exactly to what its tokens mean,
and is rejected if they mean nothing. -/
theorem parse_eq_ok_iff_sentence {text : String} {lexemes : List Lexeme}
    (lexed : Lexeme.ofText text = .ok lexemes) :
    (∀ predicate, parse text = .ok predicate ↔
      Sentence (tokens lexemes) predicate) ∧
      ((¬∃ predicate, Sentence (tokens lexemes) predicate) →
        ∃ reason, parse text = .error reason) ∧
      ∀ predicate other, Sentence (tokens lexemes) predicate →
        Sentence (tokens lexemes) other → predicate = other := by
  have isParse : parse text = ofLexemes lexemes := by rw [parse, lexed, ok_bind]
  refine ⟨fun predicate => ?_, fun nonsense => ?_, fun _ _ => sentence_unique⟩
  · rw [isParse]
    exact ofLexemes_eq_ok_iff
  · cases parsed : ofLexemes lexemes with
    | error reason => exact ⟨reason, isParse.trans parsed⟩
    | ok predicate =>
        exact absurd ⟨predicate, ofLexemes_eq_ok_iff.mp parsed⟩ nonsense

/-- A group before a conjunction, with keywords and names in any case. -/
theorem parse_eq_ok_iff_sentence_grouped :
    ∃ lexemes, Lexeme.ofText "[IS Block or is camera] AND Block.Size & 4" =
      .ok lexemes ∧ Sentence (tokens lexemes)
        (all [any [is .block, is .camera],
          compare .block "Size" .mask (.int 4)]) ∧
      parse "[IS Block or is camera] AND Block.Size & 4" =
        .ok (all [any [is .block, is .camera],
          compare .block "Size" .mask (.int 4)]) := by
  have lexes :
      (match Lexeme.ofText "[IS Block or is camera] AND Block.Size & 4" with
      | .ok lexemes => tokens lexemes ==
          [.opening .square, .is, .word "Block", .or, .is, .word "camera",
            .closing .square, .and,
            .word "Block", .dot, .word "Size", .op .mask, .int 4]
      | .error _ => false) = true := by decide +kernel
  split at lexes
  · next lexemes lexed =>
      have block : Names "Block" .block := ⟨by decide, rfl⟩
      have camera : Names "camera" .camera := ⟨by decide, by decide +kernel⟩
      have isBlock : Term (Factor 63) [.is, .word "Block"] (is .block) :=
        .alone (.test block)
      have isCamera : Term (Factor 63) [.is, .word "camera"] (is .camera) :=
        .alone (.test camera)
      have either : Expression (Factor 63)
        [.is, .word "Block", .or, .is, .word "camera"]
          (any [is .block, is .camera]) :=
            .several (.more isBlock (.one isCamera)) (by decide)
      have group : Factor groupLimit [.opening .square, .is,
        .word "Block", .or, .is,
          .word "camera", .closing .square] (any [is .block, is .camera]) :=
            .group either
      have mask : Factor groupLimit [.word "Block", .dot, .word "Size",
        .op .mask, .int 4] (compare .block "Size" .mask (.int 4)) :=
        .comparison block rfl fun _ => .inl ⟨4, rfl⟩
      have sentence : Sentence (tokens lexemes)
          (all [any [is .block, is .camera],
              compare .block "Size" .mask (.int 4)]) := by
        rw [eq_of_beq lexes]
        exact .expression (.alone
          (.several (.more group (.one mask)) (by decide)))
      exact ⟨lexemes, lexed, sentence,
        ((parse_eq_ok_iff_sentence lexed).1 _).mpr sentence⟩
  · cases lexes

end Sentences

end Predicate

end Hotplug
