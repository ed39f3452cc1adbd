import Hotplug.Proofs.Predicate.Rendering

/-!
# What parsed predicates are made of

The lexer hands out names, and literals that have a text, if they are not
doubles. A predicate that was parsed is built from these.
-/

namespace Hotplug

open Predicate (LegibleLiteral)

/-- A double, or a literal that is read back from its spelling. -/
def Predicate.ReadLiteral (literal : Value) : Prop :=
  LegibleLiteral literal ∨ ∃ number, literal = .double number

namespace Lexeme

/-- A word is a name, and a literal is one that can be read. -/
structure Lawful (token : Token) : Prop where
  named : ∀ name, token = .word name → IsName name
  literal : ∀ literal, token.literal? = some literal →
    Predicate.ReadLiteral literal

section Tokens

variable {token : Token} {c : Char} {rest : List Char} {offset further : Nat}

theorem lawful_of_literal? (silent : token.literal? = none)
    (noWord : ∀ name, token ≠ .word name) :
    Lawful token where
  named name isWord := absurd isWord (noWord name)
  literal literal isLiteral := by
    rw [silent] at isLiteral
    cases isLiteral

theorem lawful_of_legible {literal : Value}
    (isLiteral : token.literal? = some literal)
    (legible : LegibleLiteral literal) :
    Lawful token where
  named name isWord := by
    subst isWord
    cases isLiteral
  literal other also := by
    rw [isLiteral] at also
    cases also
    exact .inl legible

theorem lawful_double (number : Binary64) : Lawful (.double number) where
  named _ := nofun
  literal _ isLiteral := by
    cases isLiteral
    exact .inr ⟨number, rfl⟩

theorem lawful_of_integerToken? {negative : Bool} {magnitude : Nat}
    (isToken : integerToken? negative magnitude = some token) :
    Lawful token := by
  unfold integerToken? at isToken
  split at isToken
  · split at isToken
    · cases isToken
      exact lawful_of_legible rfl trivial
    · cases isToken
  · split at isToken
    · cases isToken
      exact lawful_of_legible rfl trivial
    · next large =>
        split at isToken
        · next fits =>
            cases isToken
            refine lawful_of_legible rfl ?_
            have same : (UInt64.ofNat magnitude).toNat = magnitude :=
              UInt64.toNat_ofNat_of_lt' fits
            rw [LegibleLiteral, same]
            omega
        · cases isToken

theorem lawful_of_numberToken? {negative : Bool} {body : List Char}
    (isToken : numberToken? negative body = some token) : Lawful token := by
  simp only [numberToken?] at isToken
  split at isToken
  · split at isToken
    · cases isToken
    · exact lawful_of_integerToken? isToken
  · split at isToken
    · cases isToken
    · cases isToken
      exact lawful_double _

theorem lawful_of_scanNumber
    (scanned : scanNumber offset c rest = .ok (token, further)) :
    Lawful token := by
  simp only [scanNumber] at scanned
  split at scanned
  · next isToken =>
      cases scanned
      exact lawful_of_numberToken? isToken
  · cases scanned

theorem lawful_of_scanText
    (scanned : scanText offset c rest = .ok (token, further))
    (isQuote : c = '\'' ∨ c = '"') :
    Lawful token := by
  simp only [scanText] at scanned
  split at scanned
  · cases scanned
    refine lawful_of_legible rfl ?_
    rintro ⟨single, double⟩
    rw [String.toList_ofList] at single double
    rcases isQuote with rfl | rfl
    · simpa using List.mem_takeWhile_imp single
    · simpa using List.mem_takeWhile_imp double
  · cases scanned

theorem lawful_op (op : Comparator) : Lawful (.op op) :=
  lawful_of_literal? rfl nofun

theorem lawful_of_scanOperator {withEquals : Comparator}
    {alone : Option Comparator}
    (scanned : scanOperator offset c rest withEquals alone =
      .ok (token, further)) :
    Lawful token := by
  unfold scanOperator at scanned
  split at scanned
  · cases scanned
    exact lawful_op _
  · split at scanned
    · cases scanned
      exact lawful_op _
    · cases scanned

theorem lawful_wordToken (start : isWordStart c = true) {more : List Char}
    (parts : more.all isWordPart = true) : Lawful (wordToken (c :: more)) := by
  simp only [wordToken]
  split
  · exact lawful_of_literal? rfl (by simp)
  · split
    · exact lawful_of_literal? rfl (by simp)
    · split
      · exact lawful_of_literal? rfl (by simp)
      · split
        · exact lawful_of_legible rfl trivial
        · split
          · exact lawful_of_legible rfl trivial
          · next noAnd noOr noIs noTrue noFalse =>
              refine ⟨fun name isWord => ?_, by simp [Token.literal?]⟩
              cases isWord
              refine ⟨?_, ?_, ?_⟩
              · simpa using start
              · simpa using parts
              · simp only [keywords, String.toList_ofList,
                  List.map_cons, List.map_nil,
                  List.mem_cons, List.not_mem_nil, or_false, not_or]
                exact ⟨noAnd, noOr, noIs, noTrue, noFalse⟩

theorem of_ite_eq_ok {ε α : Type} {condition motive : Prop}
    [Decidable condition] {first second : Except ε α} {answer : α}
    (whenTrue : condition → first = .ok answer → motive)
    (whenFalse : second = .ok answer → motive) :
    (if condition then first else second) = .ok answer → motive := by
  split
  · next holds => exact whenTrue holds
  · exact whenFalse

theorem lawful_of_scan (scanned : scan offset c rest = .ok (token, further)) :
    Lawful token := by
  have silent {symbol : Token} (isSilent : symbol.literal? = none)
      (noWord : ∀ name, symbol ≠ .word name)
      (read : (.ok (symbol, 0) : Except PredicateError (Token × Nat)) =
        .ok (token, further)) :
      Lawful token := by
    cases read
    exact lawful_of_literal? isSilent noWord
  revert scanned
  refine of_ite_eq_ok (fun _ => silent rfl nofun) <|
    of_ite_eq_ok (fun _ => silent rfl nofun) <|
    of_ite_eq_ok (fun _ => silent rfl nofun) <|
      of_ite_eq_ok (fun _ => silent rfl nofun) <|
    of_ite_eq_ok (fun _ => silent rfl nofun) <|
      of_ite_eq_ok (fun _ => silent rfl nofun) <|
    of_ite_eq_ok (fun _ => lawful_of_scanOperator) <|
      of_ite_eq_ok (fun _ => lawful_of_scanOperator) <|
    of_ite_eq_ok (fun _ => lawful_of_scanOperator) <|
      of_ite_eq_ok (fun _ => lawful_of_scanOperator) <|
    of_ite_eq_ok (fun isQuote scanned => lawful_of_scanText scanned isQuote) <|
    of_ite_eq_ok (fun _ => lawful_of_scanNumber) <|
      of_ite_eq_ok (fun start read => ?_) nofun
  cases read
  exact lawful_wordToken start (by simp)

/-- Every token that is read is lawful, by induction on what is left of the
text. -/
theorem lawful_of_ofChars {cs : List Char} {lexemes : List Lexeme}
    (lexed : ofChars offset cs = .ok lexemes) :
    ∀ token ∈ Predicate.tokens lexemes, Lawful token := by
  induction offset, cs using ofChars.induct generalizing lexemes with
  | case1 offset =>
      rw [ofChars] at lexed
      cases lexed
      simp
  | case2 offset c rest blank induction =>
      rw [ofChars_blank blank] at lexed
      exact induction lexed
  | case3 offset c rest filled induction =>
      obtain ⟨token, further, later, scanned, lexedLater, rfl⟩ :=
        (ofChars_cons_eq_ok_iff (by simpa using filled)).mp lexed
      rw [Predicate.tokens_cons, List.forall_mem_cons]
      exact ⟨lawful_of_scan scanned, induction further lexedLater⟩

end Tokens

end Lexeme

namespace Predicate

open Lexeme (Lawful)

theorem expressible_of_separated {separator : Token} {shape : List Token}
    {predicates : List Predicate}
    (separated : Separated separator
      (fun tokens predicate => (∀ token ∈ tokens, Lawful token) →
        Expressible ReadLiteral predicate) shape predicates)
    (lawful : ∀ token ∈ shape, Lawful token) :
    ∀ predicate ∈ predicates, Expressible ReadLiteral predicate := by
  induction separated with
  | one operand => simpa using operand lawful
  | more operand others induction =>
      rw [List.forall_mem_append, List.forall_mem_cons] at lawful
      rw [List.forall_mem_cons]
      exact ⟨operand lawful.1, induction lawful.2.2⟩

/-- Phrases of lawful tokens mean predicates that can be written. -/
theorem closed_expressible : Closed fun _ tokens predicate =>
    (∀ token ∈ tokens, Lawful token) → Expressible ReadLiteral predicate where
  test named _ := .is named.1
  comparison {_ _ property _ _ token _} named isLiteral suits lawful :=
    .compare named.1 ((lawful (.word property) (by simp)).named _ rfl)
      ((lawful token (by simp)).literal _ isLiteral) suits
  group inner lawful := inner
    fun token member => lawful token (by simp [member])
  all operands several lawful :=
    .all several (expressible_of_separated operands lawful)
  any operands several lawful :=
    .any several (expressible_of_separated operands lawful)

/-- What a text is parsed to is empty, or can be written but for its doubles. -/
theorem expressible_of_parse {text : String} {predicate : Predicate}
    (parsed : parse text = .ok predicate) :
    predicate = empty ∨ Expressible ReadLiteral predicate := by
  obtain ⟨lexemes, lexed, parsed⟩ := exists_of_bind_eq_ok parsed
  have lawful := Lexeme.lawful_of_ofChars lexed
  rcases closed_expressible.sentence (ofLexemes_eq_ok_iff.mp parsed) with ⟨_,
    isEmpty⟩ | expressible
  · exact .inl isEmpty
  · exact .inr (expressible lawful)

end Predicate

end Hotplug
