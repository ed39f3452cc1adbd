import Mathlib.Data.List.Chain
import Hotplug.Proofs.Predicate.Doubles

/-!
# Tokens side by side

No word comes right after an operator or a literal in a sentence. This is what
the text of a double runs into that is not written with a point alone: its
exponent, or the whole of it, is read as a word.
-/

namespace Hotplug

namespace Predicate

/-- A word does not come right after an operator or a literal. -/
def Apart (token next : Token) : Prop :=
  ∀ name, next = .word name → token.literal? = none ∧ ∀ op, token ≠ .op op

/-- What may stand between any two phrases. -/
structure Divides (token : Token) : Prop where
  silent : token.literal? = none
  noOperator : ∀ op, token ≠ .op op
  noWord : ∀ name, token ≠ .word name

theorem divides_and : Divides .and := ⟨rfl, nofun, nofun⟩

theorem divides_or : Divides .or := ⟨rfl, nofun, nofun⟩

theorem divides_dot : Divides .dot := ⟨rfl, nofun, nofun⟩

section Sentences

variable {token separator : Token} {tokens later shape : List Token}

theorem isChain_cons (chain : tokens.IsChain Apart)
    (silent : token.literal? = none) (noOperator : ∀ op, token ≠ .op op) :
    (token :: tokens).IsChain Apart :=
  List.isChain_cons.mpr ⟨fun _ _ _ _ => ⟨silent, noOperator⟩, chain⟩

theorem isChain_concat (chain : tokens.IsChain Apart)
    (noWord : ∀ name, token ≠ .word name) :
    (tokens ++ [token]).IsChain Apart := by
  refine chain.append (List.isChain_singleton _)
    fun _ _ next isNext name isWord => ?_
  cases isNext
  exact absurd isWord (noWord name)

theorem Divides.isChain (divides : Divides separator)
    (chain : tokens.IsChain Apart) (chainLater : later.IsChain Apart) :
    (tokens ++ separator :: later).IsChain Apart :=
  List.isChain_split.mpr ⟨isChain_concat chain divides.noWord,
    isChain_cons chainLater divides.silent divides.noOperator⟩

theorem isChain_separated {predicates : List Predicate}
    (divides : Divides separator)
    (separated : Separated separator (fun tokens _ => tokens.IsChain Apart)
      shape predicates) :
    shape.IsChain Apart := by
  induction separated with
  | one operand => exact operand
  | more operand others induction => exact divides.isChain operand induction

/-- Only separators and brackets stand between the parts of a phrase. -/
theorem closed_isChain : Closed fun _ tokens _ => tokens.IsChain Apart where
  test _ := isChain_cons (List.isChain_singleton _) rfl nofun
  comparison {_ _ _ _ op token _} _ isLiteral _ := by
    have noWord : ∀ name, token ≠ .word name := by
      rintro name rfl
      cases isLiteral
    have last : ([Token.op op] ++ [token]).IsChain Apart :=
      isChain_concat (List.isChain_singleton _) noWord
    exact divides_dot.isChain (List.isChain_singleton _)
      (isChain_cons last rfl nofun)
  group chain := isChain_cons (isChain_concat chain nofun) rfl nofun
  all operands _ := isChain_separated divides_and operands
  any operands _ := isChain_separated divides_or operands

theorem isChain_of_sentence {predicate : Predicate}
    (sentence : Sentence shape predicate) :
    shape.IsChain Apart := by
  rcases closed_isChain.sentence sentence with ⟨rfl, _⟩ | chain
  · exact List.isChain_nil
  · exact chain

end Sentences

open Lexeme

/-- However the characters are read, a word comes where none may be. -/
def Garbled (cs : List Char) : Prop :=
  ∀ whole, Reads cs whole → ¬whole.IsChain Apart

/-- After an operator, the literal is read so that a word comes where none may
be. -/
def Misread (literal : Value) : Prop :=
  ∀ rest op whole, Stops rest → Reads (literalSpelling literal ++ rest) whole →
    ¬(.op op :: whole).IsChain Apart

section Texts

variable {cs rest : List Char} {shape : List Token}

theorem garbled_append (spells : Spells cs rest shape)
    (garbled : Garbled rest) :
    Garbled (cs ++ rest) := by
  intro whole reads chain
  obtain ⟨later, rfl, readsRest⟩ := (spells whole).mp reads
  exact garbled later readsRest chain.right_of_append

theorem reads_word_cons {c : Char} (start : isWordStart c = true)
    {whole : List Token} (reads : Reads (c :: rest) whole) :
    ∃ later, whole = wordToken (c :: rest.takeWhile isWordPart) :: later := by
  have ends : EndsWord (rest.dropWhile isWordPart) := by
    intro d isHead
    have ended := List.head?_dropWhile_not isWordPart rest
    rwa [Option.mem_def.mp isHead] at ended
  have spells := spells_word start
    (by simp : (rest.takeWhile isWordPart).all isWordPart = true) ends
  rw [← List.takeWhile_append_dropWhile (p := isWordPart) (l := rest)] at reads
  obtain ⟨later, isWhole, _⟩ := (spells whole).mp reads
  exact ⟨later, isWhole⟩

theorem wordToken_exponent (more : List Char) :
    ∃ name, wordToken ('e' :: more) = .word name := by
  refine ⟨String.ofList ('e' :: more), ?_⟩
  have upper : 'e'.toUpper = 'E' := by decide
  simp [wordToken, upper]

theorem not_isChain_word {op : Comparator} {name : String}
    {later : List Token} : ¬(.op op :: .word name :: later).IsChain Apart :=
  fun chain =>
  ((List.isChain_cons_cons.mp chain).1 name rfl).2 op rfl

theorem not_isChain_literal {op : Comparator} {token : Token} {literal : Value}
    {name : String} {later : List Token}
    (isLiteral : token.literal? = some literal) :
    ¬(.op op :: token :: .word name :: later).IsChain Apart :=
  fun chain => by
  have silent :=
    ((List.isChain_cons_cons.mp (List.isChain_cons_cons.mp chain).2).1
      name rfl).1
  rw [isLiteral] at silent
  cases silent

end Texts

section Doubles

variable {x : Binary64}

/-- One digit, perhaps a point and others, and the exponent. -/
theorem exists_numeral_exponent (d : Decimal) :
    ∃ body exponent, (DecimalLayout.writeScientific d).toList = body ++
      'e' :: exponent ∧ Numeral body ∧ ∀ negative, ∃ token literal,
        numberToken? negative body = some token ∧ Token.literal? token =
          some literal := by
  have numeral := isDigit_of_mem_toDigits d.digits
  have filled := Nat.toDigits_ne_nil (n := d.digits) (b := 10)
  have isNumber := read_toDigits d.digits
  have counted := Decimal.lt_pow_digitCount (n := d.digits)
  unfold DecimalLayout.writeScientific
  rw [Decimal.digitCount] at counted
  generalize Nat.toDigits 10 d.digits =
    digits at numeral filled isNumber counted
  cases digits with
  | nil => exact absurd rfl filled
  | cons first fraction =>
      cases fraction with
      | nil =>
          refine ⟨[first], (toString d.leading).toList,
            by simp, numeral_digits numeral filled, ?_⟩
          intro negative
          rw [numberToken?_digits numeral filled, isNumber]
          rw [List.length_singleton] at counted
          have small : d.digits < Word.signedLimit :=
            Nat.lt_trans counted (by decide)
          unfold integerToken?
          cases negative with
          | true => exact ⟨_, _, by rw [if_pos rfl, if_pos small.le], rfl⟩
          | false =>
              exact ⟨_, _, by rw [if_neg Bool.false_ne_true, if_pos small], rfl⟩
      | cons second fraction =>
          have isNumeral : PointNumber.IsNumeral
              ⟨[first], second :: fraction⟩ :=
            ⟨fun d member => numeral d (by simp_all), by simp,
              fun d member => numeral d (List.mem_cons_of_mem _ member)⟩
          exact ⟨_, (toString d.leading).toList,
            by simp [PointNumber.spelling], isNumeral.numeral,
            fun negative => ⟨_, _, isNumeral.numberToken? negative, rfl⟩⟩

/-- What is written with an exponent is read as a number and a word. -/
theorem misread_of_exponent (finite : x.isFinite = true)
    (range : ¬(x.shortest.digits = 0 ∨ -4 ≤ x.shortest.leading ∧
      x.shortest.leading ≤ 15)) :
    Misread (.double x) := by
  intro rest op whole stops reads chain
  obtain ⟨body, exponent, written, numeral, isNumber⟩ :=
    exists_numeral_exponent x.shortest
  obtain ⟨token, literal, isToken, isLiteral⟩ := isNumber x.isNegative
  have scientific : DecimalLayout.literal.writeDecimal x.shortest =
      DecimalLayout.writeScientific x.shortest := if_neg range
  have ends : EndsNumber ('e' :: (exponent ++ rest)) := by
    rintro c ⟨⟩
    decide
  rw [literalSpelling, Binary64.write_of_isFinite finite, scientific, written,
    ← List.append_assoc, List.append_assoc, List.cons_append] at reads
  obtain ⟨later, rfl, readsExponent⟩ :=
    (numeral.spells ends isToken whole).mp reads
  obtain ⟨others, rfl⟩ := reads_word_cons (by decide +kernel) readsExponent
  obtain ⟨name, isWord⟩ :=
    wordToken_exponent ((exponent ++ rest).takeWhile isWordPart)
  rw [isWord] at chain
  exact not_isChain_literal isLiteral chain

theorem not_reads_minus {c : Char} {rest : List Char}
    (noDigit : c.isDigit = false) (noDot : c ≠ '.') (whole : List Token) :
    ¬Reads ('-' :: c :: rest) whole := by
  intro reads
  obtain ⟨lexemes, lexed, _⟩ := reads 0
  obtain ⟨token, further, later, scanned, _⟩ :=
    (ofChars_cons_eq_ok_iff (by decide)).mp lexed
  have ends : EndsNumber (c :: rest) := by
    rintro d ⟨⟩
    exact ⟨noDigit, noDot⟩
  change scanNumber 0 '-' _ = _ at scanned
  rw [scanNumber, numberLength_eq_zero ends] at scanned
  cases scanned

/-- The texts of infinity and of what is no number are words, or nothing at
all. -/
theorem misread_of_not_isFinite (infinite : x.isFinite = false) :
    Misread (.double x) := by
  intro rest op whole stops reads chain
  rw [literalSpelling, DecimalLayout.write] at reads
  cases number : x.isNaN with
  | true =>
      rw [number, if_pos rfl] at reads
      have spells : Spells "NaN".toList rest [.word "NaN"] :=
        spells_word (by decide +kernel) (by decide +kernel) stops.endsWord
      obtain ⟨later, rfl, _⟩ := (spells whole).mp reads
      exact not_isChain_word chain
  | false =>
      have isInfinite : x.isInfinite = true := by
        simp only [Binary64.isFinite, Binary64.isNaN,
          decide_eq_false_iff_not] at infinite number
        rw [Binary64.isInfinite, beq_iff_eq]
        omega
      rw [number, if_neg Bool.false_ne_true, isInfinite, if_pos rfl] at reads
      cases negative : x.isNegative with
      | true =>
          rw [negative] at reads
          exact not_reads_minus (c := 'i') (by decide) (by decide) whole reads
      | false =>
          rw [negative] at reads
          have spells : Spells "inf".toList rest [.word "inf"] :=
            spells_word (by decide +kernel) (by decide +kernel) stops.endsWord
          obtain ⟨later, rfl, _⟩ := (spells whole).mp reads
          exact not_isChain_word chain

theorem misread_of_not_isPositional (bad : ¬x.IsPositional) :
    Misread (.double x) := by
  cases finite : x.isFinite with
  | true => exact misread_of_exponent finite fun range => bad ⟨finite, range⟩
  | false => exact misread_of_not_isFinite finite

end Doubles

end Predicate

end Hotplug
