import Hotplug.Proofs.Predicate.Partition
import Hotplug.Proofs.Predicate.Phrases
import Hotplug.Proofs.Predicate.Rendering

/-!
# Texts that hold both quotes

A text literal is written between quotes that it does not hold, if there are
such quotes. A text that holds both kinds ends at the first double quote it
holds, and what comes after that goes on with the predicate. Where the whole is
accepted all the same, it never means the comparison that was written: that of
the shortened text is joined with others.
-/

namespace Hotplug

namespace Predicate

/-- The predicate starts with a leaf and goes on after it. -/
inductive Continues (leaf : Predicate) : Predicate → Prop
  | all {others : List Predicate} (filled : others ≠ []) :
      Continues leaf (all (leaf :: others))
  | any {others : List Predicate} (filled : others ≠ []) :
    Continues leaf (any (leaf :: others))
  | anyOfAll {factors others : List Predicate} (filled : factors ≠ [])
    (several : others ≠ []) :
      Continues leaf (any (.all (leaf :: factors) :: others))

section Sentences

variable {capability : Capability} {property : String} {op : Comparator}
  {token : Token} {literal : Value} {more : List Token} {other : Predicate}

/-- The tokens of a comparison with a literal. -/
def comparisonTokens (capability : Capability) (property : String)
    (op : Comparator) (token : Token) :
    List Token :=
  [.word capability.name, .dot, .word property, .op op, token]

theorem Names.unique {name : String} {first second : Capability}
    (named : Names name first) (also : Names name second) :
    first = second := by
  have same := (capabilityNamed_eq_ok_iff.mpr named).symm.trans
    (capabilityNamed_eq_ok_iff.mpr also)
  cases same
  rfl

/-- No factor but the comparison starts with its tokens. -/
theorem factor_comparison {room : Nat} {first later : List Token}
    (known : capability ≠ .unknown) (isLiteral : token.literal? = some literal)
    (split : comparisonTokens capability property op token ++
      more = first ++ later)
    (factor : Factor room first other) :
    other = compare capability property op literal ∧ more = later := by
  rw [factor_eq_factorOf] at factor
  cases factor with
  | group inner => cases split
  | test named => cases split
  | comparison named isOther suits =>
      cases split
      obtain rfl := named.unique ⟨known, rfl⟩
      rw [isLiteral] at isOther
      cases isOther
      exact ⟨rfl, rfl⟩

/-- What follows a comparison belongs to the conjunction or the disjunction that
it starts. -/
theorem continues_of_sentence (known : capability ≠ .unknown)
    (isLiteral : token.literal? = some literal) (filled : more ≠ [])
    (sentence : Sentence (comparisonTokens capability property op token ++
      more) other) :
    Continues (compare capability property op literal) other := by
  cases sentence with
  | expression whole =>
      obtain ⟨first, later, term, terms, split, isTerm, isLater, rfl⟩ :=
        joined_iff.mp whole
      obtain ⟨start, rest, factor, factors, rfl, isFactor, isRest, rfl⟩ :=
        joined_iff.mp isTerm
      rw [List.append_assoc] at split
      obtain ⟨rfl, rfl⟩ := factor_comparison known isLiteral split isFactor
      cases isRest with
      | none =>
          cases isLater with
          | none => exact absurd rfl filled
          | more _ _ => exact .any (List.cons_ne_nil _ _)
      | more _ _ =>
          cases isLater with
          | none => exact .all (List.cons_ne_nil _ _)
          | more _ _ =>
              exact .anyOfAll (List.cons_ne_nil _ _) (List.cons_ne_nil _ _)

theorem Continues.ne_leaf {leaf : Predicate} (continues : Continues leaf other)
    (capability : Capability) (property : String) (op : Comparator)
    (literal : Value) :
    other ≠ compare capability property op literal := by
  cases continues <;> exact nofun

end Sentences

open Lexeme

section Quotes

variable {capability : Capability} {property : String} {op : Comparator}
  {content : String} {first later : List Char} {other : Predicate}

theorem ne_nil_of_reads {cs : List Char} {shape : List Token} {c : Char}
    (reads : Reads cs shape) (member : c ∈ cs)
    (filled : Text.isBlank c = false) :
    shape ≠ [] := by
  rintro rfl
  obtain ⟨lexemes, lexed, none⟩ := reads 0
  obtain rfl := List.map_eq_nil_iff.mp none
  obtain ⟨before, after, rfl⟩ := List.append_of_mem member
  have blank := (laid_of_ofChars lexed).isBlank rfl (by simp)
  rw [filled] at blank
  cases blank

/-- The text holds both quotes, with these characters before its first double
quote and those after it. -/
structure Cut (content : String) (first later : List Char) : Prop where
  whole : content.toList = first ++ '"' :: later
  before : '"' ∉ first
  apostrophe : '\'' ∈ content.toList

theorem exists_cut (apostrophe : '\'' ∈ content.toList)
    (double : '"' ∈ content.toList) :
    ∃ first later, Cut content first later := by
  obtain ⟨first, later, whole, before⟩ := List.eq_append_cons_of_mem double
  exact ⟨first, later, whole, before, apostrophe⟩

/-- The literal is read as the text up to the first double quote. -/
theorem Cut.literalSpelling (cut : Cut content first later) :
    literalSpelling (.text content) = ('"' :: (first ++ ['"'])) ++
      (later ++ ['"']) := by
  have holds : (first ++ '"' :: later).contains '\'' = true := by
    rw [← cut.whole]
    simpa using cut.apostrophe
  simp only [Predicate.literalSpelling, cut.whole, holds,
    if_true, List.cons_append, List.append_assoc, List.nil_append]

theorem Cut.spells (cut : Cut content first later)
    (known : capability ≠ .unknown) (named : IsName property)
    (op : Comparator) :
    ∃ cs, (compare capability property op (.text content)).spelling = cs ++
      (later ++ ['"']) ∧ Spells cs (later ++ ['"'])
        (comparisonTokens capability property op
          (.text (String.ofList first))) := by
  have quoted := @spells_quoted (later ++ ['"']) '"' (String.ofList first)
    (.inr rfl) (by simpa using cut.before)
  rw [String.toList_ofList] at quoted
  refine ⟨_, ?_, spells_comparison known named quoted⟩
  rw [spelling_compare, cut.literalSpelling]
  simp only [List.append_assoc]

/-- What comes after the first double quote goes on with the comparison. -/
theorem Cut.parse_render_eq_ok_iff (cut : Cut content first later)
    (known : capability ≠ .unknown) (named : IsName property)
    (op : Comparator) :
    parse (compare capability property op (.text content)).render = .ok other ↔
      ∃ more, Reads (later ++ ['"']) more ∧
        Sentence (comparisonTokens capability property op
          (.text (String.ofList first)) ++ more) other := by
  obtain ⟨cs, written, spells⟩ := cut.spells known named op
  constructor
  · intro parsed
    obtain ⟨lexemes, lexed, parsed⟩ := exists_of_bind_eq_ok parsed
    rw [ofText, render, String.toList_ofList, written] at lexed
    obtain ⟨more, whole, reads⟩ := (spells _).mp (reads_of_ofChars lexed)
    exact ⟨more, reads, whole ▸ ofLexemes_eq_ok_iff.mp parsed⟩
  · rintro ⟨more, reads, sentence⟩
    refine parse_of_reads ?_ sentence
    rw [render, String.toList_ofList, written]
    exact spells.reads reads

/-- What becomes of a comparison with a text when it is written and read
back. -/
structure Requoted (capability : Capability) (property : String)
    (op : Comparator) (content : String) :
    Prop where
  same : ¬('\'' ∈ content.toList ∧ '"' ∈ content.toList) →
    parse (compare capability property op (.text content)).render =
      .ok (compare capability property op (.text content))
  accepted : ∀ first later, Cut content first later → ∀ other,
    parse (compare capability property op (.text content)).render = .ok other ↔
      ∃ more, Reads (later ++ ['"']) more ∧
        Sentence (comparisonTokens capability property op
          (.text (String.ofList first)) ++ more) other
  changed : ∀ first later, Cut content first later → ∀ other,
    parse (compare capability property op (.text content)).render = .ok other →
      Continues (compare capability property op (.text (String.ofList first)))
        other ∧ other ≠ compare capability property op (.text content)
  split : '\'' ∈ content.toList → '"' ∈ content.toList → ∃ first later,
    Cut content first later

/-- A comparison with a text is read back unless the text holds both quotes, and
is never read back otherwise: if what was written is accepted, then as a
predicate that starts with another comparison and goes on. -/
theorem requoted (known : capability ≠ .unknown) (named : IsName property)
    (ordering : op ≠ .mask) (content : String) :
    Requoted capability property op content where
  same legible := by
    have readBack : ReadBack (.text content) :=
      readBack_of_legibleLiteral legible
    exact parse_render_of_expressible
      (.compare known named readBack fun isMask => absurd isMask ordering)
        (Nat.zero_le _)
  accepted first later cut other := cut.parse_render_eq_ok_iff known named op
  changed first later cut other accepted := by
    obtain ⟨more, reads, sentence⟩ :=
      (cut.parse_render_eq_ok_iff known named op).mp accepted
    have filled := ne_nil_of_reads reads (c := '"') (by simp) (by decide)
    have continues := continues_of_sentence known rfl filled sentence
    exact ⟨continues, continues.ne_leaf capability property op (.text content)⟩
  split := exists_cut

/-- An apostrophe alone is put between double quotes. -/
theorem requoted_apostrophe :
    parse (compare .block "Label" .eq (.text "it's")).render =
      .ok (compare .block "Label" .eq (.text "it's")) :=
  (requoted (by decide : Capability.block ≠ .unknown)
    (by decide +kernel : IsName "Label")
    (by decide : Comparator.eq ≠ .mask) "it's").same (by decide)

/-- A text that goes on with a disjunction after its first double quote. -/
theorem parse_render_forged :
    parse (compare .block "Label" .eq
      (.text "it's\" OR Block.Label == \"x")).render =
        .ok (any [compare .block "Label" .eq (.text "it's"),
          compare .block "Label" .eq (.text "x")]) ∧
      any [compare .block "Label" .eq (.text "it's"),
        compare .block "Label" .eq (.text "x")] ≠
        compare .block "Label" .eq (.text "it's\" OR Block.Label == \"x") := by
  have label (content : String) : Term (Factor groupLimit)
      (comparisonTokens .block "Label" .eq (.text content))
      (compare .block "Label" .eq (.text content)) :=
    .alone (.comparison ⟨by decide, rfl⟩ rfl nofun)
  exact ⟨parse_of_reads (reads_of_lexes (by decide +kernel))
    (.expression (.several (.more (label "it's") (.one (label "x")))
      (Nat.le_refl 2))), nofun⟩

end Quotes

end Predicate

end Hotplug
