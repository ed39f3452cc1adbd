import Hotplug.Proofs.Predicate.Brackets
import Hotplug.Proofs.Predicate.Spelling

/-!
# Canonical text is read back

Every predicate that can be written means itself: what it is rendered to is
parsed to the very same predicate.
-/

namespace Hotplug

namespace Predicate

/-- A literal that is read back from its spelling as it was. Integers that fit
in a signed word are read as such, and no text can hold the quote it stands
between. -/
def LegibleLiteral : Value → Prop
  | .bool _ => True
  | .int _ => True
  | .uint number => Word.signedLimit ≤ number.toNat
  | .text content => ¬('\'' ∈ content.toList ∧ '"' ∈ content.toList)
  | _ => False

/-- A predicate other than the empty one that can be written, with groups that
nest at most so deep. -/
inductive Legible : Nat → Predicate → Prop
  | is {room : Nat} {capability : Capability} (known : capability ≠ .unknown) :
      Legible room (.is capability)
  | compare {room : Nat} {capability : Capability} {property : String}
    {op : Comparator} {literal : Value} (known : capability ≠ .unknown)
      (named : Lexeme.IsName property)
      (legible : LegibleLiteral literal) (suits : Suits op literal) :
      Legible room (.compare capability property op literal)
  | all {room : Nat} {operands : List Predicate} (several : 2 ≤ operands.length)
      (each : ∀ operand ∈ operands, Legible room operand) :
        Legible (room + 1) (.all operands)
  | any {room : Nat} {operands : List Predicate} (several : 2 ≤ operands.length)
      (each : ∀ operand ∈ operands, Legible room operand) :
        Legible (room + 1) (.any operands)

/-- A tree that can be written if its literals can: its leaves have names, and
each inner node joins at least two operands. -/
inductive Expressible (Literal : Value → Prop) : Predicate → Prop
  | is {capability : Capability} (known : capability ≠ .unknown) :
      Expressible Literal (.is capability)
  | compare {capability : Capability} {property : String} {op : Comparator}
    {literal : Value} (known : capability ≠ .unknown)
      (named : Lexeme.IsName property) (expressible : Literal literal)
      (suits : Suits op literal) :
        Expressible Literal (.compare capability property op literal)
  | all {operands : List Predicate} (several : 2 ≤ operands.length)
      (each : ∀ operand ∈ operands, Expressible Literal operand) :
      Expressible Literal (.all operands)
  | any {operands : List Predicate} (several : 2 ≤ operands.length)
      (each : ∀ operand ∈ operands, Expressible Literal operand) :
      Expressible Literal (.any operands)

theorem Expressible.mono {Literal Wider : Value → Prop} {predicate : Predicate}
    (expressible : Expressible Literal predicate)
    (widens : ∀ literal, Literal literal → Wider literal) :
    Expressible Wider predicate := by
  induction expressible with
  | is known => exact .is known
  | compare known named expressible suits =>
      exact .compare known named (widens _ expressible) suits
  | all several _ induction => exact .all several induction
  | any several _ induction => exact .any several induction

section Legibility

variable {room : Nat} {predicate : Predicate}

theorem Legible.expressible (legible : Legible room predicate) :
    Expressible LegibleLiteral predicate := by
  induction legible with
  | is known => exact .is known
  | compare known named legible suits =>
      exact .compare known named legible suits
  | all several _ induction => exact .all several induction
  | any several _ induction => exact .any several induction

theorem Legible.nesting_le (legible : Legible room predicate) :
    predicate.nesting ≤ room := by
  induction legible with
  | is _ => exact Nat.zero_le _
  | compare _ _ _ _ => exact Nat.zero_le _
  | all _ _ induction => exact Nat.succ_le_succ (deepest_le_iff.mpr induction)
  | any _ _ induction => exact Nat.succ_le_succ (deepest_le_iff.mpr induction)

end Legibility

open Lexeme

/-- The literal is read back: its spelling is a token of its own, whatever may
follow it. -/
def ReadBack (literal : Value) : Prop :=
  ∃ token : Token, token.literal? = some literal ∧
    ∀ rest, Stops rest → Spells (literalSpelling literal) rest [token]

theorem readBack_of_legibleLiteral {literal : Value}
    (legible : LegibleLiteral literal) :
    ReadBack literal := by
  cases literal with
  | bool truth =>
      refine ⟨.truth truth, rfl, fun rest stops => ?_⟩
      cases truth with
      | true =>
          exact spells_word (c := 't') (by decide) (by decide) stops.endsWord
      | false =>
          exact spells_word (c := 'f') (by decide) (by decide) stops.endsWord
  | int number =>
      exact ⟨.int number, rfl,
        fun _ stops => spells_integer stops.endsNumber number⟩
  | uint number =>
      refine ⟨.uint number, rfl, fun rest stops => ?_⟩
      change Spells (toString number.toNat).toList rest _
      rw [toList_toString]
      exact spells_natural stops.endsNumber (integerToken?_unsigned legible)
  | text content =>
      refine ⟨.text content, rfl, fun rest _ => spells_quoted ?_ ?_⟩
      · split <;> simp
      · split
        · next holds => exact fun other => legible ⟨by simpa using holds, other⟩
        · next absent => simpa using absent
  | double _ => exact legible.elim
  | texts _ => exact legible.elim
  | bytes _ => exact legible.elim

section Trees

variable {room : Nat} {predicate : Predicate} {operands : List Predicate}

/-- The characters are read as tokens with the meaning, whatever may follow
them. -/
def Means (cs : List Char) (Meaning : List Token → Prop) : Prop :=
  ∃ shape, Meaning shape ∧ ∀ rest, Stops rest → Spells cs rest shape

/-- A factor that is as high as its meaning nests, which is how predicates are
written. -/
def Canonical (room : Nat) : Phrase := fun tokens predicate =>
  Factor room tokens predicate ∧ HasHeight predicate.nesting tokens

theorem spelling_compare (capability : Capability) (property : String)
    (op : Comparator) (literal : Value) :
    (compare capability property op literal).spelling =
      capability.name.toList ++
        (['.'] ++ (property.toList ++ ([' '] ++ (op.symbol.toList ++
          ([' '] ++ literalSpelling literal))))) := rfl

theorem spells_is {capability : Capability} {rest : List Char}
    (known : capability ≠ .unknown) (ends : EndsWord rest) :
    Spells (is capability).spelling rest [.is, .word capability.name] := by
  have name := spells_named (isName_capability known) ends
  have keyword : Spells "IS".toList (' ' :: (capability.name.toList ++ rest))
      [.is] :=
    spells_word (c := 'I') (by decide) (by decide) stops_blank.endsWord
  exact keyword.append (spells_blank.append name)

theorem factor_is {capability : Capability} (known : capability ≠ .unknown) :
    Factor room [.is, .word capability.name] (is capability) := by
  rw [factor_eq_factorOf]
  exact .test ⟨known, rfl⟩

theorem means_is {capability : Capability} (known : capability ≠ .unknown) :
    Means (is capability).spelling (Canonical room · (is capability)) :=
  ⟨_, ⟨factor_is known, hasHeight_test⟩,
    fun _ stops => spells_is known stops.endsWord⟩

theorem spells_comparison {capability : Capability} {property : String}
    {op : Comparator} {cs rest : List Char} {shape : List Token}
    (known : capability ≠ .unknown) (named : IsName property)
    (spells : Spells cs rest shape) :
    Spells (capability.name.toList ++
      (['.'] ++ (property.toList ++ ([' '] ++ (op.symbol.toList ++
      ([' '] ++ cs)))))) rest
      (.word capability.name :: .dot :: .word property :: .op op :: shape) := by
  have operator : Spells op.symbol.toList ([' '] ++ cs ++ rest) [.op op] :=
    spells_operator op
  have fromProperty := (spells_named named stops_blank.endsWord).append
    (spells_blank.append (operator.append (spells_blank.append spells)))
  have dotEnds : EndsWord (['.'] ++
    (property.toList ++ ([' '] ++ (op.symbol.toList ++
      ([' '] ++ cs)))) ++ rest) := by
    rintro c ⟨⟩
    decide +kernel
  exact (spells_named (isName_capability known) dotEnds).append
    (spells_dot.append fromProperty)

theorem means_compare {capability : Capability} {property : String}
    {op : Comparator} {literal : Value} (known : capability ≠ .unknown)
    (named : IsName property) (readBack : ReadBack literal)
    (suits : Suits op literal) :
    Means (compare capability property op literal).spelling
      (Canonical room · (compare capability property op literal)) := by
  obtain ⟨token, isLiteral, spells⟩ := readBack
  have isComparison : Factor room
      [.word capability.name, .dot, .word property, .op op, token]
      (compare capability property op literal) := by
    rw [factor_eq_factorOf]
    exact .comparison ⟨known, rfl⟩ isLiteral suits
  exact ⟨_, ⟨isComparison, hasHeight_comparison isLiteral⟩,
    fun rest stops => spells_comparison known named (spells rest stops)⟩

/-- A separator is read as its token, and ends the operand before it. -/
structure Separates (word : List Char) (separator : Token) : Prop where
  stops : ∀ rest, Stops (word ++ rest)
  spells : ∀ rest, Spells word rest [separator]

theorem separates_and : Separates " AND ".toList .and where
  stops _ := stops_blank
  spells _ := spells_blank.append ((spells_word (c := 'A') (by decide)
    (by decide : ['N', 'D'].all isWordPart = true) stops_blank.endsWord).append
      spells_blank)

theorem separates_or : Separates " OR ".toList .or where
  stops _ := stops_blank
  spells _ := spells_blank.append ((spells_word (c := 'O') (by decide)
    (by decide : ['R'].all isWordPart = true) stops_blank.endsWord).append
      spells_blank)

theorem joinedSpelling_cons_cons (word : List Char) (first second : Predicate)
    (operands : List Predicate) :
    joinedSpelling word (first :: second :: operands) =
      first.spelling ++ (word ++ joinedSpelling word (second :: operands)) :=
        rfl

theorem means_joined {word : List Char} {separator : Token} {Operand : Phrase}
    (separates : Separates word separator)
    (each : ∀ operand ∈ operands, Means operand.spelling (Operand · operand))
    (filled : operands ≠ []) :
    Means (joinedSpelling word operands)
      (Separated separator Operand · operands) := by
  induction operands with
  | nil => exact absurd rfl filled
  | cons operand operands induction =>
      obtain ⟨shape, meaning, spells⟩ := each operand (by simp)
      cases operands with
      | nil =>
          refine ⟨shape, .one meaning, fun rest stops => ?_⟩
          rw [joinedSpelling, laterSpelling, List.append_nil]
          exact spells rest stops
      | cons next operands =>
          obtain ⟨others, meanings, spellsOthers⟩ :=
            induction (fun other member => each other (by simp [member]))
              (by simp)
          refine ⟨shape ++ separator :: others, .more meaning meanings,
            fun rest stops => ?_⟩
          rw [joinedSpelling_cons_cons]
          have tail := (separates.spells _).append (spellsOthers rest stops)
          refine (spells _ ?_).append tail
          rw [List.append_assoc]
          exact separates.stops _

theorem Means.group {cs : List Char} {Meaning Grouped : List Token → Prop}
    (means : Means cs Meaning)
    (groups : ∀ shape, Meaning shape →
      Grouped (.opening .square :: (shape ++ [.closing .square]))) :
    Means ('[' :: (cs ++ [']'])) Grouped := by
  obtain ⟨shape, meaning, spells⟩ := means
  exact ⟨_, groups shape meaning, fun rest _ =>
    spells_opening.append ((spells _ stops_bracket).append spells_closing)⟩

theorem means_of_expressible (expressible : Expressible ReadBack predicate)
    (fits : predicate.nesting ≤ room) :
    Means predicate.spelling (Canonical room · predicate) := by
  -- By induction on the predicate: its leaves are factors, and its inner nodes
  -- groups of factors.
  induction expressible generalizing room with
  | is known => exact means_is known
  | compare known named readBack suits =>
      exact means_compare known named readBack suits
  | @all operands several each induction =>
      cases room with
      | zero => cases fits
      | succ room =>
          have filled : operands ≠ [] := List.ne_nil_of_length_pos (by omega)
          have within := deepest_le_iff.mp (Nat.le_of_succ_le_succ fits)
          have run := means_joined separates_and
            (fun operand member => induction operand member
              (within operand member)) filled
          refine run.group fun shape factors => ⟨?_, ?_⟩
          · exact .group
              (.alone (.several (factors.mono fun _ _ => And.left) several))
          · exact (hasHeight_separated isPlain_and (fun _ _ => And.right)
              factors).group _
  | @any operands several each induction =>
      cases room with
      | zero => cases fits
      | succ room =>
          have filled : operands ≠ [] := List.ne_nil_of_length_pos (by omega)
          have within := deepest_le_iff.mp (Nat.le_of_succ_le_succ fits)
          have run := means_joined separates_or
            (fun operand member => induction operand member
              (within operand member)) filled
          refine run.group fun shape factors => ⟨?_, ?_⟩
          · exact .group (.several (factors.mono
              fun _ _ factor => .alone factor.1) several)
          · exact (hasHeight_separated isPlain_or (fun _ _ => And.right)
              factors).group _

theorem reads_of_lexes {cs : List Char} {shape : List Token}
    (lexes : (match ofChars 0 cs with
      | .ok lexemes => tokens lexemes == shape
      | .error _ => false) = true) : Reads cs shape := by
  split at lexes
  · next lexed =>
      rw [← eq_of_beq lexes]
      exact reads_of_ofChars lexed
  · cases lexes

theorem parse_of_reads {text : String} {shape : List Token}
    (reads : Reads text.toList shape) (sentence : Sentence shape predicate) :
    parse text = .ok predicate := by
  obtain ⟨lexemes, lexed, rfl⟩ := reads 0
  rw [parse, ofText, lexed, ok_bind]
  exact ofLexemes_eq_ok_iff.mpr sentence

/-- Where the literals are read back and the groups do not nest too deep, the
whole is. -/
theorem parse_render_of_expressible
    (expressible : Expressible ReadBack predicate)
    (fits : predicate.nesting ≤ groupLimit) :
    parse predicate.render = .ok predicate := by
  obtain ⟨shape, ⟨meaning, _⟩, spells⟩ := means_of_expressible expressible fits
  have reads := (spells [] stops_nil).reads reads_nil
  rw [List.append_nil, List.append_nil] at reads
  refine parse_of_reads ?_ (.expression (.alone (.alone meaning)))
  rw [render, String.toList_ofList]
  exact reads

/-- What a predicate is rendered to is parsed to the predicate itself. -/
theorem parse_render {predicate : Predicate}
    (writable : predicate = empty ∨ Legible groupLimit predicate) :
    parse predicate.render = .ok predicate := by
  rcases writable with rfl | legible
  · exact parse_of_reads reads_nil .nothing
  · exact parse_render_of_expressible
      (legible.expressible.mono fun _ => readBack_of_legibleLiteral)
        legible.nesting_le

/-- A group in a group, a text that holds a quote, and the first integer that
needs a word without a sign. -/
def bigOrLabelled : Predicate :=
  any [all [is .block, compare .storageVolume "label" .ne (.text "it's")],
    compare .block "size" .mask (.uint 9223372036854775808)]

theorem parse_render_bigOrLabelled :
    Legible groupLimit bigOrLabelled ∧
      bigOrLabelled.render =
        "[[IS Block AND StorageVolume.label != \"it's\"] OR Block.size & 9223372036854775808]" ∧
      parse bigOrLabelled.render = .ok bigOrLabelled := by
  have isBlock : Legible 62 (is .block) := .is (by decide)
  have labelled : Legible 62
      (compare .storageVolume "label" .ne (.text "it's")) :=
    .compare (by decide) (by decide +kernel) (by simp [LegibleLiteral])
        fun isMask => by
      cases isMask
  have both :
      Legible 63 (all [is .block,
        compare .storageVolume "label" .ne (.text "it's")]) :=
    .all (by decide) (by simp [isBlock, labelled])
  have big : Legible 63 (compare .block "size" .mask
      (.uint 9223372036854775808)) :=
    .compare (by decide) (by decide +kernel) (by unfold LegibleLiteral; decide)
        fun _ => .inr ⟨_, rfl⟩
  have legible : Legible groupLimit bigOrLabelled := .any (by decide)
    (by simp [both, big])
  exact ⟨legible, by decide +kernel, parse_render (.inr legible)⟩

end Trees

end Predicate

end Hotplug
