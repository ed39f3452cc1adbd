import Hotplug.Proofs.Predicate.Neighbours
import Hotplug.Proofs.Predicate.Parsed

/-!
# Parsing what was rendered

A predicate that was parsed from a text has a text of its own. That one is
parsed to the same predicate as long as its brackets nest within the limit and
its doubles are written without an exponent, and otherwise it is rejected.
-/

namespace Hotplug

namespace Predicate

open Lexeme

section Trees

variable {predicate : Predicate} {operands : List Predicate}

mutual

/-- The doubles that a predicate compares with. -/
def doubles : Predicate → List Binary64
  | compare _ _ _ (.double number) => [number]
  | all operands => doublesAmong operands
  | any operands => doublesAmong operands
  | _ => []

def doublesAmong : List Predicate → List Binary64
  | [] => []
  | operand :: rest => doubles operand ++ doublesAmong rest

end

/-- The text of the predicate is garbled wherever it stands. -/
def Garbles (predicate : Predicate) : Prop :=
  ∀ rest, Stops rest → Garbled (predicate.spelling ++ rest)

/-- The operands up to the first garbled one are read as they should be. -/
theorem garbled_joined {word : List Char} {separator : Token}
    (separates : Separates word separator)
    (each : ∀ operand ∈ operands, ¬Garbles operand → Means operand.spelling
      fun _ => True)
    (bad : ∃ operand ∈ operands, Garbles operand) {rest : List Char}
    (stops : Stops rest) :
    Garbled (joinedSpelling word operands ++ rest) := by
  induction operands with
  | nil =>
      obtain ⟨operand, member, _⟩ := bad
      cases member
  | cons operand operands induction =>
      cases operands with
      | nil =>
          have only : Garbles operand := by simpa using bad
          rw [joinedSpelling, laterSpelling, List.append_nil]
          exact only rest stops
      | cons next operands =>
          rw [joinedSpelling_cons_cons, List.append_assoc, List.append_assoc]
          by_cases first : Garbles operand
          · exact first _ (separates.stops _)
          · obtain ⟨shape, _, spells⟩ := each operand (by simp) first
            have later : ∃ other ∈ next :: operands, Garbles other := by
              simpa [first] using bad
            have tail := induction (fun other member => each other
              (by simp [member])) later
            exact garbled_append (spells _ (separates.stops _))
              (garbled_append (separates.spells _) tail)

theorem garbled_group {cs : List Char}
    (garbled : ∀ rest, Stops rest → Garbled (cs ++ rest)) (rest : List Char) :
    Garbled ('[' :: (cs ++ [']']) ++ rest) := by
  have inside := garbled_append spells_opening
    (garbled (']' :: rest) stops_bracket)
  simpa using inside

theorem mem_doublesAmong {number : Binary64} :
    number ∈ doublesAmong operands ↔ ∃ operand ∈ operands,
      number ∈ operand.doubles := by
  induction operands with
  | nil => simp [doublesAmong]
  | cons operand rest induction => simp [doublesAmong, induction]

/-- A text is read back if all doubles in it are written with a point alone. -/
theorem Expressible.readBack (expressible : Expressible ReadLiteral predicate)
    (positional : ∀ number ∈ predicate.doubles, number.IsPositional) :
    Expressible ReadBack predicate := by
  induction expressible with
  | is known => exact .is known
  | compare known named literal suits =>
      refine .compare known named ?_ suits
      rcases literal with legible | ⟨number, rfl⟩
      · exact readBack_of_legibleLiteral legible
      · exact readBack_of_isPositional (positional number (by simp [doubles]))
  | all several _ induction =>
      refine .all several fun operand member => induction operand member
        fun number within => ?_
      exact positional number (mem_doublesAmong.mpr ⟨operand, member, within⟩)
  | any several _ induction =>
      refine .any several fun operand member => induction operand member
        fun number within => ?_
      exact positional number (mem_doublesAmong.mpr ⟨operand, member, within⟩)

theorem means_of_not_garbles (expressible : Expressible ReadLiteral predicate)
    (garbles : (∃ number ∈ predicate.doubles, ¬number.IsPositional) →
      Garbles predicate)
    (otherwise : ¬Garbles predicate) :
    Means predicate.spelling fun _ => True := by
  have positional : ∀ number ∈ predicate.doubles, number.IsPositional := by
    intro number member
    by_contra bad
    exact otherwise (garbles ⟨number, member, bad⟩)
  obtain ⟨shape, _, spells⟩ :=
    means_of_expressible (expressible.readBack positional) (Nat.le_refl _)
  exact ⟨shape, trivial, spells⟩

theorem garbles_compare {capability : Capability} {property : String}
    {op : Comparator} {literal : Value} (known : capability ≠ .unknown)
    (named : IsName property) (misread : Misread literal) :
    Garbles (compare capability property op literal) := by
  intro rest stops whole reads chain
  have before : Spells _ _ [.word capability.name, .dot,
      .word property, .op op] :=
    spells_comparison known named (spells_nil (literalSpelling literal ++ rest))
  rw [spelling_compare] at reads
  simp only [List.append_assoc, List.append_nil] at reads before
  obtain ⟨later, rfl, readsLiteral⟩ := (before whole).mp (by simpa using reads)
  exact misread rest op later stops readsLiteral chain.tail.tail.tail

/-- A double that is not written with a point alone garbles the whole text, by
induction on what stands around it. -/
theorem garbles (expressible : Expressible ReadLiteral predicate)
    (bad : ∃ number ∈ predicate.doubles, ¬number.IsPositional) :
    Garbles predicate := by
  induction expressible with
  | is _ =>
      obtain ⟨number, member, _⟩ := bad
      cases member
  | @compare capability property op literal known named readable suits =>
      obtain ⟨number, member, bad⟩ := bad
      cases literal with
      | double other =>
          obtain rfl : number = other := by simpa [doubles] using member
          exact garbles_compare known named (misread_of_not_isPositional bad)
      | _ => cases member
  | all several each induction =>
      refine fun rest _ => garbled_group (fun rest stops => ?_) rest
      obtain ⟨number, member, bad⟩ := bad
      obtain ⟨operand, isOperand, within⟩ := mem_doublesAmong.mp member
      exact garbled_joined separates_and
        (fun other isOther => means_of_not_garbles (each other isOther)
          (induction other isOther))
        ⟨operand, isOperand, induction operand isOperand ⟨number, within, bad⟩⟩
          stops
  | any several each induction =>
      refine fun rest _ => garbled_group (fun rest stops => ?_) rest
      obtain ⟨number, member, bad⟩ := bad
      obtain ⟨operand, isOperand, within⟩ := mem_doublesAmong.mp member
      exact garbled_joined separates_or
        (fun other isOther => means_of_not_garbles (each other isOther)
          (induction other isOther))
        ⟨operand, isOperand, induction operand isOperand ⟨number, within, bad⟩⟩
          stops

end Trees

/-- The text of the predicate is parsed to the predicate. -/
structure Restorable (predicate : Predicate) : Prop where
  nested : predicate.nesting ≤ groupLimit
  positional : ∀ number ∈ predicate.doubles, number.IsPositional

instance (predicate : Predicate) : Decidable predicate.Restorable :=
  decidable_of_iff
    (predicate.nesting ≤ groupLimit ∧ ∀ number ∈ predicate.doubles,
      number.IsPositional)
    ⟨fun ⟨nested, positional⟩ => ⟨nested, positional⟩,
      fun ⟨nested, positional⟩ => ⟨nested, positional⟩⟩

section Ladders

/-- Factors and terms side by side, one inside the other. -/
def ladder : Nat → Predicate
  | 0 => is .block
  | rungs + 1 => any [is .block, all [is .camera, ladder rungs]]

/-- A text of the ladder with one pair of brackets for each rung: conjunctions
are left to precedence. -/
def ladderSpelling : Nat → List Char
  | 0 => (is .block).spelling
  | rungs + 1 =>
      (is .block).spelling ++ (" OR ".toList ++
        ((is .camera).spelling ++ (" AND ".toList ++
        (['('] ++ (ladderSpelling rungs ++ [')'])))))

def ladderTokens : Nat → List Token
  | 0 => [.is, .word "Block"]
  | rungs + 1 =>
      [.is, .word "Block"] ++ ([.or] ++ ([.is, .word "Camera"] ++ ([.and] ++
        ([.opening .round] ++ (ladderTokens rungs ++ [.closing .round])))))

theorem nesting_ladder (rungs : Nat) : (ladder rungs).nesting = 2 * rungs := by
  induction rungs with
  | zero => rfl
  | succ rungs induction =>
      have step : (ladder (rungs + 1)).nesting =
          (ladder rungs).nesting + 2 := by
        simp [ladder, nesting, deepest]
      rw [step, induction]
      omega

theorem expression_ladder {rungs room : Nat} (fits : rungs ≤ room) :
    Expression (Factor room) (ladderTokens rungs) (ladder rungs) := by
  have block {room : Nat} : Factor room [.is, .word "Block"] (is .block) :=
    factor_is (by decide : Capability.block ≠ .unknown)
  have camera {room : Nat} : Factor room [.is, .word "Camera"] (is .camera) :=
    factor_is (by decide : Capability.camera ≠ .unknown)
  induction rungs generalizing room with
  | zero => exact .alone (.alone block)
  | succ rungs induction =>
      cases room with
      | zero => cases fits
      | succ room =>
          have group : Factor (room + 1)
              (.opening .round :: (ladderTokens rungs ++ [.closing .round]))
                  (ladder rungs) :=
            .group (induction (Nat.le_of_succ_le_succ fits))
          have both : Term (Factor (room + 1)) _
              (all [is .camera, ladder rungs]) :=
            .several (.more camera (.one group)) (Nat.le_refl 2)
          exact .several (.more (.alone block) (.one both)) (Nat.le_refl 2)

theorem spells_ladder (rungs : Nat) {rest : List Char} (ends : EndsWord rest) :
    Spells (ladderSpelling rungs) rest (ladderTokens rungs) := by
  have block {rest : List Char} (ends : EndsWord rest) :
      Spells (is .block).spelling rest [.is, .word "Block"] :=
    spells_is (by decide : Capability.block ≠ .unknown) ends
  have camera {rest : List Char} (ends : EndsWord rest) :
      Spells (is .camera).spelling rest [.is, .word "Camera"] :=
    spells_is (by decide : Capability.camera ≠ .unknown) ends
  induction rungs generalizing rest with
  | zero => exact block ends
  | succ rungs induction =>
      have closes : EndsWord (')' :: rest) := by
        rintro c ⟨⟩
        decide +kernel
      have opening {rest : List Char} : Spells ['('] rest [.opening .round] :=
        spells_scanned [] (by decide) fun _ => rfl
      have closing : Spells [')'] rest [.closing .round] :=
        spells_scanned [] (by decide) fun _ => rfl
      have group := opening.append ((induction closes).append closing)
      have term := (camera stops_blank.endsWord).append
        ((separates_and.spells _).append group)
      exact (block stops_blank.endsWord).append
        ((separates_or.spells _).append term)

/-- A ladder within the limit is accepted, though its own text has twice the
brackets. -/
theorem parse_ladder {rungs : Nat} (fits : rungs ≤ groupLimit) :
    parse (String.ofList (ladderSpelling rungs)) = .ok (ladder rungs) := by
  have reads := (spells_ladder rungs stops_nil.endsWord).reads reads_nil
  rw [List.append_nil, List.append_nil] at reads
  refine parse_of_reads ?_ (.expression (expression_ladder fits))
  rwa [String.toList_ofList]

end Ladders

section Reparsing

variable {text : String} {predicate other : Predicate}

theorem restorable_empty : Restorable empty := ⟨Nat.zero_le _, nofun⟩

theorem parse_render_of_restorable
    (expressible : predicate = empty ∨ Expressible ReadLiteral predicate)
    (restorable : predicate.Restorable) :
    parse predicate.render = .ok predicate := by
  rcases expressible with rfl | expressible
  · exact parse_of_reads reads_nil .nothing
  · exact parse_render_of_expressible
      (expressible.readBack restorable.positional) restorable.nested

/-- A text that is accepted has no word in a wrong place, and no more brackets
than fit. -/
theorem restorable_of_parse_render
    (expressible : predicate = empty ∨ Expressible ReadLiteral predicate)
    (reparsed : parse predicate.render = .ok other) : predicate.Restorable := by
  rcases expressible with rfl | expressible
  · exact restorable_empty
  · obtain ⟨lexemes, lexed, reparsed⟩ := exists_of_bind_eq_ok reparsed
    rw [ofText, render, String.toList_ofList] at lexed
    have reads := reads_of_ofChars lexed
    have sentence := ofLexemes_eq_ok_iff.mp reparsed
    have positional : ∀ number ∈ predicate.doubles, number.IsPositional := by
      intro number member
      by_contra bad
      have garbled := garbles expressible ⟨number, member, bad⟩ [] stops_nil
      rw [List.append_nil] at garbled
      exact garbled _ reads (isChain_of_sentence sentence)
    refine ⟨?_, positional⟩
    obtain ⟨shape, ⟨_, isHigh⟩, spells⟩ :=
      means_of_expressible (expressible.readBack positional) (Nat.le_refl _)
    have whole := (spells [] stops_nil).reads reads_nil
    rw [List.append_nil, List.append_nil] at whole
    obtain rfl := whole.unique reads
    obtain ⟨height, within, has⟩ := fits_sentence sentence
    rw [isHigh.unique has]
    exact within

/-- Whatever a text is parsed to is restored from its own text exactly if its
brackets fit and its doubles are written without an exponent, and otherwise its
own text is rejected. -/
theorem parse_render_of_parse (parsed : parse text = .ok predicate) :
    (parse predicate.render = .ok predicate ↔ predicate.Restorable) ∧
      (¬predicate.Restorable → ∃ reason, parse predicate.render =
        .error reason) := by
  have expressible := expressible_of_parse parsed
  refine ⟨⟨restorable_of_parse_render expressible,
    parse_render_of_restorable expressible⟩, ?_⟩
  intro otherwise
  cases reparsed : parse predicate.render with
  | error reason => exact ⟨reason, rfl⟩
  | ok other =>
      exact absurd (restorable_of_parse_render expressible reparsed) otherwise

/-- A negative zero, and a conjunction that needs no brackets. -/
def sizedOrFaint : Predicate :=
  any [compare .block "Size" .ge (.double ⟨0x8000000000000000⟩),
    all [is .camera, compare .battery "Level" .lt
      (.double ⟨0x4004000000000000⟩)]]

theorem parse_render_sizedOrFaint :
    parse "Block.Size >= -0.0 OR IS Camera AND Battery.Level < 2.50" =
      .ok sizedOrFaint ∧
      sizedOrFaint.render =
        "[Block.Size >= -0.0 OR [IS Camera AND Battery.Level < 2.5]]" ∧
      parse sizedOrFaint.render = .ok sizedOrFaint := by
  have block : Names "Block" .block := ⟨by decide, rfl⟩
  have battery : Names "Battery" .battery := ⟨by decide, rfl⟩
  have size : Factor groupLimit
      [.word "Block", .dot, .word "Size", .op .ge, .double ⟨0x8000000000000000⟩]
      (compare .block "Size" .ge (.double ⟨0x8000000000000000⟩)) :=
    .comparison block rfl nofun
  have camera : Factor groupLimit [.is, .word "Camera"] (is .camera) :=
    factor_is (by decide : Capability.camera ≠ .unknown)
  have level : Factor groupLimit
      [.word "Battery", .dot, .word "Level", .op .lt,
        .double ⟨0x4004000000000000⟩]
      (compare .battery "Level" .lt (.double ⟨0x4004000000000000⟩)) :=
    .comparison battery rfl nofun
  have faint : Term (Factor groupLimit) _ (all [is .camera, _]) :=
    .several (.more camera (.one level)) (Nat.le_refl 2)
  have parsed :
    parse "Block.Size >= -0.0 OR IS Camera AND Battery.Level < 2.50" =
      .ok sizedOrFaint :=
    parse_of_reads (reads_of_lexes (by decide +kernel))
      (.expression (.several (.more (.alone size) (.one faint))
        (Nat.le_refl 2)))
  exact ⟨parsed,
    by decide +kernel, (parse_render_of_parse parsed).1.mpr (by decide +kernel)⟩

/-- The double from which on an exponent is written. -/
def tenQuadrillion : Predicate :=
  compare .block "Size" .eq (.double ⟨0x4341c37937e08000⟩)

/-- The exponent is read as a word, and the thirty-third rung of a ladder is out
of reach. -/
theorem parse_render_tenQuadrillion :
    (parse "Block.Size == 10000000000000000.0" = .ok tenQuadrillion ∧
      tenQuadrillion.render = "Block.Size == 1e16" ∧
      parse tenQuadrillion.render ≠ .ok tenQuadrillion) ∧
    parse (String.ofList (ladderSpelling 33)) = .ok (ladder 33) ∧
      parse (ladder 33).render ≠ .ok (ladder 33) := by
  have block : Names "Block" .block := ⟨by decide, rfl⟩
  have size : Factor groupLimit
      [.word "Block", .dot, .word "Size", .op .eq, .double ⟨0x4341c37937e08000⟩]
      (compare .block "Size" .eq (.double ⟨0x4341c37937e08000⟩)) :=
    .comparison block rfl nofun
  have parsed : parse "Block.Size == 10000000000000000.0" =
      .ok tenQuadrillion :=
    parse_of_reads (reads_of_lexes (by decide +kernel))
      (.expression (.alone (.alone size)))
  have parsedLadder := parse_ladder (by decide : 33 ≤ groupLimit)
  refine ⟨⟨parsed, by decide +kernel, fun reparsed => ?_⟩, parsedLadder,
    fun reparsed => ?_⟩
  · have restorable := restorable_of_parse_render
      (expressible_of_parse parsed) reparsed
    revert restorable
    decide +kernel
  · have nested := (restorable_of_parse_render
      (expressible_of_parse parsedLadder) reparsed).nested
    rw [nesting_ladder] at nested
    exact absurd nested (by decide)

end Reparsing

end Predicate

end Hotplug
