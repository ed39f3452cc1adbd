import Hotplug.Predicate.Grammar
import Hotplug.Predicate.Selection

/-!
# The shape of parsed predicates

A predicate that was parsed is empty as a whole or has no empty part: its leaves
name known capabilities and its inner nodes join at least two operands. Such a
predicate selects a device only if the device reports a capability that the
predicate names.
-/

namespace Hotplug

theorem exists_of_bind_eq_ok {ε α β : Type} {first : Except ε α}
    {next : α → Except ε β} {answer : β}
    (ended : (first >>= next) = .ok answer) :
    ∃ middle, first = .ok middle ∧ next middle = .ok answer := by
  cases first with
  | error reason => cases ended
  | ok middle => exact ⟨middle, rfl, ended⟩

namespace Predicate

/-- A predicate whose leaves name known capabilities and whose inner nodes have
at least two operands each. -/
inductive WellShaped : Predicate → Prop where
  | is {capability : Capability} (known : capability ≠ .unknown) :
      WellShaped (.is capability)
  | compare {capability : Capability} {property : String} {op : Comparator}
    {literal : Value} (known : capability ≠ .unknown) :
      WellShaped (.compare capability property op literal)
  | all {operands : List Predicate} (several : 2 ≤ operands.length)
      (each : ∀ operand ∈ operands, WellShaped operand) :
      WellShaped (.all operands)
  | any {operands : List Predicate} (several : 2 ≤ operands.length)
      (each : ∀ operand ∈ operands, WellShaped operand) :
      WellShaped (.any operands)

theorem WellShaped.isEmpty_eq_false {predicate : Predicate}
    (shaped : predicate.WellShaped) :
    predicate.isEmpty = false := by
  cases shaped <;> rfl

theorem WellShaped.isValid {predicate : Predicate}
    (shaped : predicate.WellShaped) :
    predicate.isValid = true := by
  cases shaped <;> rfl

section Parsing

/-- Whatever a parser of operands accepts has a property. -/
def OperandParser.Gives (property : Predicate → Prop) (parser : OperandParser) :
    Prop :=
  ∀ lexemes predicate rest, parser lexemes = .ok (predicate, rest) →
    property predicate

variable {property : Predicate → Prop} {separator : Token}
  {operand : OperandParser}

theorem forall_mem_of_moreOperands (gives : operand.Gives property)
    {lexemes : List Lexeme} {others : List Predicate}
    {final : { rest : List Lexeme // rest.length ≤ lexemes.length }}
    (parsed : moreOperands separator operand lexemes = .ok (others, final)) :
    ∀ other ∈ others, property other := by
  induction lexemes using moreOperands.induct separator generalizing others with
  | case1 =>
      rw [moreOperands] at parsed
      cases parsed
      simp
  | case2 lexeme rest isSeparator induction =>
      rw [moreOperands, if_pos isSeparator] at parsed
      obtain ⟨⟨first, after, shorter⟩, firstParsed, parsed⟩ :=
        exists_of_bind_eq_ok parsed
      obtain ⟨⟨later, final, noLonger⟩, laterParsed, parsed⟩ :=
        exists_of_bind_eq_ok parsed
      cases parsed
      intro other member
      rcases List.mem_cons.mp member with rfl | member
      · exact gives _ _ _ firstParsed
      · exact induction _ shorter laterParsed other member
  | case3 lexeme rest otherwise =>
      rw [moreOperands, if_neg otherwise] at parsed
      cases parsed
      simp

theorem gives_chain {combine : List Predicate → Predicate}
    (gives : operand.Gives property)
    (joins : ∀ operands : List Predicate, 2 ≤ operands.length →
      (∀ other ∈ operands, property other) → property (combine operands)) :
    (chain separator combine operand).Gives property := by
  intro lexemes predicate rest parsed
  obtain ⟨⟨first, after, shorter⟩, firstParsed, parsed⟩ :=
    exists_of_bind_eq_ok parsed
  obtain ⟨⟨others, final, noLonger⟩, othersParsed, parsed⟩ :=
    exists_of_bind_eq_ok parsed
  cases parsed
  have firstHas := gives _ _ _ firstParsed
  have othersHave := forall_mem_of_moreOperands gives othersParsed
  cases others with
  | nil => exact firstHas
  | cons second others =>
      refine joins _ (by simp) ?_
      intro other member
      rcases List.mem_cons.mp member with rfl | member
      · exact firstHas
      · exact othersHave other member

theorem gives_expressionOf {factor : OperandParser}
    (gives : factor.Gives WellShaped) :
    (expressionOf factor).Gives WellShaped :=
  gives_chain (gives_chain gives fun _ => .all) fun _ => .any

theorem capabilityNamed_ne_unknown {name : String} {capability : Capability}
    (named : capabilityNamed name = .ok capability) :
    capability ≠ .unknown := by
  unfold capabilityNamed at named
  intro same
  obtain rfl := same
  split at named
  · cases named
  · next other notUnknown _ =>
      cases named
      exact notUnknown rfl
  · cases named

theorem wellShaped_of_comparisonOf {name : String} {lexemes : List Lexeme}
    {predicate : Predicate} {rest : Remainder lexemes}
    (parsed : comparisonOf name lexemes = .ok (predicate, rest)) :
    predicate.WellShaped := by
  obtain ⟨capability, named, parsed⟩ := exists_of_bind_eq_ok parsed
  obtain ⟨⟨afterDot, _⟩, _, parsed⟩ := exists_of_bind_eq_ok parsed
  obtain ⟨⟨propertyLexeme, afterProperty, _⟩, _, parsed⟩ :=
    exists_of_bind_eq_ok parsed
  dsimp only at parsed
  split at parsed
  · obtain ⟨⟨opLexeme, afterOp, _⟩, _, parsed⟩ := exists_of_bind_eq_ok parsed
    dsimp only at parsed
    split at parsed
    · obtain ⟨⟨literalLexeme, final, _⟩, _, parsed⟩ :=
        exists_of_bind_eq_ok parsed
      dsimp only at parsed
      split at parsed
      · split at parsed
        · cases parsed
          exact .compare (capabilityNamed_ne_unknown named)
        · cases parsed
      · cases parsed
    · cases parsed
  · cases parsed

theorem wellShaped_of_capabilityTest {lexemes : List Lexeme}
    {predicate : Predicate} {rest : Remainder lexemes}
    (parsed : capabilityTest lexemes = .ok (predicate, rest)) :
    predicate.WellShaped := by
  obtain ⟨⟨found, after, _⟩, _, parsed⟩ := exists_of_bind_eq_ok parsed
  dsimp only at parsed
  split at parsed
  · obtain ⟨capability, named, parsed⟩ := exists_of_bind_eq_ok parsed
    cases parsed
    exact .is (capabilityNamed_ne_unknown named)
  · cases parsed

/-- Factors are well shaped, by induction on the room for groups in them. -/
theorem gives_factor (room : Nat) : (factor room).Gives WellShaped := by
  induction room using Nat.strongRecOn with
  | ind room induction =>
      intro lexemes predicate rest parsed
      unfold factor at parsed
      split at parsed
      · cases parsed
      · split at parsed
        · split at parsed
          · cases parsed
          · next inner =>
              obtain ⟨⟨group, after, _⟩, grouped, parsed⟩ :=
                exists_of_bind_eq_ok parsed
              obtain ⟨⟨final, _⟩, _, parsed⟩ := exists_of_bind_eq_ok parsed
              cases parsed
              exact gives_expressionOf
                (induction inner (by omega)) _ _ _ grouped
        · obtain ⟨⟨test, final, _⟩, tested, parsed⟩ :=
            exists_of_bind_eq_ok parsed
          cases parsed
          exact wellShaped_of_capabilityTest tested
        · obtain ⟨⟨comparison, final, _⟩, compared, parsed⟩ :=
            exists_of_bind_eq_ok parsed
          cases parsed
          exact wellShaped_of_comparisonOf compared
        · cases parsed

theorem wellShaped_of_parse {text : String} {predicate : Predicate}
    (parsed : parse text = .ok predicate) (filled : predicate.isEmpty = false) :
    predicate.WellShaped := by
  obtain ⟨lexemes, _, parsed⟩ := exists_of_bind_eq_ok parsed
  cases lexemes with
  | nil =>
      cases parsed
      cases filled
  | cons first lexemes =>
      obtain ⟨⟨whole, rest, _⟩, expressed, parsed⟩ :=
        exists_of_bind_eq_ok parsed
      dsimp only at parsed
      split at parsed
      · cases parsed
        exact gives_expressionOf (gives_factor _) _ _ _ expressed
      · cases parsed

end Parsing

section Truth

theorem someMentions_eq_any (capability : Capability)
    (operands : List Predicate) :
    someMentions capability operands = operands.any (mentions capability) := by
  induction operands with
  | nil => rfl
  | cons operand operands induction =>
      rw [someMentions, induction, List.any_cons]

theorem truthAll_eq_all (profile : Profile) (operands : List Predicate) :
    truthAll profile operands = operands.all (truth profile) := by
  induction operands with
  | nil => rfl
  | cons operand operands induction =>
      rw [truthAll, induction, List.all_cons]

theorem truthAny_eq_any (profile : Profile) (operands : List Predicate) :
    truthAny profile operands = operands.any (truth profile) := by
  induction operands with
  | nil => rfl
  | cons operand operands induction =>
      rw [truthAny, induction, List.any_cons]

@[simp] theorem mem_usedCapabilities {predicate : Predicate}
    {capability : Capability} :
    capability ∈ predicate.usedCapabilities ↔
      predicate.mentions capability = true := by
  simp [usedCapabilities]

/-- A well shaped predicate is true only of profiles that report a capability
which it names. -/
theorem WellShaped.exists_reported {predicate : Predicate} {profile : Profile}
    (shaped : predicate.WellShaped) (holds : predicate.truth profile = true) :
    ∃ capability ∈ predicate.usedCapabilities,
      profile.reports capability = true := by
  induction shaped with
  | @is capability _ => exact ⟨capability, by simp [mentions], holds⟩
  | @compare capability property op literal _ =>
      rw [truth, Bool.and_eq_true] at holds
      exact ⟨capability, by simp [mentions], holds.1⟩
  | @all operands several each induction =>
      rw [truth, truthAll_eq_all, List.all_eq_true] at holds
      have member : operands[0] ∈ operands := List.getElem_mem _
      obtain ⟨capability, named, reported⟩ :=
        induction _ member (holds _ member)
      refine ⟨capability, ?_, reported⟩
      rw [mem_usedCapabilities, mentions, someMentions_eq_any, List.any_eq_true]
      exact ⟨_, member, mem_usedCapabilities.mp named⟩
  | @any operands several each induction =>
      rw [truth, truthAny_eq_any, List.any_eq_true] at holds
      obtain ⟨operand, member, holds⟩ := holds
      obtain ⟨capability, named, reported⟩ := induction operand member holds
      refine ⟨capability, ?_, reported⟩
      rw [mem_usedCapabilities, mentions, someMentions_eq_any, List.any_eq_true]
      exact ⟨operand, member, mem_usedCapabilities.mp named⟩

end Truth

end Predicate

end Hotplug
