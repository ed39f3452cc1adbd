import Hotplug.Proofs.Predicate.Phrases

/-!
# How deep brackets nest

The brackets of a phrase close again, so that the phrase adds a height of its
own to whatever it stands in. The room of a factor is a bound on its height.
-/

namespace Hotplug

namespace Predicate

/-- How many brackets are open where most of them are. -/
def openFrom (count : Nat) : List Token → Nat
  | [] => count
  | .opening _ :: rest => openFrom (count + 1) rest
  | .closing _ :: rest => max count (openFrom (count - 1) rest)
  | _ :: rest => openFrom count rest

/-- The brackets of the tokens close again and nest as deep as said. -/
def HasHeight (height : Nat) (tokens : List Token) : Prop :=
  ∀ count rest, openFrom count (tokens ++ rest) = max (count + height)
    (openFrom count rest)

/-- The token is no bracket. -/
def IsPlain : Token → Prop
  | .opening _ => False
  | .closing _ => False
  | _ => True

theorem isPlain_and : IsPlain .and := trivial

theorem isPlain_or : IsPlain .or := trivial

section Heights

variable {token : Token} {tokens later : List Token} {height other : Nat}

theorem le_openFrom (count : Nat) (tokens : List Token) :
    count ≤ openFrom count tokens := by
  induction tokens generalizing count with
  | nil => exact Nat.le_refl _
  | cons token tokens induction =>
      cases token with
      | opening _ => exact Nat.le_trans (Nat.le_succ _) (induction _)
      | closing _ => exact Nat.le_max_left _ _
      | _ => exact induction _

theorem HasHeight.unique (has : HasHeight height tokens)
    (also : HasHeight other tokens) :
    height = other := by
  have same := (has 0 []).symm.trans (also 0 [])
  simpa [openFrom] using same

theorem hasHeight_nil : HasHeight 0 [] := fun count rest =>
  (Nat.max_eq_right (le_openFrom count rest)).symm

theorem HasHeight.append (has : HasHeight height tokens)
    (others : HasHeight other later) :
    HasHeight (max height other) (tokens ++ later) := by
  intro count rest
  rw [List.append_assoc, has, others]
  omega

theorem hasHeight_plain (plain : IsPlain token) : HasHeight 0 [token] := by
  intro count rest
  have skipped : openFrom count (token :: rest) = openFrom count rest := by
    cases token with
    | opening _ => exact plain.elim
    | closing _ => exact plain.elim
    | _ => rfl
  rw [List.singleton_append, skipped]
  exact (Nat.max_eq_right (le_openFrom count rest)).symm

theorem HasHeight.cons (has : HasHeight height tokens) (plain : IsPlain token) :
    HasHeight height (token :: tokens) := by
  have whole := (hasHeight_plain plain).append has
  rwa [Nat.zero_max] at whole

theorem HasHeight.group (has : HasHeight height tokens) (bracket : Bracket) :
    HasHeight (height + 1) (.opening bracket ::
      (tokens ++ [.closing bracket])) := by
  intro count rest
  have closed : openFrom (count + 1) (.closing bracket :: rest) =
      max (count + 1) (openFrom count rest) := rfl
  have opened : openFrom count
    (.opening bracket :: (tokens ++ [.closing bracket] ++ rest)) =
      openFrom (count + 1) (tokens ++ (.closing bracket :: rest)) := by
    rw [List.append_assoc, List.singleton_append, openFrom]
  rw [List.cons_append, opened, has, closed]
  omega

theorem isPlain_of_literal? {literal : Value}
    (isLiteral : token.literal? = some literal) :
    IsPlain token := by
  cases token with
  | opening _ => cases isLiteral
  | closing _ => cases isLiteral
  | _ => trivial

theorem hasHeight_test {name : String} : HasHeight 0 [.is, .word name] := by
  have plainIs : IsPlain .is := trivial
  have plainName : IsPlain (.word name) := trivial
  exact (hasHeight_plain plainName).cons plainIs

theorem hasHeight_comparison {name property : String} {op : Comparator}
    {literal : Value} (isLiteral : token.literal? = some literal) :
    HasHeight 0 [.word name, .dot, .word property, .op op, token] := by
  have plainName : IsPlain (.word name) := trivial
  have plainDot : IsPlain .dot := trivial
  have plainProperty : IsPlain (.word property) := trivial
  have plainOp : IsPlain (.op op) := trivial
  have last := hasHeight_plain (isPlain_of_literal? isLiteral)
  exact (((last.cons plainOp).cons plainProperty).cons plainDot).cons plainName

end Heights

section Phrases

variable {room : Nat} {shape : List Token}

/-- The tokens have a height that is not above the room. -/
def Fits (room : Nat) (tokens : List Token) : Prop :=
  ∃ height ≤ room, HasHeight height tokens

theorem fits_separated {separator : Token} {predicates : List Predicate}
    (plain : IsPlain separator)
    (separated : Separated separator (fun tokens _ => Fits room tokens)
      shape predicates) :
    Fits room shape := by
  induction separated with
  | one operand => exact operand
  | more operand others induction =>
      obtain ⟨height, within, has⟩ := operand
      obtain ⟨other, within', others⟩ := induction
      exact ⟨max height other, by omega, has.append (others.cons plain)⟩

/-- Each level of groups takes one level of room. -/
theorem closed_fits : Closed fun room tokens _ => Fits room tokens where
  test _ := ⟨0, Nat.zero_le _, hasHeight_test⟩
  comparison _ isLiteral _ := ⟨0, Nat.zero_le _, hasHeight_comparison isLiteral⟩
  group fits := by
    obtain ⟨height, within, has⟩ := fits
    exact ⟨height + 1, Nat.succ_le_succ within, has.group _⟩
  all operands _ := fits_separated isPlain_and operands
  any operands _ := fits_separated isPlain_or operands

theorem fits_sentence {predicate : Predicate}
    (sentence : Sentence shape predicate) :
    Fits groupLimit shape := by
  rcases closed_fits.sentence sentence with ⟨rfl, _⟩ | fits
  · exact ⟨0, Nat.zero_le _, hasHeight_nil⟩
  · exact fits

end Phrases

section Predicates

mutual

/-- How deep conjunctions and disjunctions nest in a predicate. -/
def nesting : Predicate → Nat
  | all operands => deepest operands + 1
  | any operands => deepest operands + 1
  | _ => 0

def deepest : List Predicate → Nat
  | [] => 0
  | operand :: rest => max (nesting operand) (deepest rest)

end

variable {room : Nat} {operands : List Predicate}

theorem deepest_le_iff :
    deepest operands ≤ room ↔ ∀ operand ∈ operands, operand.nesting ≤ room := by
  induction operands with
  | nil => simp [deepest]
  | cons operand rest induction =>
      rw [deepest, Nat.max_le, induction, List.forall_mem_cons]

theorem hasHeight_separated {separator : Token} {Operand : Phrase}
    {shape : List Token} (plain : IsPlain separator)
    (each : ∀ tokens predicate, Operand tokens predicate →
      HasHeight predicate.nesting tokens)
    (separated : Separated separator Operand shape operands) :
    HasHeight (deepest operands) shape := by
  induction separated with
  | one operand =>
      rw [deepest, deepest, Nat.max_zero]
      exact each _ _ operand
  | more operand others induction =>
      rw [deepest]
      exact (each _ _ operand).append (induction.cons plain)

end Predicates

end Predicate

end Hotplug
