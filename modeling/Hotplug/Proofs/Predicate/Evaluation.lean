import Hotplug.Predicate.Selection
import Hotplug.Proofs.Yields

/-!
# What a predicate answers

Judging a device may need many steps. When the device answers as a profile says,
the judgement is the truth value on that profile; whatever it answers, the
judgement keeps what its steps keep.
-/

namespace Hotplug

variable {τ : Type} {device : Device (Run τ)}

/-- The device answers as a profile says, never crashes, and leaves the state
steady. -/
structure Device.AnswersAs (device : Device (Run τ))
    (profile : Predicate.Profile) (steady : τ → Prop) :
    Prop where
  capabilities : ∀ state, steady state → device.capabilities.Yields state
    (fun reported left =>
      (∀ capability, reported.contains capability =
        profile.reports capability) ∧ steady left)
    fun _ => False
  property : ∀ state, steady state → ∀ capability name,
    profile.reports capability = true →
    (device.property capability name .fetched).Yields state
      (fun value left => value = profile.value capability name ∧ steady left)
        fun _ => False

/-- Whatever the device is asked in a judgement keeps a property of the
state. -/
structure Device.Preserves (device : Device (Run τ)) (steady : τ → Prop) :
    Prop where
  capabilities : device.capabilities.Keeps steady
  property : ∀ capability name,
    (device.property capability name .fetched).Keeps steady

namespace Predicate

section Truth

variable {profile : Profile} {steady : τ → Prop}

theorem yields_reports (answers : device.AnswersAs profile steady) {state : τ}
    (holds : steady state) (capability : Capability) :
    (device.reports capability).Yields state
      (fun answer left => answer = profile.reports capability ∧ steady left)
        fun _ => False := by
  simp only [Device.reports, Run.yields_bind, Run.yields_pure]
  refine (answers.capabilities state holds).mono ?_ fun _ none => none
  intro reported left outcome
  obtain ⟨same, after⟩ := outcome
  exact ⟨same capability, after⟩

theorem yields_comparisonSelects (answers : device.AnswersAs profile steady)
    {state : τ} (holds : steady state) (capability : Capability)
    (property : String) (op : Comparator) (literal : Value) :
    (comparisonSelects device capability property op literal).Yields state
      (fun answer left =>
        answer = truth profile (.compare capability property op literal) ∧
          steady left)
      fun _ => False := by
  rw [comparisonSelects, Run.yields_bind]
  refine (yields_reports answers holds capability).mono ?_ fun _ none => none
  intro answer left outcome
  obtain ⟨rfl, after⟩ := outcome
  cases reported : profile.reports capability with
  | false => exact ⟨by simp [truth, reported], after⟩
  | true =>
      rw [if_pos rfl, Run.yields_bind]
      refine (answers.property left after capability property reported).mono ?_
        fun _ none => none
      intro value final outcome
      obtain ⟨rfl, afterProperty⟩ := outcome
      cases held : profile.value capability property with
      | none => exact ⟨by simp [truth, held], afterProperty⟩
      | some actual => exact ⟨by simp [truth, held, reported], afterProperty⟩

mutual

theorem yields_selects (answers : device.AnswersAs profile steady)
    (predicate : Predicate) {state : τ} (holds : steady state) :
    (predicate.selects device).Yields state
      (fun answer left => answer = predicate.truth profile ∧ steady left)
        fun _ => False := by
  cases predicate with
  | empty => exact ⟨rfl, holds⟩
  | invalid => exact ⟨rfl, holds⟩
  | is capability => exact yields_reports answers holds capability
  | compare capability property op literal =>
      exact yields_comparisonSelects answers holds capability
        property op literal
  | all operands => exact yields_selectsAll answers operands holds
  | any operands => exact yields_selectsAny answers operands holds

theorem yields_selectsAll (answers : device.AnswersAs profile steady)
    (operands : List Predicate) {state : τ} (holds : steady state) :
    (selectsAll device operands).Yields state
      (fun answer left => answer = truthAll profile operands ∧ steady left)
        fun _ => False := by
  cases operands with
  | nil => exact ⟨rfl, holds⟩
  | cons operand rest =>
      rw [selectsAll, Run.yields_bind]
      refine (yields_selects answers operand holds).mono ?_ fun _ none => none
      intro answer left outcome
      obtain ⟨rfl, after⟩ := outcome
      cases judged : truth profile operand with
      | false => exact ⟨by simp [truthAll, judged], after⟩
      | true =>
          simpa [truthAll, judged] using yields_selectsAll answers rest after

theorem yields_selectsAny (answers : device.AnswersAs profile steady)
    (operands : List Predicate) {state : τ} (holds : steady state) :
    (selectsAny device operands).Yields state
      (fun answer left => answer = truthAny profile operands ∧ steady left)
        fun _ => False := by
  cases operands with
  | nil => exact ⟨rfl, holds⟩
  | cons operand rest =>
      rw [selectsAny, Run.yields_bind]
      refine (yields_selects answers operand holds).mono ?_ fun _ none => none
      intro answer left outcome
      obtain ⟨rfl, after⟩ := outcome
      cases judged : truth profile operand with
      | true => exact ⟨by simp [truthAny, judged], after⟩
      | false =>
          simpa [truthAny, judged] using yields_selectsAny answers rest after

end

end Truth

section Frame

variable {steady : τ → Prop}

theorem keeps_reports (preserves : device.Preserves steady)
    (capability : Capability) :
    (device.reports capability).Keeps steady := by
  intro state holds
  simpa only [Device.reports, Run.yields_bind, Run.yields_pure] using
    preserves.capabilities state holds

theorem keeps_comparisonSelects (preserves : device.Preserves steady)
    (capability : Capability) (property : String) (op : Comparator)
    (literal : Value) :
    (comparisonSelects device capability property op literal).Keeps steady := by
  intro state holds
  rw [comparisonSelects, Run.yields_bind]
  refine (keeps_reports preserves capability state holds).mono ?_
    fun _ after => after
  intro answer left after
  rcases answer with _ | _
  · exact after
  · rw [if_pos rfl, Run.yields_bind]
    refine (preserves.property capability property left after).mono ?_
      fun _ final => final
    intro value _ final
    rcases value with _ | actual
    · exact final
    · exact final

mutual

theorem keeps_selects (preserves : device.Preserves steady)
    (predicate : Predicate) :
    (predicate.selects device).Keeps steady := by
  cases predicate with
  | empty => exact fun _ holds => holds
  | invalid => exact fun _ holds => holds
  | is capability => exact keeps_reports preserves capability
  | compare capability property op literal =>
      exact keeps_comparisonSelects preserves capability property op literal
  | all operands => exact keeps_selectsAll preserves operands
  | any operands => exact keeps_selectsAny preserves operands

theorem keeps_selectsAll (preserves : device.Preserves steady)
    (operands : List Predicate) :
    (selectsAll device operands).Keeps steady := by
  cases operands with
  | nil => exact fun _ holds => holds
  | cons operand rest =>
      intro state holds
      rw [selectsAll, Run.yields_bind]
      refine (keeps_selects preserves operand state holds).mono ?_
        fun _ after => after
      intro answer left after
      rcases answer with _ | _
      · exact after
      · exact keeps_selectsAll preserves rest left after

theorem keeps_selectsAny (preserves : device.Preserves steady)
    (operands : List Predicate) :
    (selectsAny device operands).Keeps steady := by
  cases operands with
  | nil => exact fun _ holds => holds
  | cons operand rest =>
      intro state holds
      rw [selectsAny, Run.yields_bind]
      refine (keeps_selects preserves operand state holds).mono ?_
        fun _ after => after
      intro answer left after
      rcases answer with _ | _
      · exact keeps_selectsAny preserves rest left after
      · exact after

end

end Frame

end Predicate

end Hotplug
