import Mathlib.Tactic.Choose
import Hotplug.Proofs.Yields

/-!
# Steps with one answer

A step may change the state, and later ones may see what it has changed. It is
determined if its answer does not depend on this: it answers the same in all
states that have a property, never crashes in them, and leaves a state with a
property again.
-/

namespace Hotplug

namespace Run

variable {σ τ α β : Type} {before between after : σ → Prop}

/-- The step always gives this answer. -/
def Answers (before after : σ → Prop) (step : Run σ α) (answer : α) : Prop :=
  ∀ state, before state →
    step.Yields state (fun given left => given = answer ∧ after left)
      fun _ => False

/-- The step always gives the same answer, which has a property. -/
def Settles (proper : α → Prop) (before after : σ → Prop) (step : Run σ α) :
    Prop :=
  ∃ answer, proper answer ∧ Answers before after step answer

abbrev Determined (before after : σ → Prop) (step : Run σ α) : Prop :=
  Settles (fun _ => True) before after step

namespace Answers

variable {step : Run σ α} {answer : α}

theorem bind {next : α → Run σ β} {last : β}
    (answers : Answers before between step answer)
    (finishes : Answers between after (next answer) last) :
    Answers before after (step >>= next) last := by
  intro state holds
  rw [yields_bind]
  refine (answers state holds).mono ?_ fun _ none => none
  intro given left outcome
  obtain ⟨rfl, holdsLeft⟩ := outcome
  exact finishes left holdsLeft

theorem mono {stronger weaker : σ → Prop}
    (answers : Answers before after step answer)
    (enough : ∀ state, stronger state → before state)
    (more : ∀ state, after state → weaker state) :
    Answers stronger weaker step answer := by
  intro state holds
  refine (answers state (enough state holds)).mono ?_ fun _ none => none
  exact fun _ left outcome => ⟨outcome.1, more left outcome.2⟩

theorem onCrash (answers : Answers before after step answer) (last : σ → σ) :
    Answers before after (step.onCrash last) answer := by
  intro state holds
  rw [yields_onCrash]
  exact answers state holds

private theorem filterAuxM {step : α → Run σ Bool} {test : α → Bool}
    (each : ∀ item, Answers before before (step item) (test item))
    (items passed : List α) :
    Answers before before (items.filterAuxM step passed)
      ((items.filter test).reverse ++ passed) := by
  induction items generalizing passed with
  | nil => exact fun _ holds => ⟨rfl, holds⟩
  | cons item items induction =>
      rw [List.filterAuxM]
      refine (each item).bind ?_
      cases passes : test item with
      | false => simpa [passes] using induction passed
      | true => simpa [passes] using induction (item :: passed)

theorem filterM {step : α → Run σ Bool} {test : α → Bool}
    (each : ∀ item, Answers before before (step item) (test item))
    (items : List α) :
    Answers before before (items.filterM step) (items.filter test) := by
  refine (filterAuxM each items []).bind fun _ holds => ⟨?_, holds⟩
  rw [List.append_nil, List.reverse_reverse]

theorem zoom {view : τ → σ} {put : σ → τ → τ} {start final : τ → Prop}
    (answers : Answers before after step answer)
    (viewed : ∀ whole, start whole → before (view whole))
    (restored : ∀ whole, start whole → ∀ part, after part →
      final (put part whole)) :
    Answers start final (step.zoom view put) answer := by
  intro whole holds
  rw [yields_zoom]
  refine (answers (view whole) (viewed whole holds)).mono ?_ fun _ none => none
  exact fun _ part outcome => ⟨outcome.1, restored whole holds part outcome.2⟩

end Answers

namespace Settles

variable {proper : α → Prop} {final : β → Prop}

theorem pure {answer : α} (isProper : proper answer) :
    Settles proper before before (Pure.pure answer : Run σ α) :=
  ⟨answer, isProper, fun _ holds => ⟨rfl, holds⟩⟩

theorem bind {step : Run σ α} {next : α → Run σ β}
    (first : Settles proper before between step)
    (later : ∀ answer, proper answer →
      Settles final between after (next answer)) :
    Settles final before after (step >>= next) := by
  obtain ⟨answer, isProper, answers⟩ := first
  obtain ⟨last, isFinal, finishes⟩ := later answer isProper
  exact ⟨last, isFinal, answers.bind finishes⟩

/-- What a step looks up first is the same in all states, as far as it
matters. -/
theorem bindGet {next : σ → Run σ β} {step : Run σ β}
    (same : ∀ state, before state → next state = step)
    (settles : Settles final before after step) :
    Settles final before after (get >>= next) := by
  obtain ⟨answer, isFinal, answers⟩ := settles
  refine ⟨answer, isFinal, fun state holds => ?_⟩
  rw [yields_bind, yields_get, same state holds]
  exact answers state holds

theorem onCrash {step : Run σ α} (settles : Settles proper before after step)
    (last : σ → σ) :
    Settles proper before after (step.onCrash last) := by
  obtain ⟨answer, isProper, answers⟩ := settles
  exact ⟨answer, isProper, answers.onCrash last⟩

theorem mono {stronger weaker : σ → Prop} {step : Run σ α}
    (settles : Settles proper before after step)
    (enough : ∀ state, stronger state → before state)
    (more : ∀ state, after state → weaker state) :
    Settles proper stronger weaker step := by
  obtain ⟨answer, isProper, answers⟩ := settles
  exact ⟨answer, isProper, answers.mono enough more⟩

theorem imp {weaker : α → Prop} {step : Run σ α}
    (settles : Settles proper before after step)
    (enough : ∀ answer, proper answer → weaker answer) :
    Settles weaker before after step := by
  obtain ⟨answer, isProper, answers⟩ := settles
  exact ⟨answer, enough answer isProper, answers⟩

theorem foldlM {step : β → α → Run σ β} {items : List α} {start : β}
    (isFinal : final start)
    (each : ∀ answer, final answer → ∀ item ∈ items,
      Settles final before before (step answer item)) :
    Settles final before before (items.foldlM step start) := by
  induction items generalizing start with
  | nil => exact .pure isFinal
  | cons item items induction =>
      rw [List.foldlM_cons]
      refine (each start isFinal item List.mem_cons_self).bind
          fun answer isFinal => induction isFinal ?_
      exact fun answer isFinal later member =>
        each answer isFinal later (List.mem_cons_of_mem item member)

theorem filterM {step : α → Run σ Bool} {items : List α}
    (each : ∀ item, Determined before before (step item)) :
    Settles (fun chosen => ∀ item ∈ chosen, item ∈ items) before before
      (items.filterM step) := by
  choose test _ answers using each
  exact ⟨items.filter test, fun _ member => (List.mem_filter.mp member).1,
    .filterM answers items⟩

/-- The answer is the same each time, as long as the property is there each
time. -/
theorem again {step : Run σ α} (settles : Settles proper before after step)
    {state : σ} (holds : before state) :
    ∃ answer left, step.start state = (.ok answer, left) ∧ ∀ meanwhile,
      (proper answer → after left → before meanwhile) →
        ∃ final, step.start meanwhile = (.ok answer, final) := by
  obtain ⟨answer, isProper, answers⟩ := settles
  obtain ⟨_, left, started, rfl, holdsLeft⟩ :=
    (answers state holds).exists_start
  refine ⟨_, left, started, fun meanwhile kept => ?_⟩
  obtain ⟨_, final, startedAgain, rfl, _⟩ :=
    (answers meanwhile (kept isProper holdsLeft)).exists_start
  exact ⟨final, startedAgain⟩

end Settles

namespace Determined

theorem pure (answer : α) :
    Determined before before (Pure.pure answer : Run σ α) :=
  Settles.pure trivial

theorem bind {step : Run σ α} {next : α → Run σ β}
    (first : Determined before between step)
    (later : ∀ answer, Determined between after (next answer)) :
    Determined before after (step >>= next) :=
  Settles.bind first fun answer _ => later answer

theorem map {step : Run σ α} (determined : Determined before after step)
    (change : α → β) :
    Determined before after (do return change (← step)) :=
  determined.bind fun _ => .pure _

theorem modify {change : σ → σ}
    (changed : ∀ state, before state → after (change state)) :
    Determined before after (modify change : Run σ PUnit) :=
  ⟨⟨⟩, trivial, fun state holds => ⟨rfl, changed state holds⟩⟩

end Determined

end Run

end Hotplug
