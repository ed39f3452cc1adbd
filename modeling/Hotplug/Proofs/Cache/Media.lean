import Hotplug.Proofs.Cache.Changes

/-!
# When a medium is taken for removed

The size of a device is read as a number without a sign, and one that cannot be
read is taken for zero. So a device goes if the judge consents and its size is
zero, but also if the size is nothing that counts at all.
-/

namespace Hotplug

namespace Cache

variable {σ : Type} {settings : CacheSettings σ} {cache : Cache σ}
  {udi : String} {changed : Properties} {invalidated : List String}

/-- A change tells a size that is zero. -/
def TellsZero (config : Config) (changed : Properties) : Prop :=
  ∃ size, changed[config.sizeProperty]? = some size ∧ size.Counts 0

/-- A change tells a size that is no natural number: a text, a list, bytes, or a
number below zero or between two others. -/
def TellsNothing (config : Config) (changed : Properties) : Prop :=
  ∃ size, changed[config.sizeProperty]? = some size ∧ ∀ n, ¬size.Counts n

theorem ejects_baseline_iff :
    Ejects settings cache udi settings.config.baselineInterface
      changed invalidated ↔
      (TellsZero settings.config changed ∨
        TellsNothing settings.config changed) ∧
        verdict settings cache.service udi
          (some ((cache.content udi).applyChanges
          settings.config.baselineInterface changed.plain invalidated)) =
            .ok true := by
  have either (size : Value) : (∀ n, size.Counts n → n = 0) ↔
      size.Counts 0 ∨ ∀ n, ¬size.Counts n := by
    constructor
    · intro zero
      by_cases counts : ∃ n, size.Counts n
      · obtain ⟨n, counts⟩ := counts
        exact .inl (zero n counts ▸ counts)
      · exact .inr (not_exists.mp counts)
    · rintro (zero | nothing) n counts
      · exact counts.unique zero
      · exact absurd counts (nothing n)
  rw [Ejects, reportedSize?, if_pos rfl, TellsZero, TellsNothing, ← exists_or]
  simp only [either, and_or_left]

/-- A tracked device goes with its medium, and only so, if a heeded change of
the baseline interface tells a size that is zero or no number, and the judge
consents. -/
theorem yields_absorb_ejected [Service σ] (settings : CacheSettings σ)
    (tracked : cache.tracks udi = true) (changed : Properties)
    (invalidated : List String) :
    (absorb settings (.propertiesChanged udi
      settings.config.baselineInterface changed invalidated)).Yields cache
      (fun events left =>
        (.removed udi ∈ events ↔ left.tracks udi = false) ∧
        (left.tracks udi = false ↔ Heeds settings.config udi ∧
          (TellsZero settings.config changed ∨
            TellsNothing settings.config changed) ∧
          verdict settings cache.service udi
            (some ((cache.content udi).applyChanges
            settings.config.baselineInterface changed.plain invalidated)) =
              .ok true))
      fun left => left.tracks udi = true := by
  rw [absorb, ← ejects_baseline_iff]
  by_cases heeds : Heeds settings.config udi
  · refine (yields_absorbChanged_updated heeds tracked
      settings.config.baselineInterface changed
      invalidated).mono ?_ fun left updated => updated.tracked
    rintro events left ⟨ejected, stays⟩
    by_cases ejects :
      Ejects settings cache udi settings.config.baselineInterface
        changed invalidated
    · obtain ⟨report, -, rfl, dismissed, -⟩ := ejected ejects
      simp [heeds, ejects, dismissed.untracked]
    · obtain ⟨reports, updated⟩ := stays ejects
      have silent : .removed udi ∉ events := by
        by_cases touches : Touches changed invalidated
        · obtain ⟨changes, rfl, -⟩ := reports.told touches
          simp
        · simp [reports.silent touches]
      simp [ejects, silent, updated.tracked]
  · rw [Run.Yields, start_absorbChanged_of_not_heeds heeds]
    simp [heeds, tracked]

/-- The size of a device becomes this. -/
def resize (size : Value) : Properties := Std.ExtTreeMap.ofList [("Size", size)]

/-- A card is taken out, and what is said of its size is that there is none. -/
theorem yields_absorb_ejected_false :
    ∃ events left, (absorb cardReader (.propertiesChanged cardUdi "s.Block"
        (resize (.bool false)) [])).start inserted = (.ok events, left) ∧
      .removed cardUdi ∈ events ∧ left.tracks cardUdi = false := by
  have outcome := yields_absorb_ejected cardReader
    (show inserted.tracks cardUdi = true by decide +kernel)
      (resize (.bool false)) []
  have heeds : Heeds cardReader.config cardUdi :=
    ⟨by decide, by decide, by decide⟩
  have zero : TellsZero cardReader.config (resize (.bool false)) :=
    ⟨.bool false, by decide, rfl⟩
  rcases handled : (absorb cardReader (.propertiesChanged cardUdi "s.Block"
      (resize (.bool false)) [])).start inserted with ⟨reason | events, left⟩
  · have answered : ((absorb cardReader (.propertiesChanged cardUdi
        "s.Block" (resize (.bool false)) [])).start inserted).1.isOk =
          true := by decide +kernel
    rw [handled] at answered
    cases answered
  · rw [Run.Yields, show cardReader.config.baselineInterface = "s.Block"
      from rfl, handled] at outcome
    have gone := outcome.2.mpr ⟨heeds, .inl zero, rfl⟩
    exact ⟨events, left, rfl, outcome.1.mpr gone, gone⟩

/-- One half. -/
def half : Binary64 := ⟨0x3FE0000000000000⟩

def uncountable : List Value :=
  [.text "4 GB", .texts ["4", "GB"], .bytes [52, 255], .int (-1), .double half]

/-- The card goes though none of these sizes is zero. -/
theorem ejected_uncountable :
    uncountable.map Value.number? =
      [none, none, none, some (-1), some (1 / 2)] ∧ (uncountable.map fun size =>
        ((absorb cardReader (.propertiesChanged cardUdi "s.Block"
          (resize size) [])).start inserted).2.tracks cardUdi) =
        [false, false, false, false, false] := by
  decide +kernel

end Cache

end Hotplug
