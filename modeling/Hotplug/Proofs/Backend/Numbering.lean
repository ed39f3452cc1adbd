import Hotplug.Backend.Service

/-!
# The numbers of objects

A backend gives each object that it makes the next number. So an object is known
by its number, also after it was let go of: no other one has it or will have it.
-/

namespace Hotplug

namespace ServiceBackend

variable {σ : Type} {backend : ServiceBackend σ} {udi : String}
  {object : ServiceObject}

def tracks (backend : ServiceBackend σ) (udi : String) : Bool :=
  backend.cache.tracks udi

def identifierPrefix (backend : ServiceBackend σ) : String :=
  backend.config.identifierPrefix

/-- The object that is made for an identifier. -/
def formOf (backend : ServiceBackend σ) (udi : String) : ServiceObject :=
  if udi = backend.identifierPrefix then .root udi else .tracked udi

/-- Objects are those of tracked identifiers and of the service itself. No two
of them have the same number, and their numbers are used up. -/
structure WellKept (backend : ServiceBackend σ) : Prop where
  formed : ∀ (udi : String) kept, backend.objects[udi]? = some kept →
    kept.object = backend.formOf udi
  housed : ∀ (udi : String) kept, backend.objects[udi]? = some kept →
    udi = backend.identifierPrefix ∨ backend.tracks udi = true
  below : ∀ (udi : String) kept, backend.objects[udi]? = some kept →
    kept.serial < backend.nextSerial
  single : ∀ (udi other : String) kept same, backend.objects[udi]? = some kept →
    backend.objects[other]? = some same → kept.serial =
      same.serial → udi = other

/-- An object that was not there before has a number that was not used
before. -/
structure Succeeds (before after : ServiceBackend σ) : Prop where
  settings : after.settings = before.settings
  nextSerial : before.nextSerial ≤ after.nextSerial
  fresh : ∀ (udi : String) kept, after.objects[udi]? = some kept →
    before.objects[udi]? = some kept ∨ before.nextSerial ≤ kept.serial
  wellKept : before.WellKept → after.WellKept

theorem WellKept.ofEmpty
    (empty : ∀ udi : String, backend.objects[udi]? = none) :
    backend.WellKept where
  formed udi kept held := by simp [empty udi] at held
  housed udi kept held := by simp [empty udi] at held
  below udi kept held := by simp [empty udi] at held
  single udi _ kept _ held := by simp [empty udi] at held

theorem getElem?_objects_keep {other : String} :
    (backend.keep udi object).2.objects[other]? =
      if udi = other then some ⟨backend.nextSerial, object⟩
        else backend.objects[other]? := by
  simp [keep, Std.ExtTreeMap.getElem?_insert]

theorem identifierPrefix_eq {left : ServiceBackend σ}
    (settings : left.settings = backend.settings) :
    left.identifierPrefix = backend.identifierPrefix := by
  rw [identifierPrefix, config, settings]
  rfl

theorem formOf_eq {left : ServiceBackend σ}
    (settings : left.settings = backend.settings) :
    left.formOf = backend.formOf := by
  funext udi
  rw [formOf, identifierPrefix_eq settings]
  rfl

namespace Succeeds

variable {first second third : ServiceBackend σ}

theorem refl (backend : ServiceBackend σ) : Succeeds backend backend :=
  ⟨rfl, Nat.le_refl _, fun _ _ => .inl, id⟩

theorem trans (one : Succeeds first second) (two : Succeeds second third) :
    Succeeds first third where
  settings := two.settings.trans one.settings
  nextSerial := Nat.le_trans one.nextSerial two.nextSerial
  fresh udi kept held := by
    rcases two.fresh udi kept held with earlier | later
    · exact one.fresh udi kept earlier
    · exact .inr (Nat.le_trans one.nextSerial later)
  wellKept given := two.wellKept (one.wellKept given)

/-- Objects were let go of, if anything, among them those of what is no longer
tracked. -/
theorem ofFewer (settings : second.settings = first.settings)
    (nextSerial : second.nextSerial = first.nextSerial)
    (fewer : ∀ (udi : String) kept, second.objects[udi]? = some kept →
      first.objects[udi]? = some kept ∧
      (first.tracks udi = true → udi = second.identifierPrefix ∨
        second.tracks udi = true)) :
    Succeeds first second where
  settings := settings
  nextSerial := Nat.le_of_eq nextSerial.symm
  fresh udi kept held := .inl (fewer udi kept held).1
  wellKept given := by
    constructor
    · intro udi kept held
      rw [formOf_eq settings]
      exact given.formed udi kept (fewer udi kept held).1
    · intro udi kept held
      obtain ⟨before, stays⟩ := fewer udi kept held
      rcases given.housed udi kept before with isPrefix | tracked
      · exact .inl (isPrefix.trans (identifierPrefix_eq settings).symm)
      · exact stays tracked
    · intro udi kept held
      rw [nextSerial]
      exact given.below udi kept (fewer udi kept held).1
    · intro udi other kept same held heldToo
      exact given.single udi other kept same (fewer udi kept held).1
        (fewer other same heldToo).1

theorem ofKeep (backend : ServiceBackend σ) {udi : String}
    (reason : udi = backend.identifierPrefix ∨ backend.tracks udi = true) :
    Succeeds backend (backend.keep udi (backend.formOf udi)).2 where
  settings := rfl
  nextSerial := Nat.le_succ _
  fresh other kept held := by
    rw [getElem?_objects_keep] at held
    split at held
    · cases held
      exact .inr (Nat.le_refl _)
    · exact .inl held
  wellKept given := by
    constructor
    · intro other kept held
      rw [getElem?_objects_keep] at held
      split at held
      · next same =>
          subst same
          cases held
          rfl
      · exact given.formed other kept held
    · intro other kept held
      rw [getElem?_objects_keep] at held
      split at held
      · next same =>
          subst same
          exact reason
      · exact given.housed other kept held
    · intro other kept held
      rw [getElem?_objects_keep] at held
      split at held
      · cases held
        exact Nat.lt_succ_self _
      · exact Nat.lt_succ_of_lt (given.below other kept held)
    · intro left right kept same heldLeft heldRight serial
      rw [getElem?_objects_keep] at heldLeft heldRight
      split at heldLeft <;> split at heldRight
      · next isLeft isRight => exact isLeft.symm.trans isRight
      · cases heldLeft
        exact absurd serial (Nat.ne_of_gt (given.below right same heldRight))
      · cases heldRight
        exact absurd serial (Nat.ne_of_lt (given.below left kept heldLeft))
      · exact given.single left right kept same heldLeft heldRight serial

end Succeeds

end ServiceBackend

end Hotplug
