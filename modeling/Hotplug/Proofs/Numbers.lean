import Hotplug.Proofs.Binary64.Magnitude
import Hotplug.Value

/-!
# The numbers that values are

Truth values, integers of both kinds and finite doubles are numbers; texts and
bytes are none. Reading a value without a sign finds the natural number that it
is, as far as words reach, and nothing in a value that is no natural number.
-/

namespace Hotplug

namespace Binary64

variable {x : Binary64} {n : ℕ}

/-- The number that a finite double is. -/
def number? (x : Binary64) : Option ℚ :=
  if x.isFinite = true then some (if x.isNegative = true then -x.value
    else x.value) else none

theorem value_eq_zero (none : x.magnitude = 0) : x.value = 0 := by
  simp [value, significand, none]

/-- A double below zero is no natural number, and zero with a sign is zero. -/
theorem number?_eq_some_natCast_iff (finite : x.isFinite = true) :
    x.number? = some (n : ℚ) ↔ 0 ≤ x.orderKey ∧ x.value = n := by
  rw [number?, if_pos finite, Option.some.injEq, orderKey]
  split
  · next negative =>
      rcases Nat.eq_zero_or_pos x.magnitude with zero | positive
      · simp [value_eq_zero zero, zero, eq_comm]
      · have above := value_pos positive
        have natural : (0 : ℚ) ≤ n := n.cast_nonneg
        constructor
        · intro same
          linarith
        · rintro ⟨nonneg, -⟩
          omega
  · simp

theorem value_eq_natCast_iff :
    x.value = n ↔ x.fraction.1 = n * x.fraction.2 := by
  obtain ⟨positive, quotient⟩ := isFraction_fraction x
  have nonzero : (x.fraction.2 : ℚ) ≠ 0 := by positivity
  rw [← quotient, div_eq_iff nonzero]
  exact_mod_cast Iff.rfl

theorem toNat?_eq_some_iff : x.toNat? = some n ↔ x.number? = some (n : ℚ) := by
  by_cases finite : x.isFinite = true
  · have positive := (isFraction_fraction x).positive
    rw [number?_eq_some_natCast_iff finite, value_eq_natCast_iff, toNat?]
    by_cases nonneg : 0 ≤ x.orderKey
    · simp only [finite, nonneg, decide_true, Bool.and_self,
        ↓reduceIte, true_and]
      constructor
      · intro divides
        obtain ⟨rest, whole⟩ := Option.ite_none_right_eq_some.mp divides
        rw [← Option.some.inj whole,
          Nat.div_mul_cancel (Nat.dvd_of_mod_eq_zero rest)]
      · intro multiple
        rw [multiple, Nat.mul_mod_left, Nat.mul_div_cancel n positive,
          if_pos rfl]
    · simp [nonneg]
  · simp [toNat?, number?, finite]

end Binary64

namespace Value

variable {value : Value} {n : ℕ} {word : UInt64}

/-- The number that a value is. A truth value is one or zero. -/
def number? : Value → Option ℚ
  | .bool truth => some (bit truth)
  | .int number => some number.toInt
  | .uint number => some number.toNat
  | .double number => number.number?
  | _ => none

/-- The value is this natural number. -/
def Counts (value : Value) (n : ℕ) : Prop := value.number? = some (n : ℚ)

theorem Counts.unique {m : ℕ} (one : value.Counts m) (two : value.Counts n) :
    m = n := by
  have same : (m : ℚ) = n := Option.some.inj (one.symm.trans two)
  exact_mod_cast same

/-- Bytes that become text were no number, and text is none. -/
@[simp] theorem number?_plain : value.plain.number? = value.number? := by
  cases value with
  | bytes content =>
      rw [plain]
      split <;> rfl
  | _ => rfl

@[simp] theorem counts_plain : value.plain.Counts n ↔ value.Counts n := by
  rw [Counts, number?_plain, Counts]

/-- A natural number reads as itself, or as the greatest word if it is too
large. -/
theorem toUInt64?_of_counts (counts : value.Counts n) :
    value.toUInt64? = some (UInt64.ofNat (min n (Word.unsignedLimit - 1))) := by
  have fits (small : n < Word.unsignedLimit) :
      min n (Word.unsignedLimit - 1) = n :=
    Nat.min_eq_left (Nat.le_pred_of_lt small)
  cases value with
  | bool truth =>
      have same : bit truth = n := by exact_mod_cast Option.some.inj counts
      have small : bit truth < Word.unsignedLimit := by cases truth <;> decide
      rw [fits (same ▸ small), ← same]
      rfl
  | int number =>
      have same : number.toInt = n := by exact_mod_cast Option.some.inj counts
      have small : n < Word.unsignedLimit := by
        have bound := number.toInt_lt
        simp only [Word.unsignedLimit]
        omega
      rw [fits small, toUInt64?, same, if_pos (Int.natCast_nonneg n),
        Int.toNat_natCast]
  | uint number =>
      have same : number.toNat = n := by exact_mod_cast Option.some.inj counts
      have small : n < Word.unsignedLimit := same ▸ number.toNat_lt
      rw [fits small, ← same, UInt64.ofNat_toNat]
      rfl
  | double number =>
      have whole : number.toNat? = some n :=
        Binary64.toNat?_eq_some_iff.mpr counts
      rw [toUInt64?, whole, Option.map_some]
  | text content | texts items | bytes content => cases counts

theorem exists_counts (reads : value.toUInt64? = some word) :
    ∃ n, value.Counts n := by
  cases value with
  | bool truth => exact ⟨bit truth, rfl⟩
  | int number =>
      obtain ⟨nonneg, -⟩ := Option.ite_none_right_eq_some.mp reads
      obtain ⟨n, same⟩ := Int.eq_ofNat_of_zero_le nonneg
      refine ⟨n, ?_⟩
      rw [Counts, number?, same]
      rfl
  | uint number => exact ⟨number.toNat, rfl⟩
  | double number =>
      obtain ⟨n, whole, -⟩ := Option.map_eq_some_iff.mp reads
      exact ⟨n, Binary64.toNat?_eq_some_iff.mp whole⟩
  | text content | texts items | bytes content => cases reads

/-- What reads as nothing is taken for zero, so only a natural number above zero
is not. -/
theorem getD_toUInt64?_eq_zero_iff :
    value.toUInt64?.getD 0 = 0 ↔ ∀ n, value.Counts n → n = 0 := by
  cases reads : value.toUInt64? with
  | none =>
      have none (n : ℕ) : ¬value.Counts n := by
        intro counts
        rw [toUInt64?_of_counts counts] at reads
        cases reads
      simp [none]
  | some word =>
      obtain ⟨n, counts⟩ := exists_counts reads
      rw [toUInt64?_of_counts counts] at reads
      have only : (∀ m, value.Counts m → m = 0) ↔ n = 0 :=
        ⟨fun all => all n counts,
          fun zero m other => (other.unique counts).trans zero⟩
      rw [only, ← Option.some.inj reads, Option.getD_some, ← UInt64.toNat_inj,
        UInt64.toNat_ofNat']
      simp only [Word.unsignedLimit, UInt64.toNat_zero]
      omega

end Value

end Hotplug
