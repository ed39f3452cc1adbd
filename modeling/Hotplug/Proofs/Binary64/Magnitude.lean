import Hotplug.Binary64.Shortest
import Mathlib.Algebra.Order.Field.Power
import Mathlib.Data.Int.Log
import Mathlib.Data.Rat.Floor
import Mathlib.Tactic.FieldSimp
import Mathlib.Tactic.Linarith
import Mathlib.Tactic.Positivity
import Mathlib.Tactic.Qify
import Mathlib.Tactic.Ring

/-!
# What doubles stand for

The magnitude of a double determines its significand and its exponent, and these
determine the magnitude. Fractions of natural numbers are taken for the rational
numbers that they are equal to.
-/

namespace Hotplug

/-- The fraction is equal to the number. -/
structure IsFraction (fraction : Nat × Nat) (number : ℚ) : Prop where
  positive : 0 < fraction.2
  eq : (fraction.1 : ℚ) / fraction.2 = number

section Powers

variable {b : Nat} {power : Int}

theorem zpow_of_nonneg (nonneg : 0 ≤ power) :
    (b : ℚ) ^ power = (Nat.pow b power.toNat : Nat) := by
  obtain ⟨n, rfl⟩ := Int.eq_ofNat_of_zero_le nonneg
  simp

theorem zpow_of_neg (negative : ¬0 ≤ power) :
    (b : ℚ) ^ power = ((Nat.pow b (-power).toNat : Nat) : ℚ)⁻¹ := by
  obtain ⟨n, isNeg⟩ := Int.eq_ofNat_of_zero_le (by omega : 0 ≤ -power)
  obtain rfl : power = -n := by omega
  simp

variable {numerator denominator : Nat}

theorem zpow_le_div_iff_of_nonneg (positive : 0 < denominator)
    (nonneg : 0 ≤ power) :
    (b : ℚ) ^ power ≤ (numerator : ℚ) / denominator ↔
      denominator * Nat.pow b power.toNat ≤ numerator := by
  rw [zpow_of_nonneg nonneg, le_div_iff₀ (by exact_mod_cast positive), mul_comm]
  exact_mod_cast Iff.rfl

theorem zpow_le_div_iff_of_neg (bPos : 0 < b) (positive : 0 < denominator)
    (negative : ¬0 ≤ power) :
    (b : ℚ) ^ power ≤ (numerator : ℚ) / denominator ↔
      denominator ≤ numerator * Nat.pow b (-power).toNat := by
  have scale : (0 : ℚ) < (Nat.pow b (-power).toNat : Nat) := by
    exact_mod_cast Nat.pow_pos bPos
  rw [zpow_of_neg negative, le_div_iff₀ (by exact_mod_cast positive),
    inv_mul_le_iff₀ scale, mul_comm]
  exact_mod_cast Iff.rfl

theorem isFraction_scaledFraction (factor : Nat) (power : Int) :
    IsFraction (Binary64.scaledFraction factor power) (factor * 2 ^ power) := by
  unfold Binary64.scaledFraction
  split
  · next nonneg =>
      have scale := zpow_of_nonneg (b := 2) nonneg
      push_cast at scale
      exact ⟨by simp, by simp [scale]⟩
  · next negative =>
      have scale := zpow_of_neg (b := 2) negative
      push_cast at scale
      exact ⟨by simp, by simp [scale, div_eq_mul_inv]⟩

end Powers

namespace Binary64

section Bits

variable (x : Binary64)

@[simp] theorem ofMagnitude_magnitude :
    ofMagnitude x.isNegative x.magnitude = x := by
  have bound := x.bits.toNat_lt
  have whole : (if x.isNegative = true then signBit + x.magnitude
    else x.magnitude) = x.bits.toNat := by
    simp only [isNegative, decide_eq_true_eq, magnitude]
    split
    all_goals
      simp only [signBit] at *
      omega
  rw [ofMagnitude, whole, UInt64.ofNat_toNat]

theorem significand_lt : x.significand < 2 * hiddenBit := by
  unfold significand
  split
  all_goals
    simp only [hiddenBit] at *
    omega

theorem exponent_ge : -1074 ≤ x.exponent := by
  unfold exponent
  split
  · exact le_rfl
  · next large =>
      have filled := Nat.pos_of_ne_zero large
      omega

/-- Only the smallest doubles have a significand of fewer bits. -/
theorem hiddenBit_le_significand_or :
    hiddenBit ≤ x.significand ∨ x.exponent = -1074 := by
  unfold significand exponent
  split
  · exact .inr rfl
  · exact .inl (Nat.le_add_right _ _)

theorem magnitude_eq :
    x.magnitude = (x.exponent + 1074).toNat * hiddenBit + x.significand := by
  unfold significand exponent
  split
  all_goals
    simp only [hiddenBit] at *
    omega

variable {x}

theorem significand_pos (positive : 0 < x.magnitude) : 0 < x.significand := by
  unfold significand
  split
  all_goals
    simp only [hiddenBit] at *
    omega

end Bits

/-- The number that a finite double has the magnitude of. -/
def value (x : Binary64) : ℚ := x.significand * 2 ^ x.exponent

theorem isFraction_fraction (x : Binary64) : IsFraction x.fraction x.value :=
  isFraction_scaledFraction _ _

theorem value_pos {x : Binary64} (positive : 0 < x.magnitude) :
    0 < x.value := by
  have bits : (0 : ℚ) < x.significand := by
    exact_mod_cast significand_pos positive
  unfold value
  positivity

end Binary64

end Hotplug
