import Hotplug.Proofs.Binary64.Rounding

/-!
# The shortest decimal reads back

Seventeen digits are enough: the points of that grid lie closer together than
the interval around a double is wide, so that one of the two neighbours of the
double lies in it. The first grid with such a neighbour is the one that is
taken.
-/

namespace Hotplug

namespace Decimal

def value (d : Decimal) : ℚ := d.digits * 10 ^ d.power

theorem value_trim (count : Nat) (d : Decimal) :
    (d.trim count).value = d.value := by
  induction count generalizing d with
  | zero => rfl
  | succ count induction =>
      rw [trim]
      split
      · next ends =>
          have tens : d.digits = 10 * (d.digits / 10) := by omega
          have tens' : (d.digits : ℚ) = 10 * (d.digits / 10 : Nat) := by
            exact_mod_cast tens
          rw [induction, value, value, tens', zpow_add₀ (by norm_num)]
          ring
      · rfl

section Lengths

variable {n : Nat}

theorem digitCount_pos : 0 < digitCount n := Nat.length_toDigits_pos

theorem lt_pow_digitCount : n < 10 ^ digitCount n :=
  (Nat.length_toDigits_le_iff (by decide) digitCount_pos).mp (Nat.le_refl _)

theorem pow_le_of_lt_digitCount {count : Nat} (positive : 0 < n)
    (less : count < digitCount n) :
    10 ^ count ≤ n := by
  by_contra small
  rcases Nat.eq_zero_or_pos count with rfl | filled
  · omega
  · have fits := (Nat.length_toDigits_le_iff (by decide : 1 < 10) filled).mpr
      (not_le.mp small)
    exact absurd fits (not_le.mpr less)

end Lengths

end Decimal

namespace Binary64

open Decimal (digitCount digitCount_pos lt_pow_digitCount
  pow_le_of_lt_digitCount)

theorem leadingPower_eq {numerator denominator : Nat}
    (numeratorPos : 0 < numerator) (denominatorPos : 0 < denominator) :
    leadingPower numerator denominator =
      Int.log 10 ((numerator : ℚ) / denominator) := by
  have countAbove := Nat.sub_add_cancel (digitCount_pos (n := numerator))
  have countBelow := Nat.sub_add_cancel (digitCount_pos (n := denominator))
  have isLog := log_quotient (b := 10) (by decide)
    (pow_le_of_lt_digitCount numeratorPos
      (Nat.sub_lt digitCount_pos Nat.one_pos))
    (by rw [countAbove]; exact lt_pow_digitCount)
    (pow_le_of_lt_digitCount denominatorPos
      (Nat.sub_lt digitCount_pos Nat.one_pos))
    (by rw [countBelow]; exact lt_pow_digitCount)
  have lengths : ((digitCount numerator - 1 : Nat) : Int) -
    (digitCount denominator - 1 : Nat) =
      (digitCount numerator : Int) - digitCount denominator := by omega
  rw [lengths] at isLog
  unfold leadingPower
  generalize digitCount numerator = above at isLog ⊢
  generalize digitCount denominator = below at isLog ⊢
  have reached : (if below ≤ above then
      decide (denominator * Nat.pow 10 (above - below) ≤ numerator)
      else decide (denominator ≤ numerator * Nat.pow 10 (below - above))) =
        decide (((10 : Nat) : ℚ) ^ ((above : Int) - below) ≤
            (numerator : ℚ) / denominator) := by
    split
    · next more =>
        have places : ((above : Int) - below).toNat = above - below := by omega
        rw [decide_eq_decide, zpow_le_div_iff_of_nonneg denominatorPos
          (by omega), places]
    · next fewer =>
        have places : (-((above : Int) - below)).toNat = below - above := by
          omega
        rw [decide_eq_decide, zpow_le_div_iff_of_neg (by decide) denominatorPos
          (by omega), places]
  simp only [reached, decide_eq_true_eq, isLog]

section Grids

variable {x : Binary64} {power : Int}

/-- Dividing by the quarter of a place counts the quarters in points of a
grid. -/
theorem isFraction_quarterPlace (x : Binary64) (power : Int) :
    IsFraction (x.quarterPlace power) (2 ^ (x.exponent - 2) / 10 ^ power) := by
  obtain ⟨positive, isQuarter⟩ := isFraction_scaledFraction 1 (x.exponent - 2)
  rw [Nat.cast_one, one_mul] at isQuarter
  have scale : ∀ count, 0 < Nat.pow 10 count := fun _ => Nat.pow_pos (by decide)
  simp only [quarterPlace]
  split
  · next nonneg =>
      have power := zpow_of_nonneg (b := 10) nonneg
      refine ⟨Nat.mul_pos positive (scale _), ?_⟩
      rw [Nat.cast_mul, ← power, ← div_div, isQuarter]
      rfl
  · next negative =>
      have power := zpow_of_neg (b := 10) negative
      rw [Nat.cast_ofNat] at power
      refine ⟨positive, ?_⟩
      rw [Nat.cast_mul, power, div_inv_eq_mul, mul_div_right_comm, isQuarter]

theorem quarterPlace_pos (x : Binary64) (power : Int) :
    0 < (x.quarterPlace power).1 := by
  obtain ⟨positive, isRatio⟩ := isFraction_quarterPlace x power
  have ratioPos : (0 : ℚ) < 2 ^ (x.exponent - 2) / 10 ^ power := by positivity
  rw [← isRatio, div_pos_iff_of_pos_right
    (by exact_mod_cast positive)] at ratioPos
  exact_mod_cast ratioPos

/-- Whether a point of the grid lies in the interval around the double. -/
def fits (x : Binary64) (power : Int) (point : Nat) : Bool :=
  let interval := x.roundingInterval
  let (numerator, denominator) := x.quarterPlace power
  if interval.closed then
    decide (interval.low * numerator ≤ point * denominator)
      && decide (point * denominator ≤ interval.high * numerator)
  else
    decide (interval.low * numerator < point * denominator)
      && decide (point * denominator < interval.high * numerator)

/-- The point of the grid below the double. -/
def pointBelow (x : Binary64) (power : Int) : Nat :=
  x.roundingInterval.middle * (x.quarterPlace power).1 /
    (x.quarterPlace power).2

theorem fits_iff {point : Nat} :
    x.fits power point = true ↔ x.Near (point * 10 ^ power) := by
  have positive := quarterPlace_pos x power
  obtain ⟨_, isRatio⟩ := isFraction_quarterPlace x power
  have inQuarters : (point * 10 ^ power : ℚ) / 2 ^ (x.exponent - 2) =
      point * (x.quarterPlace power).2 / (x.quarterPlace power).1 := by
    rw [mul_div_assoc, mul_div_assoc, ← inv_div, ← isRatio, inv_div]
  unfold fits Near RoundingInterval.Holds
  rw [inQuarters]
  generalize x.quarterPlace power = ratio at positive ⊢
  have positive' : (0 : ℚ) < ratio.1 := by exact_mod_cast positive
  rw [le_div_iff₀ positive', div_le_iff₀ positive', lt_div_iff₀ positive',
    div_lt_iff₀ positive']
  dsimp only
  split
  · rw [Bool.and_eq_true, decide_eq_true_eq, decide_eq_true_eq]
    exact_mod_cast Iff.rfl
  · rw [Bool.and_eq_true, decide_eq_true_eq, decide_eq_true_eq]
    exact_mod_cast Iff.rfl

/-- Only the two points around the double are looked at. -/
theorem exists_nearestOnGrid_eq (x : Binary64) (power : Int) :
    ∃ upperNearer : Bool, x.nearestOnGrid power =
      if x.fits power (x.pointBelow power + 1) &&
          (upperNearer || !x.fits power (x.pointBelow power)) then
        some ⟨x.pointBelow power + 1, power⟩
      else if x.fits power (x.pointBelow power) then
        some ⟨x.pointBelow power, power⟩
      else none :=
  ⟨_, rfl⟩

theorem near_of_nearestOnGrid {decimal : Decimal}
    (found : x.nearestOnGrid power = some decimal) :
    x.Near decimal.value := by
  obtain ⟨_, isChoice⟩ := exists_nearestOnGrid_eq x power
  rw [isChoice] at found
  split at found
  · next upper =>
      cases found
      exact fits_iff.mp (Bool.and_eq_true_iff.mp upper).1
  · split at found
    · next lower =>
        cases found
        exact fits_iff.mp lower
    · cases found

theorem nearestOnGrid_isSome
    (hit : x.Near (x.pointBelow power * 10 ^ power) ∨
      x.Near ((x.pointBelow power + 1 : Nat) * 10 ^ power)) :
    (x.nearestOnGrid power).isSome := by
  rw [← fits_iff, ← fits_iff] at hit
  obtain ⟨_, isChoice⟩ := exists_nearestOnGrid_eq x power
  rw [isChoice]
  split
  · rfl
  · next missed =>
      split
      · rfl
      · next lower =>
          have upper := hit.resolve_left lower
          simp [upper, lower] at missed

theorem RoundingInterval.holds_of_lt {interval : RoundingInterval} {number : ℚ}
    (above : interval.low < number) (below : number < interval.high) :
    interval.Holds number := by
  unfold RoundingInterval.Holds
  split
  · exact ⟨above.le, below.le⟩
  · exact ⟨above, below⟩

theorem roundingInterval_lt (positive : 0 < x.magnitude) :
    x.roundingInterval.low < x.roundingInterval.middle ∧
      x.roundingInterval.middle < x.roundingInterval.high := by
  have filled := significand_pos positive
  simp only [roundingInterval]
  refine ⟨?_, by omega⟩
  split <;> omega

theorem pointBelow_spec (x : Binary64) (power : Int) :
    x.pointBelow power * (10 ^ power / 2 ^ (x.exponent - 2) : ℚ) ≤
      x.roundingInterval.middle ∧ x.roundingInterval.middle <
        ((x.pointBelow power + 1 : Nat) : ℚ) *
          (10 ^ power / 2 ^ (x.exponent - 2)) := by
  have positive : (0 : ℚ) < (x.quarterPlace power).1 := by
    exact_mod_cast quarterPlace_pos x power
  obtain ⟨denominatorPos, isRatio⟩ := isFraction_quarterPlace x power
  rw [← inv_div, ← isRatio, inv_div, ← mul_div_assoc, ← mul_div_assoc,
    div_le_iff₀ positive, lt_div_iff₀ positive]
  constructor
  · exact_mod_cast Nat.div_mul_le_self _ _
  · exact_mod_cast (Nat.div_lt_iff_lt_mul denominatorPos).mp
      (Nat.lt_succ_self _)

theorem near_pointBelow_or (positive : 0 < x.magnitude)
    (fine : (x.roundingInterval.low : ℚ) + 10 ^ power / 2 ^ (x.exponent - 2) <
      x.roundingInterval.high) :
    x.Near (x.pointBelow power * 10 ^ power) ∨
      x.Near ((x.pointBelow power + 1 : Nat) * 10 ^ power) := by
  obtain ⟨below, above⟩ := pointBelow_spec x power
  obtain ⟨inside₁, inside₂⟩ := roundingInterval_lt positive
  have inside₁' : (x.roundingInterval.low : ℚ) < x.roundingInterval.middle := by
    exact_mod_cast inside₁
  have inside₂' : (x.roundingInterval.middle : ℚ) <
      x.roundingInterval.high := by
    exact_mod_cast inside₂
  unfold Near
  rw [mul_div_assoc, mul_div_assoc]
  generalize (10 ^ power / 2 ^ (x.exponent - 2) : ℚ) =
    step at below above fine ⊢
  by_cases reached : (x.roundingInterval.low : ℚ) < x.pointBelow power * step
  · exact .inl (RoundingInterval.holds_of_lt reached (by linarith))
  · push_cast at above ⊢
    exact .inr (RoundingInterval.holds_of_lt (by linarith) (by linarith))

/-- The grid of seventeen digits is fine enough. -/
theorem low_add_step_lt (positive : 0 < x.magnitude) :
    (x.roundingInterval.low : ℚ) + 10 ^ (Int.log 10 x.value - 16) / 2 ^
      (x.exponent - 2) < x.roundingInterval.high := by
  have place : (0 : ℚ) < 2 ^ x.exponent := by positivity
  have reached : (10 : ℚ) ^ Int.log 10 x.value ≤ x.significand *
      2 ^ x.exponent := by
    exact_mod_cast Int.zpow_log_le_self (b := 10) (by decide)
      (value_pos positive)
  have step : (10 : ℚ) ^ (Int.log 10 x.value - 16) / 2 ^ (x.exponent - 2) ≤
      4 * x.significand / 10 ^ 16 := by
    rw [zpow_sub₀ (by norm_num), zpow_sub₀ (by norm_num), div_div_eq_mul_div,
      div_le_div_iff₀ (by positivity) (by positivity)]
    norm_num
    nlinarith
  have filled := significand_pos positive
  have bits : (x.significand : ℚ) + 1 ≤ 2 * hiddenBit := by
    exact_mod_cast x.significand_lt
  have large : (hiddenBit : ℚ) = 4503599627370496 := by norm_num [hiddenBit]
  simp only [roundingInterval]
  split
  · next isPower =>
      rw [isPower.1, large] at step
      rw [Nat.cast_sub (by omega), isPower.1]
      push_cast
      linarith
  · rw [large] at bits
    rw [Nat.cast_sub (by omega)]
    push_cast
    linarith

theorem near_shortest (positive : 0 < x.magnitude) :
    x.Near x.shortest.value := by
  obtain ⟨denominatorPos, isValue⟩ := isFraction_fraction x
  have valuePos := value_pos positive
  have numeratorPos : 0 < x.fraction.1 := by
    rw [← isValue, div_pos_iff_of_pos_right
      (by exact_mod_cast denominatorPos)] at valuePos
    exact_mod_cast valuePos
  have lead := leadingPower_eq numeratorPos denominatorPos
  rw [isValue] at lead
  have hit : ((List.range 17).findSome? fun (further : Nat) =>
      x.nearestOnGrid (Int.log 10 x.value - further)).isSome := by
    rw [List.findSome?_isSome_iff]
    exact ⟨16, by decide, nearestOnGrid_isSome (near_pointBelow_or positive
      (low_add_step_lt positive))⟩
  obtain ⟨decimal, found⟩ := Option.isSome_iff_exists.mp hit
  obtain ⟨further, _, onGrid⟩ := List.exists_of_findSome?_eq_some found
  unfold shortest
  rw [if_neg positive.ne']
  simp only [lead, found, Option.getD_some, Decimal.value_trim]
  exact near_of_nearestOnGrid onGrid

end Grids

/-- A decimal as fraction, as `ofDecimal` reads it. -/
theorem ofDecimal_eq_ofQuotient (negative : Bool) (decimal : Decimal) :
    ∃ numerator denominator, ofDecimal negative decimal.digits decimal.power =
        ofQuotient negative numerator denominator ∧
      IsFraction (numerator, denominator) decimal.value := by
  unfold ofDecimal
  split
  · next nonneg =>
      have scale := zpow_of_nonneg (b := 10) nonneg
      rw [Nat.cast_ofNat] at scale
      exact ⟨_, _, rfl, Nat.one_pos,
        by rw [Decimal.value, scale, Nat.cast_mul, Nat.cast_one, div_one]⟩
  · next negative =>
      have scale := zpow_of_neg (b := 10) negative
      rw [Nat.cast_ofNat] at scale
      exact ⟨_, _, rfl, Nat.pow_pos (by decide),
        by rw [Decimal.value, scale, div_eq_mul_inv]⟩

/-- Every way to write the shortest decimal of a finite double is read as the
double. -/
theorem ofDecimal_eq_of_value_eq {x : Binary64} (finite : x.isFinite = true)
    {decimal : Decimal} (same : decimal.value = x.shortest.value) :
    ofDecimal x.isNegative decimal.digits decimal.power = x := by
  have finite' : x.magnitude < infinityBits := by simpa [isFinite] using finite
  obtain ⟨numerator, denominator, isQuotient, denominatorPos, isValue⟩ :=
    ofDecimal_eq_ofQuotient x.isNegative decimal
  have positive' : (0 : ℚ) < denominator := by exact_mod_cast denominatorPos
  rw [same] at isValue
  rw [isQuotient]
  rcases Nat.eq_zero_or_pos x.magnitude with isZero | positive
  · have nothing : x.shortest.value = 0 := by
      simp [shortest, isZero, Decimal.value]
    rw [nothing, div_eq_zero_iff, or_iff_left positive'.ne',
      Nat.cast_eq_zero] at isValue
    obtain rfl : numerator = 0 := isValue
    rw [ofQuotient, if_pos rfl, zero, ← isZero, ofMagnitude_magnitude]
  · have near := near_shortest positive
    rw [← isValue] at near
    rw [ofQuotient_eq positive finite' denominatorPos near,
      ofMagnitude_magnitude]

end Binary64

end Hotplug
