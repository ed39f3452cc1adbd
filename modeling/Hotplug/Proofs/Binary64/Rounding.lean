import Hotplug.Proofs.Binary64.Magnitude

/-!
# Which numbers round to a double

A quotient rounds to a double if and where it lies in the interval around the
double. At a power of two the quotients just below it have a smaller last place,
which is why the interval is shorter on that side.
-/

namespace Hotplug

namespace Binary64

section Integers

variable {numerator denominator n : Nat} {power : Int}

theorem divideToEven_eq_of_le (positive : 0 < denominator)
    (fromBelow : 2 * (n * denominator) ≤ 2 * numerator + denominator)
    (fromAbove : 2 * numerator ≤ 2 * (n * denominator) + denominator)
    (noTie : n % 2 = 0 ∨ 2 * (n * denominator) < 2 * numerator + denominator ∧
      2 * numerator < 2 * (n * denominator) + denominator) :
    divideToEven numerator denominator = n := by
  have whole : n = numerator / denominator ∨
      n = numerator / denominator + 1 := by
    have upTo : n ≤ (numerator + denominator) / denominator :=
      (Nat.le_div_iff_mul_le positive).mpr (by omega)
    have from' : numerator / denominator < n + 1 :=
      (Nat.div_lt_iff_lt_mul positive).mpr (by rw [Nat.succ_mul]; omega)
    rw [Nat.add_div_right _ positive] at upTo
    omega
  have parts := Nat.div_add_mod numerator denominator
  rw [Nat.mul_comm] at parts
  simp only [divideToEven]
  rcases whole with same | next
  · rw [← same] at parts ⊢
    split
    · rfl
    · split <;> omega
  · have step : n * denominator = numerator / denominator * denominator +
        denominator := by
      rw [next, Nat.add_one_mul]
    rw [step, next] at noTie
    rw [next]
    split
    · omega
    · split <;> omega

/-- No integer is nearer to the number, and one that is equally near is odd. -/
structure Nearest (n : Nat) (number : ℚ) : Prop where
  least : (n : ℚ) - 1 / 2 ≤ number
  greatest : number ≤ n + 1 / 2
  tie : n % 2 = 0 ∨ (n : ℚ) - 1 / 2 < number ∧ number < n + 1 / 2

theorem divideToEven_eq (positive : 0 < denominator)
    (nearest : Nearest n ((numerator : ℚ) / denominator)) :
    divideToEven numerator denominator = n := by
  have scale : (0 : ℚ) < denominator := by exact_mod_cast positive
  obtain ⟨least, greatest, tie⟩ := nearest
  rw [le_div_iff₀ scale] at least
  rw [div_le_iff₀ scale] at greatest
  rw [lt_div_iff₀ scale, div_lt_iff₀ scale] at tie
  refine divideToEven_eq_of_le positive ?_ ?_
    (tie.imp_right fun ⟨below, above⟩ => ⟨?_, ?_⟩)
  all_goals
    qify
    linarith

theorem unitsOf_eq (positive : 0 < denominator)
    (nearest : Nearest n ((numerator : ℚ) / denominator / 2 ^ power)) :
    unitsOf power numerator denominator = n := by
  unfold unitsOf
  split
  · next nonneg =>
      have scale := zpow_of_nonneg (b := 2) nonneg
      refine divideToEven_eq (Nat.mul_pos positive (by simp)) ?_
      rw [Nat.cast_mul, ← scale, ← div_div]
      exact nearest
  · next negative =>
      have scale := zpow_of_neg (b := 2) negative
      refine divideToEven_eq positive ?_
      push_cast at scale nearest ⊢
      rw [scale, div_inv_eq_mul, div_mul_eq_mul_div] at nearest
      exact nearest

end Integers

section Places

variable {numerator denominator : Nat}

/-- The lengths of numerator and denominator leave two powers for the
quotient. -/
theorem log_quotient {b above below : Nat} (large : 1 < b)
    (leastAbove : b ^ above ≤ numerator)
    (greatestAbove : numerator < b ^ (above + 1))
    (leastBelow : b ^ below ≤ denominator)
    (greatestBelow : denominator < b ^ (below + 1)) :
    Int.log b ((numerator : ℚ) / denominator) =
      if (b : ℚ) ^ ((above : Int) - below) ≤ (numerator : ℚ) / denominator then
        (above : Int) - below
      else (above : Int) - below - 1 := by
  have bPos : (0 : ℚ) < b := by exact_mod_cast (by omega : 0 < b)
  have above₁ : (b : ℚ) ^ above ≤ numerator := by exact_mod_cast leastAbove
  have above₂ : (numerator : ℚ) < b ^ (above + 1) := by
    exact_mod_cast greatestAbove
  have below₁ : (b : ℚ) ^ below ≤ denominator := by exact_mod_cast leastBelow
  have below₂ : (denominator : ℚ) < b ^ (below + 1) := by
    exact_mod_cast greatestBelow
  have numeratorPos : (0 : ℚ) < numerator :=
    lt_of_lt_of_le (by positivity) above₁
  have denominatorPos : (0 : ℚ) < denominator :=
    lt_of_lt_of_le (by positivity) below₁
  have quotientPos : (0 : ℚ) < (numerator : ℚ) / denominator := by positivity
  have less : (numerator : ℚ) / denominator <
      (b : ℚ) ^ ((above : Int) - below + 1) := by
    have power : (above : Int) - below + 1 = (above + 1 : Nat) - below := by
      omega
    rw [power, zpow_natCast_sub_natCast₀ bPos.ne',
      div_lt_div_iff₀ denominatorPos (by positivity)]
    calc (numerator : ℚ) * b ^ below < b ^ (above + 1) * b ^ below := by gcongr
      _ ≤ b ^ (above + 1) * denominator := by gcongr
  have more : (b : ℚ) ^ ((above : Int) - below - 1) ≤
      (numerator : ℚ) / denominator := by
    have power : (above : Int) - below - 1 = above - (below + 1 : Nat) := by
      omega
    rw [power, zpow_natCast_sub_natCast₀ bPos.ne',
      div_le_div_iff₀ (by positivity) denominatorPos]
    calc
      (b : ℚ) ^ above * denominator ≤ b ^ above * b ^ (below + 1) := by gcongr
      _ ≤ numerator * b ^ (below + 1) := by gcongr
  have upTo := (Int.lt_zpow_iff_log_lt large quotientPos).mp less
  split
  · next reached =>
      have least := (Int.zpow_le_iff_le_log large quotientPos).mp reached
      omega
  · next missed =>
      have least := (Int.zpow_le_iff_le_log large quotientPos).mp more
      have most := (Int.lt_zpow_iff_log_lt large quotientPos).mp
        (not_le.mp missed)
      omega

theorem lastPlace_eq (numeratorPos : 0 < numerator)
    (denominatorPos : 0 < denominator) :
    lastPlace numerator denominator =
      max (Int.log 2 ((numerator : ℚ) / denominator) - 52) (-1074) := by
  have isLog := log_quotient (b := 2) (by decide)
    (Nat.log2_self_le numeratorPos.ne')
    Nat.lt_log2_self (Nat.log2_self_le denominatorPos.ne') Nat.lt_log2_self
  obtain ⟨guess, isGuess⟩ : ∃ guess : Int,
      (Nat.log2 numerator : Int) - (Nat.log2 denominator : Int) -
        52 = guess := ⟨_, rfl⟩
  have lengths : (Nat.log2 numerator : Int) - (Nat.log2 denominator : Int) =
    guess + 52 := by omega
  have high :
      (if 0 ≤ guess then
          decide (denominator * Nat.pow 2 (guess.toNat + 52) ≤ numerator)
        else decide (denominator * hiddenBit ≤
          numerator * Nat.pow 2 (-guess).toNat)) =
        decide (((2 : Nat) : ℚ) ^ (guess + 52) ≤
          (numerator : ℚ) / denominator) := by
    split
    · next nonneg =>
        have places : (guess + 52).toNat = guess.toNat + 52 := by omega
        rw [decide_eq_decide, zpow_le_div_iff_of_nonneg denominatorPos
          (by omega), places]
    · next negative =>
        -- the hidden bit goes to the denominator, so that the power is negative
        have filled : 0 < denominator * hiddenBit :=
          Nat.mul_pos denominatorPos (by decide)
        rw [decide_eq_decide, ← zpow_le_div_iff_of_neg (by decide) filled
          negative, Nat.cast_mul,
          ← div_div, le_div_iff₀ (by norm_num [hiddenBit]),
            zpow_add₀ (by norm_num)]
        norm_num [hiddenBit]
  rw [lengths] at isLog
  simp only [lastPlace, isGuess, high, decide_eq_true_eq, isLog]
  congr 1
  split <;> omega

end Places

/-- Whether a number of quarters lies in the interval. -/
def RoundingInterval.Holds (interval : RoundingInterval) (number : ℚ) : Prop :=
  if interval.closed then interval.low ≤ number ∧ number ≤ interval.high
  else interval.low < number ∧ number < interval.high

/-- The number lies in the interval around the double. -/
def Near (x : Binary64) (number : ℚ) : Prop :=
  x.roundingInterval.Holds (number / 2 ^ (x.exponent - 2))

section Intervals

variable {x : Binary64} {number : ℚ}

/-- An interval reaches half a place to either side, or less far down from a
power of two. -/
theorem Near.nearest (positive : 0 < x.magnitude) (near : x.Near number) :
    Nearest x.significand (number / 2 ^ x.exponent) ∧
      (x.significand = hiddenBit → x.exponent ≠ -1074 →
        (hiddenBit : ℚ) - 1 / 4 ≤ number / 2 ^ x.exponent) := by
  have quarters : number / 2 ^ (x.exponent - 2) = 4 *
      (number / 2 ^ x.exponent) := by
    rw [zpow_sub₀ (by norm_num)]
    field_simp
    norm_num
  have filled := significand_pos positive
  have low₁ : ((4 * x.significand - 1 : Nat) : ℚ) = 4 * x.significand - 1 := by
    rw [Nat.cast_sub (by omega)]
    push_cast
    ring
  have low₂ : ((4 * x.significand - 2 : Nat) : ℚ) = 4 * x.significand - 2 := by
    rw [Nat.cast_sub (by omega)]
    push_cast
    ring
  have even : x.significand = hiddenBit → x.significand % 2 = 0 := by
    intro isPower
    rw [isPower]
    decide
  unfold Near RoundingInterval.Holds roundingInterval at near
  rw [quarters] at near
  simp only [beq_iff_eq] at near
  generalize number / 2 ^ x.exponent = units at near ⊢
  by_cases isPower : x.significand = hiddenBit ∧ x.exponent ≠ -1074
  · rw [if_pos (even isPower.1), if_pos isPower, low₁] at near
    push_cast at near
    refine ⟨⟨by linarith, by linarith, .inl (even isPower.1)⟩, fun _ _ => ?_⟩
    rw [← isPower.1]
    linarith
  · rw [if_neg isPower, low₂] at near
    push_cast at near
    refine ⟨?_, fun same normal => absurd ⟨same, normal⟩ isPower⟩
    split at near
    · next isEven => exact ⟨by linarith, by linarith, .inl isEven⟩
    · exact ⟨by linarith, by linarith, .inr ⟨by linarith, by linarith⟩⟩

theorem Near.pos (positive : 0 < x.magnitude) (near : x.Near number) :
    0 < number := by
  have filled : (1 : ℚ) ≤ x.significand := by
    exact_mod_cast significand_pos positive
  have place : (0 : ℚ) < 2 ^ x.exponent := by positivity
  have least := (le_div_iff₀ place).mp (near.nearest positive).1.least
  exact lt_of_lt_of_le (mul_pos (by linarith) place) least

/-- What is near a double has the last place of the double, or is just below the
power of two that the double is and has the place after it. -/
theorem Near.places (positive : 0 < x.magnitude) (near : x.Near number) :
    max (Int.log 2 number - 52) (-1074) = x.exponent ∨
      max (Int.log 2 number - 52) (-1074) = x.exponent - 1 ∧
        -1074 < x.exponent ∧
        x.significand = hiddenBit ∧ (hiddenBit : ℚ) - 1 / 4 ≤
          number / 2 ^ x.exponent ∧
        number / 2 ^ x.exponent < hiddenBit := by
  obtain ⟨nearest, shorter⟩ := near.nearest positive
  have numberPos := near.pos positive
  have place : (0 : ℚ) < 2 ^ x.exponent := by positivity
  have lowest := x.exponent_ge
  have upTo : Int.log 2 number < x.exponent + 53 := by
    refine (Int.lt_zpow_iff_log_lt (by decide) numberPos).mp ?_
    have bits : (x.significand : ℚ) + 1 ≤ 2 * hiddenBit := by
      exact_mod_cast x.significand_lt
    have greatest := (div_le_iff₀ place).mp nearest.greatest
    rw [zpow_add₀ (by norm_num)]
    norm_num [hiddenBit] at bits ⊢
    nlinarith
  by_cases same : max (Int.log 2 number - 52) (-1074) = x.exponent
  · exact .inl same
  · have fewer : Int.log 2 number < x.exponent + 52 := by omega
    have normal : x.exponent ≠ -1074 := by omega
    have filled := x.hiddenBit_le_significand_or.resolve_right normal
    have below : number / 2 ^ x.exponent < hiddenBit := by
      have less := (Int.lt_zpow_iff_log_lt (b := 2)
        (by decide) numberPos).mpr fewer
      rw [Nat.cast_ofNat, zpow_add₀ (by norm_num), mul_comm] at less
      rw [div_lt_iff₀ place]
      norm_num [hiddenBit] at less ⊢
      exact less
    have isPower : x.significand = hiddenBit := by
      have bound : (x.significand : ℚ) < hiddenBit + 1 := by
        have half := nearest.least
        linarith
      have bound' : x.significand < hiddenBit + 1 := by exact_mod_cast bound
      omega
    have closer := shorter isPower normal
    have atLeast : x.exponent + 51 ≤ Int.log 2 number := by
      refine (Int.zpow_le_iff_le_log (by decide) numberPos).mp ?_
      have reached := (le_div_iff₀ place).mp closer
      rw [Nat.cast_ofNat, zpow_add₀ (by norm_num)]
      norm_num [hiddenBit] at reached ⊢
      nlinarith
    exact .inr ⟨by omega, by omega, isPower, closer, below⟩

theorem ofQuotient_eq {numerator denominator : Nat} (positive : 0 < x.magnitude)
    (finite : x.magnitude < infinityBits) (denominatorPos : 0 < denominator)
    (near : x.Near ((numerator : ℚ) / denominator)) (negative : Bool) :
    ofQuotient negative numerator denominator =
      ofMagnitude negative x.magnitude := by
  have magnitude := x.magnitude_eq
  have numeratorPos : 0 < numerator := by
    have quotientPos := near.pos positive
    rw [div_pos_iff_of_pos_right
      (by exact_mod_cast denominatorPos)] at quotientPos
    exact_mod_cast quotientPos
  have isPlace := lastPlace_eq numeratorPos denominatorPos
  unfold ofQuotient
  rw [if_neg numeratorPos.ne']
  rcases near.places positive with same | ⟨previous, normal,
    isPower, closer, below⟩
  · have units := unitsOf_eq denominatorPos (near.nearest positive).1
    simp only [isPlace.trans same, units, ← magnitude]
    rw [Nat.min_eq_left finite.le]
  · have doubled : (numerator : ℚ) / denominator / 2 ^ (x.exponent - 1) =
        2 * ((numerator : ℚ) / denominator / 2 ^ x.exponent) := by
      rw [zpow_sub₀ (by norm_num)]
      field_simp
    have units : unitsOf (x.exponent - 1) numerator denominator =
        2 * hiddenBit := by
      refine unitsOf_eq denominatorPos ⟨?_, ?_, .inl (by decide)⟩
      · rw [doubled]
        push_cast
        linarith
      · rw [doubled]
        push_cast
        linarith
    have carried : (x.exponent - 1 + 1074).toNat * hiddenBit + 2 * hiddenBit =
        x.magnitude := by
      rw [magnitude, isPower]
      simp only [hiddenBit]
      omega
    simp only [isPlace.trans previous, units, carried]
    rw [Nat.min_eq_left finite.le]

end Intervals

end Binary64

end Hotplug
