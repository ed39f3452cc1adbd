import Hotplug.Proofs.Binary64.Shortest
import Hotplug.Proofs.Predicate.Rendering

/-!
# Doubles in predicate text

A double that is written with a point and without an exponent is read back. Any
other text of a double is no literal: its exponent is read as a word of its own,
and so are the texts of infinity and of what is no number.
-/

namespace Hotplug

namespace Text.Digits

theorem read_append (digits later : List Char) :
    read (digits ++ later) = later.foldl push (read digits) := by
  rw [read_eq_foldl, read_eq_foldl, List.foldl_append]

theorem read_append_zeros (digits : List Char) (count : Nat) :
    read (digits ++ List.replicate count '0') = read digits * 10 ^ count := by
  rw [read_append]
  generalize read digits = number
  induction count generalizing number with
  | zero => simp
  | succ count induction =>
      have shifted : push number '0' = 10 * number := by simp [push, value]
      rw [List.replicate_succ, List.foldl_cons, shifted,
        induction, Nat.pow_succ]
      ac_rfl

theorem read_zeros_append (count : Nat) (digits : List Char) :
    read (List.replicate count '0' ++ digits) = read digits := by
  have nothing := read_append_zeros [] count
  rw [List.nil_append] at nothing
  rw [read_append, nothing, read_eq_foldl]
  simp [read_eq_foldl]

end Text.Digits

/-- A point, and the digits on either side of it. -/
structure PointNumber where
  whole : List Char
  fraction : List Char

namespace PointNumber

def spelling (number : PointNumber) : List Char :=
  number.whole ++ '.' :: number.fraction

/-- The decimal that the digits are read as. -/
def decimal (number : PointNumber) : Decimal :=
  ⟨Text.Digits.read (number.whole ++ number.fraction),
    -(number.fraction.length : Int)⟩

structure IsNumeral (number : PointNumber) : Prop where
  whole : ∀ d ∈ number.whole, d.isDigit = true
  filled : number.whole ≠ []
  fraction : ∀ d ∈ number.fraction, d.isDigit = true

end PointNumber

open Text (Digits.read Digits.read_append_zeros Digits.read_zeros_append)
open Lexeme

namespace DecimalLayout

theorem isDigit_of_mem_zeros (count : Nat) :
    ∀ d ∈ List.replicate count '0', d.isDigit = true := by
  intro d member
  rw [List.eq_of_mem_replicate member]
  rfl

/-- The digits of a decimal, with the zeros that it takes to put the point among
them. -/
def pointNumber (d : Decimal) : PointNumber :=
  let digits := Nat.toDigits 10 d.digits
  let places := (-d.power).toNat
  if 0 ≤ d.power then ⟨digits ++ List.replicate d.power.toNat '0', ['0']⟩
  else if places < digits.length then
    ⟨digits.take (digits.length - places), digits.drop (digits.length - places)⟩
  else ⟨['0'], List.replicate (places - digits.length) '0' ++ digits⟩

theorem spelling_pointNumber (d : Decimal) :
    (writePositional true d).toList = (pointNumber d).spelling := by
  simp only [writePositional, pointNumber]
  split
  · simp [PointNumber.spelling, zeros]
  · split
    · simp [PointNumber.spelling]
    · simp [PointNumber.spelling, zeros]

theorem isNumeral_pointNumber (d : Decimal) : (pointNumber d).IsNumeral := by
  have numeral := isDigit_of_mem_toDigits d.digits
  have filled := Nat.toDigits_ne_nil (n := d.digits) (b := 10)
  simp only [pointNumber]
  split
  · refine ⟨?_, by simp [filled], isDigit_of_mem_zeros 1⟩
    exact List.forall_mem_append.mpr ⟨numeral, isDigit_of_mem_zeros _⟩
  · split
    · next inside =>
        refine ⟨fun c member => numeral c (List.mem_of_mem_take member), ?_,
          fun c member => numeral c (List.mem_of_mem_drop member)⟩
        exact List.ne_nil_of_length_pos (by rw [List.length_take]; omega)
    · refine ⟨isDigit_of_mem_zeros 1, by simp, ?_⟩
      exact List.forall_mem_append.mpr ⟨isDigit_of_mem_zeros _, numeral⟩

/-- Wherever the point stands, and however many zeros that takes, the digits
give the same decimal. -/
theorem value_pointNumber (d : Decimal) :
    (pointNumber d).decimal.value = d.value := by
  have isNumber := read_toDigits d.digits
  simp only [pointNumber]
  generalize Nat.toDigits 10 d.digits = digits at isNumber ⊢
  split
  · next nonneg =>
      obtain ⟨count, isPower⟩ := Int.eq_ofNat_of_zero_le nonneg
      have shifted : (digits ++ List.replicate count '0') ++ ['0'] =
          digits ++ List.replicate (count + 1) '0' := by
        rw [List.append_assoc, List.replicate_succ']
      simp only [PointNumber.decimal, isPower, Int.toNat_natCast, shifted,
        Digits.read_append_zeros, isNumber, Decimal.value, zpow_natCast]
      push_cast
      rw [List.length_singleton, Nat.cast_one, zpow_neg_one, pow_succ]
      field_simp
  · next negative =>
      have isPower : -((-d.power).toNat : Int) = d.power := by omega
      split
      · next inside =>
          have places :
            (digits.drop (digits.length - (-d.power).toNat)).length =
              (-d.power).toNat := by
            rw [List.length_drop]
            omega
          simp only [PointNumber.decimal, List.take_append_drop, places,
            isPower, isNumber, Decimal.value]
      · next outside =>
          have places : (List.replicate ((-d.power).toNat - digits.length)
            '0' ++ digits).length = (-d.power).toNat := by
            rw [List.length_append, List.length_replicate]
            omega
          have leading := Digits.read_zeros_append 1
            (List.replicate ((-d.power).toNat - digits.length) '0' ++ digits)
          simp only [PointNumber.decimal, places, isPower]
          rw [Decimal.value, Decimal.value, ← isNumber]
          congr 2
          exact leading.trans (Digits.read_zeros_append _ _)

end DecimalLayout

namespace PointNumber

variable {number : PointNumber}

theorem IsNumeral.numeral (isNumeral : number.IsNumeral) :
    Numeral number.spelling :=
  numeral_point isNumeral.whole isNumeral.filled isNumeral.fraction

theorem IsNumeral.numberToken? (isNumeral : number.IsNumeral)
    (negative : Bool) :
    numberToken? negative number.spelling =
      some (.double (.ofDecimal negative number.decimal.digits
        number.decimal.power)) := by
  have whole : number.spelling.takeWhile (· != '.') = number.whole := by
    rw [spelling, List.takeWhile_append_of_pos,
      List.takeWhile_cons_of_neg (by simp), List.append_nil]
    intro d member
    simpa using ne_of_isDigit (isNumeral.whole d member) (d := '.') rfl
  simp only [Lexeme.numberToken?, whole]
  simp [spelling, isNumeral.filled, decimal]

end PointNumber

namespace Binary64

/-- The double has a text without an exponent: it is finite, and zero or of a
leading digit from the fourth place after the point to the sixteenth before
it. -/
def IsPositional (x : Binary64) : Prop :=
  x.isFinite = true ∧
    (x.shortest.digits = 0 ∨ -4 ≤ x.shortest.leading ∧ x.shortest.leading ≤ 15)

instance (x : Binary64) : Decidable x.IsPositional :=
  inferInstanceAs (Decidable (_ ∧ _))

theorem write_of_isFinite {x : Binary64} (finite : x.isFinite = true) :
    (DecimalLayout.literal.write x).toList =
      sign x.isNegative ++ (DecimalLayout.literal.writeDecimal
        x.shortest).toList := by
  have less : x.magnitude < infinityBits := by simpa [isFinite] using finite
  have number : x.isNaN = false := by
    simp only [isNaN, decide_eq_false_iff_not]
    omega
  have bounded : x.isInfinite = false := by
    rw [isInfinite, beq_eq_false_iff_ne]
    omega
  rw [DecimalLayout.write, number, bounded, if_neg Bool.false_ne_true,
    if_neg Bool.false_ne_true, String.toList_append]
  cases x.isNegative <;> rfl

end Binary64

namespace Predicate

theorem readBack_of_isPositional {x : Binary64} (positional : x.IsPositional) :
    ReadBack (.double x) := by
  obtain ⟨finite, range⟩ := positional
  have isNumeral := DecimalLayout.isNumeral_pointNumber x.shortest
  refine ⟨.double x, rfl, fun rest stops => ?_⟩
  have written : DecimalLayout.literal.writeDecimal x.shortest =
      DecimalLayout.writePositional true x.shortest := if_pos range
  have token := isNumeral.numberToken? x.isNegative
  rw [Binary64.ofDecimal_eq_of_value_eq finite
    (DecimalLayout.value_pointNumber _)] at token
  rw [literalSpelling, Binary64.write_of_isFinite finite, written,
    DecimalLayout.spelling_pointNumber]
  exact isNumeral.numeral.spells stops.endsNumber token

end Predicate

end Hotplug
