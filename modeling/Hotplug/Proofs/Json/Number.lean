import Hotplug.Json.Number
import Hotplug.Proofs.Json.Spelling

/-!
# Integers in JSON

The decimal digits of an integer make a number that can be written. Read again,
the digits are the integer: one with a sign if it can have one, and otherwise
one without.
-/

namespace Hotplug

namespace JsonNumber

open Text

section Digits

theorem eq_zero_of_head?_toDigits (n : Nat)
    (zero : (Nat.toDigits 10 n).head? = some '0') :
    n = 0 := by
  induction n using Nat.strongRecOn with
  | ind n induction =>
      rw [Nat.toDigits_eq_if (by decide)] at zero
      split at zero
      · exact Nat.digitChar_eq_zero.mp (Option.some.inj zero)
      · next large =>
          obtain ⟨d, more, digits⟩ := List.exists_cons_of_ne_nil
            (Nat.toDigits_ne_nil (n := n / 10) (b := 10))
          rw [digits] at zero
          have none := induction (n / 10) (by omega)
            (by rw [digits]; exact zero)
          omega

theorem isSound_digits (negative : Bool) (n : Nat) :
    IsSound ⟨negative, Nat.toDigits 10 n, [], none⟩ where
  whole _ := Nat.isDigit_of_mem_toDigits (by decide) (by decide)
  filled := Nat.toDigits_ne_nil
  shortest zero := by
    obtain rfl := eq_zero_of_head?_toDigits n zero
    rfl
  fraction := nofun
  exponent := nofun

theorem ofInt_natCast (n : Nat) : ofInt n = ofNat n := by
  simp [ofInt, ofNat]

end Digits

section Reading

theorem le_foldl_push (word : Nat) (digits : List Char) :
    word ≤ digits.foldl Digits.push word := by
  induction digits generalizing word with
  | nil => exact Nat.le_refl word
  | cons c digits induction =>
      have grown : word ≤ Digits.push word c := by rw [Digits.push]; omega
      exact grown.trans (induction _)

theorem gatherWhole_eq {word : Nat} {digits : List Char}
    (fits : digits.foldl Digits.push word ≤ wordLimit) :
    gatherWhole word digits = (digits.foldl Digits.push word, 0) := by
  induction digits generalizing word with
  | nil => rfl
  | cons c digits induction =>
      have first : Digits.push word c ≤ wordLimit :=
        (le_foldl_push _ digits).trans fits
      rw [gatherWhole, if_pos first, induction fits, List.foldl_cons]

theorem gatherWhole_toDigits {n : Nat} (fits : n < Word.unsignedLimit) :
    gatherWhole 0 (Nat.toDigits 10 n) = (n, 0) := by
  have isNumber : (Nat.toDigits 10 n).foldl Digits.push 0 = n :=
    Nat.ofDigitChars_ten_toDigits
  rw [gatherWhole_eq, isNumber]
  rw [isNumber, wordLimit]
  omega

theorem toInteger?_ofNat {n : Nat} (fits : n < Word.unsignedLimit) :
    (ofNat n).toInteger? =
      some (if n < Word.signedLimit then .int (Int64.ofNat n)
        else .uint (UInt64.ofNat n)) := by
  simp [toInteger?, ofNat, gatherWhole_toDigits fits, apply_ite some]

theorem toInteger?_ofInt (n : Int64) :
    (ofInt n.toInt).toInteger? = some (.int n) := by
  have low := n.le_toInt
  have high := n.toInt_lt
  by_cases negative : n.toInt < 0
  · have fits : n.toInt.natAbs < Word.unsignedLimit := by
      rw [Word.unsignedLimit]; omega
    have inside : 1 ≤ n.toInt.natAbs ∧ n.toInt.natAbs ≤ Word.signedLimit := by
      rw [Word.signedLimit]
      omega
    have same : -(n.toInt.natAbs : Int) = n.toInt := by omega
    rw [toInteger?, ofInt, decide_eq_true negative]
    simp only [gatherWhole_toDigits fits]
    rw [if_pos inside, same, Int64.ofInt_toInt]
    rfl
  · obtain ⟨m, same⟩ := Int.eq_ofNat_of_zero_le (Int.not_lt.mp negative)
    have small : m < Word.signedLimit := by rw [Word.signedLimit]; omega
    have back : Int64.ofNat m = n := by
      rw [← Int64.ofInt_toInt n, same]
      rfl
    rw [same, ofInt_natCast, toInteger?_ofNat (small.trans (by decide)),
      if_pos small, back]

end Reading

end JsonNumber

end Hotplug
