import Mathlib.Order.Compare
import Mathlib.Algebra.Order.Ring.Int
import Hotplug.Predicate.Compare

/-!
# How a value lies to a literal

A value and a literal are compared as two numbers, as two texts or as two truth
values, or not at all. Where they are compared, the six operators tell one order
of the two, which for integers is that of the integers themselves. A mask is
tested bit by bit on the words of integers, and lists of texts are only asked
for their members.
-/

namespace Hotplug

/-- What an operator says of two integers. A mask says nothing about their
order. -/
def Comparator.Relates : Comparator → ℤ → ℤ → Prop
  | eq, left, right => left = right
  | ne, left, right => left ≠ right
  | lt, left, right => left < right
  | le, left, right => left ≤ right
  | gt, left, right => left > right
  | ge, left, right => left ≥ right
  | mask, _, _ => False

/-- Exactly one of less, equal and greater is answered, and each other operator
is the opposite of one of these. -/
structure Trichotomous (answers : Comparator → Bool) : Prop where
  one : ∃! op, op ∈ [Comparator.lt, .eq, .gt] ∧ answers op = true
  ne : answers .ne = !answers .eq
  le : answers .le = !answers .gt
  ge : answers .ge = !answers .lt

namespace Comparator

/-- Operators that all go by one order agree with each other. -/
theorem trichotomous_of_allows {answers : Comparator → Bool} {order : Ordering}
    (same : ∀ op ≠ mask, answers op = op.allows order) :
    Trichotomous answers where
  one := by
    have only {op other : Comparator} (listed : other ∈ [lt, eq, gt])
      (yes : answers other = true)
        (others : ∀ other ∈ [lt, eq, gt], other.allows order = true → other =
            op) : other = op := by
      refine others other listed ?_
      rwa [← same other (by rintro rfl; simp at listed)]
    cases order with
    | lt =>
        exact ⟨lt, ⟨by simp, same lt nofun⟩,
          fun _ found => only found.1 found.2 (by decide)⟩
    | eq =>
        exact ⟨eq, ⟨by simp, same eq nofun⟩,
          fun _ found => only found.1 found.2 (by decide)⟩
    | gt =>
        exact ⟨gt, ⟨by simp, same gt nofun⟩,
          fun _ found => only found.1 found.2 (by decide)⟩
  ne := by
    rw [same ne nofun, same eq nofun]
    rfl
  le := by
    rw [same le nofun, same gt nofun]
    rfl
  ge := by
    rw [same ge nofun, same lt nofun]
    rfl

theorem allows_compare_iff {op : Comparator} {left right : ℤ} :
    op.allows (compare left right) = true ↔ op.Relates left right := by
  rcases lt_trichotomy left right with less | rfl | greater
  · rw [compare_lt_iff_lt.mpr less]
    cases op <;> simp [allows, Relates] <;> omega
  · rw [compare_eq_iff_eq.mpr rfl]
    cases op <;> simp [allows, Relates]
  · rw [compare_gt_iff_gt.mpr greater]
    cases op <;> simp [allows, Relates] <;> omega

end Comparator

namespace Binary64

theorem isNaN_ofMagnitude {negative : Bool} {magnitude : ℕ}
    (bound : magnitude ≤ infinityBits) :
    (ofMagnitude negative magnitude).isNaN = false := by
  have less : infinityBits < signBit := by decide
  have half : signBit = 9223372036854775808 := rfl
  have same : (ofMagnitude negative magnitude).magnitude = magnitude := by
    simp only [Binary64.magnitude, ofMagnitude, UInt64.toNat_ofNat', half]
    split <;> omega
  rw [isNaN, same, decide_eq_false (by omega)]

theorem isSome_compare?_iff {x y : Binary64} :
    (x.compare? y).isSome = true ↔ x.isNaN = false ∧ y.isNaN = false := by
  cases left : x.isNaN <;> cases right : y.isNaN <;>
    simp [compare?, left, right]

/-- What is rounded is a number, if an infinite one. -/
theorem isNaN_ofQuotient (negative : Bool) (numerator denominator : ℕ) :
    (ofQuotient negative numerator denominator).isNaN = false := by
  unfold ofQuotient
  split
  · exact isNaN_ofMagnitude (Nat.zero_le _)
  · exact isNaN_ofMagnitude (Nat.min_le_right _ _)

end Binary64

namespace Value

/-- The value is an integer, which is kept in this word. -/
inductive IsInteger : Value → ℤ → BitVec 64 → Prop
  | int (number : Int64) : IsInteger (.int number) number.toInt number.toBitVec
  | uint (number : UInt64) :
    IsInteger (.uint number) number.toNat number.toBitVec

/-- The value is an integer, or a double that is a number. -/
inductive IsNumber : Value → Prop
  | integer {value : Value} {number : ℤ} {word : BitVec 64}
      (integer : IsInteger value number word) : IsNumber value
  | double {number : Binary64} (real : number.isNaN = false) :
    IsNumber (.double number)

/-- The value and the literal are two numbers, two texts, or two truth values as
far as the value can be read as one. -/
inductive Comparable : Value → Value → Prop
  | numbers {actual literal : Value} (left : IsNumber actual)
    (right : IsNumber literal) :
      Comparable actual literal
  | texts (left right : String) : Comparable (.text left) (.text right)
  | truths {actual : Value} {left : Bool} (read : actual.toBool? = some left)
    (right : Bool) : Comparable actual (.bool right)

/-- The words have a one bit in common. -/
def Overlap (left right : BitVec 64) : Prop :=
  ∃ i, left.getLsbD i = true ∧ right.getLsbD i = true

/-- What the operators answer of a value and a literal. -/
structure Compares (actual literal : Value) : Prop where
  ordered : Comparable actual literal → Trichotomous (actual.related · literal)
  unordered : ¬Comparable actual literal → (∀ items, actual ≠ .texts items) →
    ∀ op ≠ .mask, actual.related op literal = false
  integers : ∀ {left right leftWord rightWord}, IsInteger actual left leftWord →
    IsInteger literal right rightWord →
    ∀ op ≠ .mask, (actual.related op literal = true ↔ op.Relates left right)
  masked : actual.related .mask literal = true ↔
    ∃ left right leftWord rightWord, IsInteger actual left leftWord ∧
      IsInteger literal right rightWord ∧ Overlap leftWord rightWord
  members : ∀ items, actual = .texts items → ∀ op,
    actual.related op literal = true ↔ ∃ content, literal = .text content ∧
      (op = .eq ∧ content ∈ items ∨ op = .ne ∧ content ∉ items)

section Words

variable {value actual literal : Value} {number left right : ℤ}
  {word leftWord rightWord : BitVec 64}

theorem IsInteger.toInteger? (integer : IsInteger value number word) :
    value.toInteger? = some number := by
  cases integer <;> rfl

theorem exists_isInteger (read : value.toInteger? = some number) :
    ∃ word, IsInteger value number word := by
  cases value with
  | int kept =>
      cases read
      exact ⟨_, .int kept⟩
  | uint kept =>
      cases read
      exact ⟨_, .uint kept⟩
  | _ => cases read

/-- Beyond its word an integer goes on with its sign. -/
theorem IsInteger.getLsbD_ofInt (integer : IsInteger value number word)
    (i : ℕ) :
    (BitVec.ofInt 128 number).getLsbD i =
      (decide (i < 128) && if i < 64 then word.getLsbD i
        else decide (number < 0)) := by
  cases integer with
  | int kept =>
      have sign : kept.toBitVec.msb = decide (kept.toInt < 0) :=
        BitVec.msb_eq_toInt
      rw [← sign]
      exact BitVec.getLsbD_signExtend _
  | uint kept =>
      have natural : ¬(kept.toNat : ℤ) < 0 := by omega
      rw [BitVec.ofInt_natCast, BitVec.getLsbD_ofNat, decide_eq_false natural,
        ← UInt64.toNat_toBitVec, BitVec.testBit_toNat]
      split
      · rfl
      · next beyond => rw [BitVec.getLsbD_of_ge _ _ (by omega)]

theorem IsInteger.getLsbD_of_neg (integer : IsInteger value number word)
    (negative : number < 0) :
    word.getLsbD 63 = true := by
  cases integer with
  | int kept =>
      have sign : kept.toBitVec.msb = decide (kept.toInt < 0) :=
        BitVec.msb_eq_toInt
      rwa [BitVec.msb_eq_getLsbD_last, decide_eq_true negative] at sign
  | uint kept => omega

/-- Where two integers have a bit in common beyond their words, both are
negative. -/
theorem sharesBit_iff (isLeft : IsInteger actual left leftWord)
    (isRight : IsInteger literal right rightWord) :
    sharesBit left right = true ↔ Overlap leftWord rightWord := by
  rw [sharesBit, bne_iff_ne, Ne, BitVec.zero_iff_eq_false]
  simp only [BitVec.getLsbD_and, isLeft.getLsbD_ofInt, isRight.getLsbD_ofInt]
  constructor
  · intro shared
    obtain ⟨i, common⟩ := not_forall.mp shared
    by_cases inside : i < 64
    · exact ⟨i, by simp_all⟩
    · have negative : left < 0 ∧ right < 0 := by simp_all
      exact ⟨63, isLeft.getLsbD_of_neg negative.1,
        isRight.getLsbD_of_neg negative.2⟩
  · rintro ⟨i, ofLeft, ofRight⟩ none
    have inside : i < 64 := BitVec.lt_of_getLsbD ofLeft
    have within : i < 128 := by omega
    have common := none i
    simp only [inside, within, ofLeft, ofRight, decide_true, if_true,
      Bool.and_self] at common
    cases common

theorem related_mask_iff :
    actual.related .mask literal = true ↔
      ∃ left right leftWord rightWord, IsInteger actual left leftWord ∧
        IsInteger literal right rightWord ∧ Overlap leftWord rightWord := by
  rw [related]
  constructor
  · intro shared
    split at shared
    · next left right isLeft isRight =>
        obtain ⟨leftWord, leftInteger⟩ := exists_isInteger isLeft
        obtain ⟨rightWord, rightInteger⟩ := exists_isInteger isRight
        exact ⟨left, right, leftWord, rightWord, leftInteger, rightInteger,
          (sharesBit_iff leftInteger rightInteger).mp shared⟩
    · cases shared
  · rintro ⟨left, right, leftWord, rightWord, isLeft, isRight, overlap⟩
    rw [isLeft.toInteger?, isRight.toInteger?]
    exact (sharesBit_iff isLeft isRight).mpr overlap

end Words

section Orders

variable {actual literal : Value} {left right : ℤ}
  {leftWord rightWord : BitVec 64}

theorem order?_of_isInteger (isLeft : IsInteger actual left leftWord)
    (isRight : IsInteger literal right rightWord) :
    order? actual literal = some (compare left right) := by
  cases isLeft <;> cases isRight <;> rfl

theorem IsNumber.exists_toDouble? {value : Value} (isNumber : IsNumber value) :
    value.isNumeric = true ∧ ∃ number, value.toDouble? = some number ∧
      number.isNaN = false := by
  cases isNumber with
  | integer integer =>
      cases integer with
      | int kept => exact ⟨rfl, _, rfl, Binary64.isNaN_ofQuotient _ _ _⟩
      | uint kept => exact ⟨rfl, _, rfl, Binary64.isNaN_ofQuotient _ _ _⟩
  | double real => exact ⟨rfl, _, rfl, real⟩

theorem isNumber_of_toDouble? {value : Value} {number : Binary64}
    (read : value.toDouble? = some number) (real : number.isNaN = false) :
    IsNumber value := by
  cases value with
  | int kept => exact .integer (.int kept)
  | uint kept => exact .integer (.uint kept)
  | double kept =>
      cases read
      exact .double real
  | _ => cases read

theorem comparable_of_order? (found : (order? actual literal).isSome = true) :
    Comparable actual literal := by
  unfold order? at found
  split at found
  · next isLeft isRight =>
      obtain ⟨_, leftInteger⟩ := exists_isInteger isLeft
      obtain ⟨_, rightInteger⟩ := exists_isInteger isRight
      exact .numbers (.integer leftInteger) (.integer rightInteger)
  · split at found
    · split at found
      · next isLeft isRight =>
          obtain ⟨realLeft, realRight⟩ := Binary64.isSome_compare?_iff.mp found
          exact .numbers (isNumber_of_toDouble? isLeft realLeft)
            (isNumber_of_toDouble? isRight realRight)
      · cases found
    · split at found
      · exact .texts _ _
      · rw [Option.isSome_map] at found
        obtain ⟨left, read⟩ := Option.isSome_iff_exists.mp found
        exact .truths read _
      · cases found

theorem exists_order?_of_comparable (comparable : Comparable actual literal) :
    ∃ order, order? actual literal = some order := by
  cases comparable with
  | numbers isLeft isRight =>
      obtain ⟨leftNumeric, left, readLeft, realLeft⟩ := isLeft.exists_toDouble?
      obtain ⟨rightNumeric, right, readRight, realRight⟩ :=
        isRight.exists_toDouble?
      unfold order?
      split
      · exact ⟨_, rfl⟩
      · rw [leftNumeric, rightNumeric, readLeft, readRight]
        exact Option.isSome_iff_exists.mp
          (Binary64.isSome_compare?_iff.mpr ⟨realLeft, realRight⟩)
  | texts left right => exact ⟨compare left right, rfl⟩
  | @truths _ left read right =>
      refine ⟨compareBool left right, ?_⟩
      unfold order?
      split
      · next isRight => cases isRight
      · simp [isNumeric, read]

theorem related_of_order? {order : Ordering}
    (found : order? actual literal = some order) {op : Comparator}
    (ordering : op ≠ .mask) :
    actual.related op literal = op.allows order := by
  have noList : ∀ items, actual ≠ .texts items := by
    rintro items rfl
    cases literal <;> cases found
  unfold related
  split
  · exact absurd rfl ordering
  · split
    · next items => exact absurd rfl (noList items)
    · rw [found]

theorem related_of_not_comparable (apart : ¬Comparable actual literal)
    (noList : ∀ items, actual ≠ .texts items) {op : Comparator}
    (ordering : op ≠ .mask) :
    actual.related op literal = false := by
  have none : order? actual literal = none := by
    rw [← Option.not_isSome_iff_eq_none]
    exact fun found => apart (comparable_of_order? found)
  unfold related
  split
  · exact absurd rfl ordering
  · split
    · next items => exact absurd rfl (noList items)
    · rw [none]

theorem related_texts_iff (items : List String) (op : Comparator) :
    related (.texts items) op literal = true ↔
      ∃ content, literal = .text content ∧
        (op = .eq ∧ content ∈ items ∨ op = .ne ∧ content ∉ items) := by
  cases op <;> cases literal <;> simp [related, listRelation, toInteger?]

end Orders

/-- What each operator answers of any value and any literal. -/
theorem compares (actual literal : Value) : Compares actual literal where
  ordered comparable := by
    obtain ⟨order, found⟩ := exists_order?_of_comparable comparable
    exact Comparator.trichotomous_of_allows fun op => related_of_order? found
  unordered apart noList op ordering :=
    related_of_not_comparable apart noList ordering
  integers isLeft isRight op ordering := by
    rw [related_of_order? (order?_of_isInteger isLeft isRight) ordering]
    exact Comparator.allows_compare_iff
  masked := related_mask_iff
  members items isList op := by
    subst isList
    exact related_texts_iff items op

/-- The least signed number and the first that needs no sign share their word,
but lie on either side of zero. -/
theorem compares_limits :
    related (.int Int64.minValue) .lt (.uint 0x8000000000000000) = true ∧
      related (.int Int64.minValue) .mask (.uint 0x8000000000000000) =
        true := by
  refine ⟨((compares _ _).integers (.int _) (.uint _) .lt nofun).mpr ?_,
    (compares _ _).masked.mpr ⟨_, _, _, _, .int _, .uint _, 63, ?_, ?_⟩⟩
  · show Int64.minValue.toInt < ((0x8000000000000000 : UInt64).toNat : ℤ)
    decide
  · decide
  · decide

end Value

end Hotplug
