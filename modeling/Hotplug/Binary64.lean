/-!
# Double precision numbers

A double is kept as its 64 bits and computed with exactly: a finite one is a
fraction of natural numbers, and every operation rounds one exact quotient to
the nearest double, a tie to the even one.
-/

namespace Hotplug

/-- A double precision number by its bits: sign, eleven bits of exponent,
fraction. -/
structure Binary64 where
  bits : UInt64
  deriving DecidableEq, Repr

namespace Binary64

/-- The weight of the sign among the bits. -/
def signBit : Nat := 0x8000000000000000

/-- The weight of the lowest bit of the exponent, and of the leading bit of a
significand, which is not stored. -/
def hiddenBit : Nat := 0x10000000000000

def magnitude (x : Binary64) : Nat := x.bits.toNat % signBit

def isNegative (x : Binary64) : Bool := decide (signBit ≤ x.bits.toNat)

/-- The magnitude of infinity; everything above it is not a number. -/
def infinityBits : Nat := 2047 * hiddenBit

def isNaN (x : Binary64) : Bool := decide (infinityBits < x.magnitude)

def isInfinite (x : Binary64) : Bool := x.magnitude == infinityBits

def isFinite (x : Binary64) : Bool := decide (x.magnitude < infinityBits)

/-- The double with a sign and a magnitude. -/
def ofMagnitude (negative : Bool) (magnitude : Nat) : Binary64 :=
  ⟨UInt64.ofNat (if negative then signBit + magnitude else magnitude)⟩

def zero (negative : Bool) : Binary64 := ofMagnitude negative 0

def infinity (negative : Bool) : Binary64 := ofMagnitude negative infinityBits

/-- The quiet number that is none. -/
def nan : Binary64 := ofMagnitude false (infinityBits + hiddenBit / 2)

def significand (x : Binary64) : Nat :=
  if x.magnitude / hiddenBit = 0 then x.magnitude
  else hiddenBit + x.magnitude % hiddenBit

/-- The power of two that goes with the significand. -/
def exponent (x : Binary64) : Int :=
  if x.magnitude / hiddenBit = 0 then -1074
  else (x.magnitude / hiddenBit : Nat) - 1075

/-- A multiple of a power of two as a fraction. -/
def scaledFraction (factor : Nat) (power : Int) : Nat × Nat :=
  if 0 ≤ power then (factor * Nat.pow 2 power.toNat, 1)
    else (factor, Nat.pow 2 (-power).toNat)

/-- The magnitude of a finite double as a fraction. -/
def fraction (x : Binary64) : Nat × Nat :=
  scaledFraction x.significand x.exponent

/-- The integer nearest to a quotient; a tie goes to the even one. -/
def divideToEven (numerator denominator : Nat) : Nat :=
  let whole := numerator / denominator
  let rest := numerator % denominator
  if 2 * rest < denominator then whole
  else if denominator < 2 * rest then whole + 1
  else whole + whole % 2

/-- The quotient of two numbers in units of `2 ^ power`, rounded to an
integer. -/
def unitsOf (power : Int) (numerator denominator : Nat) : Nat :=
  if 0 ≤ power then divideToEven numerator (denominator * Nat.pow 2 power.toNat)
  else divideToEven (numerator * Nat.pow 2 (-power).toNat) denominator

/-- The power of two of the last place of a quotient: 53 bits, or as many as the
smallest doubles have. -/
def lastPlace (numerator denominator : Nat) : Int :=
  let guess : Int := (Nat.log2 numerator : Int) -
    (Nat.log2 denominator : Int) - 52
  let high :=
    if 0 ≤ guess then decide
      (denominator * Nat.pow 2 (guess.toNat + 52) ≤ numerator)
    else decide (denominator * hiddenBit ≤ numerator * Nat.pow 2 (-guess).toNat)
  max (if high then guess else guess - 1) (-1074)

/-- The double nearest to a quotient with a positive denominator. -/
def ofQuotient (negative : Bool) (numerator denominator : Nat) : Binary64 :=
  if numerator = 0 then zero negative
  else
    let power := lastPlace numerator denominator
    let units := unitsOf power numerator denominator
    let magnitude := (power + 1074).toNat * hiddenBit + units
    ofMagnitude negative (min magnitude infinityBits)

def ofNat (n : Nat) : Binary64 := ofQuotient false n 1

def ofInt (n : Int) : Binary64 := ofQuotient (decide (n < 0)) n.natAbs 1

/-- The double nearest to `digits * 10 ^ power`. -/
def ofDecimal (negative : Bool) (digits : Nat) (power : Int) : Binary64 :=
  if 0 ≤ power then ofQuotient negative (digits * Nat.pow 10 power.toNat) 1
  else ofQuotient negative digits (Nat.pow 10 (-power).toNat)

/-- The product of two finite magnitudes. -/
def timesMagnitude (x y : Binary64) : Binary64 :=
  ofQuotient false (x.fraction.1 * y.fraction.1) (x.fraction.2 * y.fraction.2)

/-- The quotient of two finite magnitudes, the second of them not zero. -/
def overMagnitude (x y : Binary64) : Binary64 :=
  ofQuotient false (x.fraction.1 * y.fraction.2) (x.fraction.2 * y.fraction.1)

def negate (x : Binary64) : Binary64 := ofMagnitude (!x.isNegative) x.magnitude

/-- A number that grows with the double; both zeros have the same. -/
def orderKey (x : Binary64) : Int :=
  if x.isNegative then -(x.magnitude : Int) else x.magnitude

/-- The order of two doubles, if both are numbers. -/
def compare? (x y : Binary64) : Option Ordering :=
  if x.isNaN || y.isNaN then none else some (compare x.orderKey y.orderKey)

/-- Numeric equality: zeros are equal, and what is not a number equals
nothing. -/
def same (x y : Binary64) : Bool := x.compare? y == some .eq

/-- The integer that a double equals, if it is one and not below zero. -/
def toNat? (x : Binary64) : Option Nat :=
  if x.isFinite && decide (0 ≤ x.orderKey) then
    let (numerator, denominator) := x.fraction
    if numerator % denominator = 0 then some (numerator / denominator) else none
  else none

end Binary64

end Hotplug
