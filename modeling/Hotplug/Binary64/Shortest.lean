import Hotplug.Binary64

/-!
# The fewest digits that read back

The decimals that round to a given double form an interval around it. Among the
grids of one, two, … digits the first one with a point in that interval gives
the shortest decimal; on it only the two neighbours of the double matter, and
the nearer one is taken.
-/

namespace Hotplug

/-- The number `digits * 10 ^ power`. -/
structure Decimal where
  digits : Nat
  power : Int
  deriving DecidableEq, Repr

namespace Decimal

def digitCount (n : Nat) : Nat := (Nat.toDigits 10 n).length

/-- The position of the leading digit: the exponent in scientific notation. -/
def leading (d : Decimal) : Int := d.power + digitCount d.digits - 1

/-- The same number without zeros at the end of its digits, of which at most
`count` are removed. -/
def trim : Nat → Decimal → Decimal
  | 0, d => d
  | count + 1, d =>
      if d.digits ≠ 0 ∧ d.digits % 10 = 0 then
        trim count ⟨d.digits / 10, d.power + 1⟩
      else d

end Decimal

namespace Binary64

/-- The reals that round to a double, in quarters of its last place. -/
structure RoundingInterval where
  low : Nat
  middle : Nat
  high : Nat
  closed : Bool

/-- Half a place on each side, but only a quarter below a power of two, where
the doubles lie twice as dense. The ends round to the double when its
significand is even. -/
def roundingInterval (x : Binary64) : RoundingInterval where
  low := if x.significand = hiddenBit ∧ x.exponent ≠ -1074 then
    4 * x.significand - 1 else 4 * x.significand - 2
  middle := 4 * x.significand
  high := 4 * x.significand + 2
  closed := x.significand % 2 == 0

/-- The exponent of the leading digit of a positive quotient. -/
def leadingPower (numerator denominator : Nat) : Int :=
  let above := Decimal.digitCount numerator
  let below := Decimal.digitCount denominator
  let guess : Int := (above : Int) - below
  let reached :=
    if below ≤ above then decide
      (denominator * Nat.pow 10 (above - below) ≤ numerator)
    else decide (denominator ≤ numerator * Nat.pow 10 (below - above))
  if reached then guess else guess - 1

/-- A quarter of the last place in units of `10 ^ power`, as a fraction. -/
def quarterPlace (x : Binary64) (power : Int) : Nat × Nat :=
  let (numerator, denominator) := scaledFraction 1 (x.exponent - 2)
  if 0 ≤ power then (numerator, denominator * Nat.pow 10 power.toNat)
  else (numerator * Nat.pow 10 (-power).toNat, denominator)

/-- The multiple of `10 ^ power` nearest to a double, if it reads back. Of two
equally near ones the larger is taken. -/
def nearestOnGrid (x : Binary64) (power : Int) : Option Decimal :=
  let interval := x.roundingInterval
  let (numerator, denominator) := x.quarterPlace power
  let value := interval.middle * numerator
  let lower := value / denominator
  let inside (point : Nat) : Bool :=
    if interval.closed then
      decide (interval.low * numerator ≤ point * denominator)
        && decide (point * denominator ≤ interval.high * numerator)
    else
      decide (interval.low * numerator < point * denominator)
        && decide (point * denominator < interval.high * numerator)
  let lowerFits := inside lower
  let upperFits := inside (lower + 1)
  let upperNearer := decide (denominator ≤ 2 * (value % denominator))
  if upperFits && (upperNearer || !lowerFits) then some ⟨lower + 1, power⟩
  else if lowerFits then some ⟨lower, power⟩
  else none

/-- The shortest decimal that reads back as a finite double's magnitude.
Seventeen digits are always enough. -/
def shortest (x : Binary64) : Decimal :=
  if x.magnitude = 0 then ⟨0, 0⟩
  else
    let (numerator, denominator) := x.fraction
    let lead := leadingPower numerator denominator
    let found := (List.range 17).findSome? fun (further : Nat) =>
      x.nearestOnGrid (lead - further)
    (found.getD ⟨0, 0⟩).trim 17

end Binary64

end Hotplug
