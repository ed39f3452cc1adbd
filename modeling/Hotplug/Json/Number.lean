import Hotplug.Json
import Hotplug.Text.Digits
import Hotplug.Value

/-!
# The values of JSON numbers

A number without a point or exponent is an integer if it fits in 64 bits, and a
double otherwise. For a double the digits are gathered in a 64 bit word as long
as they fit and dropped afterwards; the word is then scaled by a power of ten
that is a double itself. A double is therefore not always the one nearest to the
written number.
-/

namespace Hotplug

open Text

namespace JsonNumber

/-- The greatest number that digits are gathered in. -/
def wordLimit : Nat := Word.unsignedLimit - 1

/-- Digits before the point: the word they are gathered in, and the number of
digits that no longer fit. -/
def gatherWhole (word : Nat) : List Char → Nat × Nat
  | [] => (word, 0)
  | c :: rest =>
      if Digits.push word c ≤ wordLimit then
        gatherWhole (Digits.push word c) rest
      else (word, rest.length + 1)

/-- Digits after the point: the word, and the number of digits that went into
it. -/
def gatherFraction (word : Nat) : List Char → Nat × Nat
  | [] => (word, 0)
  | c :: rest =>
      if Digits.push word c ≤ wordLimit then
        let (gathered, count) := gatherFraction (Digits.push word c) rest
        (gathered, count + 1)
      else (word, 0)

def powerOfTen (power : Nat) : Binary64 := .ofDecimal false 1 power

/-- A double scaled by a power of ten, if the result is finite. Powers below
those of doubles are taken in steps. -/
def scale? (x : Binary64) (power : Int) : Option Binary64 :=
  if power.natAbs ≤ 308 then
    if 0 ≤ power then
      let scaled := x.timesMagnitude (powerOfTen power.toNat)
      if scaled.isInfinite then none else some scaled
    else some (x.overMagnitude (powerOfTen power.natAbs))
  else if x.magnitude = 0 then some x
  else if 0 ≤ power then none
  else scale? (x.overMagnitude (powerOfTen 308)) (power + 308)
  termination_by power.natAbs
  decreasing_by omega

def withSign (negative : Bool) (x : Binary64) : Binary64 :=
  if negative then x.negate else x

/-- The exponent that digits denote, if it fits in 32 bits with a sign. -/
def exponentValue? (digits : List Char) : Option Nat :=
  let value := Digits.read digits
  if value < 0x80000000 then some value else none

def toDouble? (number : JsonNumber) : Option Binary64 :=
  let (whole, dropped) := gatherWhole 0 number.whole
  let (word, places) := gatherFraction whole number.fraction
  let power : Int := (dropped : Int) - places
  let magnitude :=
    match number.exponent with
    | none => scale? (.ofNat word) power
    | some (below, digits) =>
        match exponentValue? digits with
        | some exponent =>
            scale? (.ofNat word) (if below then power - exponent
              else power + exponent)
        | none => if word ≠ 0 ∧ below = false then none else some (.zero false)
  magnitude.map (withSign number.negative)

/-- The integer of a number that is written as one and fits in 64 bits. Zero
with a sign is no integer. -/
def toInteger? (number : JsonNumber) : Option Value :=
  if number.fraction.isEmpty && number.exponent.isNone then
    let (word, dropped) := gatherWhole 0 number.whole
    if dropped ≠ 0 then none
    else if number.negative then
      if 1 ≤ word ∧ word ≤ Word.signedLimit then
        some (.int (Int64.ofInt (-(word : Int)))) else none
    else if word < Word.signedLimit then some (.int (Int64.ofNat word))
    else some (.uint (UInt64.ofNat word))
  else none

def toValue? (number : JsonNumber) : Option Value :=
  match number.toInteger? with
  | some value => some value
  | none => number.toDouble?.map Value.double

end JsonNumber

end Hotplug
