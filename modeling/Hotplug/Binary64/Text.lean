import Hotplug.Binary64.Shortest

/-!
# Texts of doubles

Two texts are in use: the plain one, which never has an exponent, and the one of
literals, which always shows that the number is a double.
-/

namespace Hotplug

/-- How the digits of a double are laid out. -/
structure DecimalLayout where
  /-- Whether an integral number keeps a point and one zero. -/
  pointKept : Bool
  /-- The leading exponents that are written positionally, if not all of them
  are. -/
  positional : Option (Int × Int)

namespace DecimalLayout

/-- Digits and point, no exponent: `1`, `0.25`, `1000`. -/
def plain : DecimalLayout := ⟨false, none⟩

/-- A point or an exponent is always there, and an exponent is used below `1e-4`
and from `1e16` on: `1.0`, `1.5e-7`, `1e16`. -/
def literal : DecimalLayout := ⟨true, some (-4, 15)⟩

def zeros (count : Nat) : String := String.ofList (List.replicate count '0')

/-- Digits with the point where it belongs. -/
def writePositional (pointKept : Bool) (d : Decimal) : String :=
  let digits := Nat.toDigits 10 d.digits
  if 0 ≤ d.power then
    String.ofList digits ++ zeros d.power.toNat ++
      (if pointKept then ".0" else "")
  else
    let places := (-d.power).toNat
    if places < digits.length then
      String.ofList (digits.take (digits.length - places)) ++ "."
        ++ String.ofList (digits.drop (digits.length - places))
    else "0." ++ zeros (places - digits.length) ++ String.ofList digits

/-- One digit, the point, the others, and the exponent. -/
def writeScientific (d : Decimal) : String :=
  let digits := Nat.toDigits 10 d.digits
  let fraction := digits.drop 1
  String.ofList (digits.take 1) ++
    (if fraction.isEmpty then "" else "." ++ String.ofList fraction)
    ++ "e" ++ toString d.leading

def writeDecimal (layout : DecimalLayout) (d : Decimal) : String :=
  match layout.positional with
  | none => writePositional layout.pointKept d
  | some (least, greatest) =>
      if d.digits = 0 ∨ (least ≤ d.leading ∧ d.leading ≤ greatest) then
        writePositional layout.pointKept d
      else writeScientific d

def write (layout : DecimalLayout) (x : Binary64) : String :=
  if x.isNaN then "NaN"
  else
    (if x.isNegative then "-" else "")
      ++ (if x.isInfinite then "inf" else layout.writeDecimal x.shortest)

end DecimalLayout

end Hotplug
