/-!
# Hexadecimal digits

Numbers are written with lower case digits, as many as asked for at least.
Digits of either case are read.
-/

namespace Hotplug.Text.Hex

def digit? (c : Char) : Option Nat :=
  if c.isDigit then some (c.toNat - '0'.toNat)
  else if 'a' ≤ c ∧ c ≤ 'f' then some (c.toNat - 'a'.toNat + 10)
  else if 'A' ≤ c ∧ c ≤ 'F' then some (c.toNat - 'A'.toNat + 10)
  else none

def read? (digits : List Char) : Option Nat :=
  digits.foldlM (fun number c => (digit? c).map (16 * number + ·)) 0

/-- A number by at least `width` digits. -/
def write (width number : Nat) : List Char :=
  let digits := Nat.toDigits 16 number
  List.replicate (width - digits.length) '0' ++ digits

/-- Bytes from pairs of digits. -/
def readBytes? : List Char → Option (List UInt8)
  | [] => some []
  | [_] => none
  | high :: low :: rest => do
      let byte ← read? [high, low]
      return UInt8.ofNat byte :: (← readBytes? rest)

def writeBytes (bytes : List UInt8) : List Char :=
  bytes.flatMap fun byte => write 2 byte.toNat

end Hotplug.Text.Hex
