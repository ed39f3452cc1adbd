import Hotplug.Text.CodeRange

/-!
# Blank characters

The Unicode property `White_Space`: in ASCII the space and the five controls
from tabulation to carriage return, beyond it seventeen more characters.
-/

namespace Hotplug.Text

/-- The property `White_Space` beyond ASCII. -/
def blankRanges : CodeRanges :=
  [(0x85, 0x85), (0xa0, 0xa0), (0x1680, 0x1680), (0x2000, 0x200a),
    (0x2028, 0x2029),
   (0x202f, 0x202f), (0x205f, 0x205f), (0x3000, 0x3000)]

def isBlank (c : Char) : Bool :=
  c == ' ' || (decide (9 ≤ c.toNat) && decide (c.toNat ≤ 13))
    || (decide (128 ≤ c.toNat) && blankRanges.holds c)

def trim (cs : List Char) : List Char :=
  ((cs.dropWhile isBlank).reverse.dropWhile isBlank).reverse

end Hotplug.Text
