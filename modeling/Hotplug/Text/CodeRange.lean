/-!
# Ranges of code points

Character properties beyond ASCII are tables of code point ranges in ascending
order.
-/

namespace Hotplug.Text

/-- Code points from the first to the second, both included, in ascending
order. -/
abbrev CodeRanges := List (Nat × Nat)

/-- Whether some range holds the character. -/
def CodeRanges.holds (ranges : CodeRanges) (c : Char) : Bool :=
  ranges.any fun range => decide (range.1 ≤ c.toNat) &&
    decide (c.toNat ≤ range.2)

end Hotplug.Text
