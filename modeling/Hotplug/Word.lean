/-!
# Ranges of words

Integers are kept in words of 64 bits, with a sign or without one.
-/

namespace Hotplug.Word

/-- The first number above the words with a sign, which is also how far these
reach below zero. -/
def signedLimit : Nat := 0x8000000000000000

/-- The first number above the words without a sign. -/
def unsignedLimit : Nat := 0x10000000000000000

end Hotplug.Word
