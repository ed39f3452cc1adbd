/-!
# Decimal digits

Digits are gathered in blocks that fit in a machine word, and only full blocks
are joined to the number. A long run of digits is read as if they were joined
one by one.
-/

namespace Hotplug.Text.Digits

def value (c : Char) : Nat := c.toNat - '0'.toNat

/-- A number with one more digit. -/
def push (number : Nat) (c : Char) : Nat := 10 * number + value c

/-- Ten to the number of digits in a full block. -/
def fullBlock : Nat := 1000000000000000000

/-- The number of digits that follow a block, which has as many digits as its
scale has zeros and follows a number itself. -/
def readAfter (number block scale : Nat) : List Char → Nat
  | [] => number * scale + block
  | c :: rest =>
      if scale < fullBlock then readAfter number (push block c)
        (10 * scale) rest
      else readAfter (number * scale + block) (value c) 10 rest

def read (digits : List Char) : Nat := readAfter 0 0 1 digits

theorem readAfter_eq (number block scale : Nat) (digits : List Char) :
    readAfter number block scale digits =
      digits.foldl push (number * scale + block) := by
  induction digits generalizing number block scale with
  | nil => rfl
  | cons c rest further =>
      simp only [readAfter, List.foldl_cons]
      split
      · rw [further]
        congr 1
        simp only [push, Nat.mul_add, Nat.mul_left_comm, Nat.add_assoc]
      · rw [further]
        congr 1
        simp only [push, Nat.mul_comm]

theorem read_eq_foldl (digits : List Char) :
    read digits = digits.foldl push 0 := by
  simp [read, readAfter_eq]

end Hotplug.Text.Digits
