/-
# Powers of two and ten

The powers that the formats of numbers are made of.
-/

namespace PathQuery

/-- The power of two with the given exponent. -/
def powerOfTwo (n : Nat) : Nat := Nat.pow 2 n

/-- The power of ten with the given exponent. -/
def powerOfTen (n : Nat) : Nat := Nat.pow 10 n

theorem powerOfTwo_pos (n : Nat) : 0 < powerOfTwo n := Nat.pow_pos (by decide)

theorem powerOfTwo_add (m n : Nat) : powerOfTwo (m + n) = powerOfTwo m * powerOfTwo n :=
  Nat.pow_add 2 m n

theorem powerOfTwo_le_of_le {m n : Nat} (le : m ≤ n) : powerOfTwo m ≤ powerOfTwo n :=
  Nat.pow_le_pow_right (by decide) le

end PathQuery
