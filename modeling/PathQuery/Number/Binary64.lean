/-
# Binary64 values and their order

A finite binary64 value is a sign and a magnitude counted in units of `2 ^ -1074`, the least
positive magnitude of the format.  With that unit every finite value is an integer, so two values
compare as integers and no rounding enters a comparison.

Rounding a quotient gives the nearest value, ties to the even significand, or an infinity when the
nearest value would reach `2 ^ 1024`.  `Extended` adds the infinities and the value that is not a
number; it is ordered by a key, with "not a number" equal to itself and below all else.
-/

import PathQuery.Number.Power

namespace PathQuery

/-- The binary point stands this many places from the right of a count of units. -/
def pointPlace : Nat := 1074

/-- How many units make `1`. -/
def unitsPerOne : Nat := powerOfTwo pointPlace

/-- How many units make `2 ^ 1024`, the first power that is too large for a finite value. -/
def unitLimit : Nat := powerOfTwo (pointPlace + 1024)

theorem unitLimit_pos : 0 < unitLimit := powerOfTwo_pos _

/-- What the significand of a binary64 value cannot exceed, `2 ^ 53`. -/
def significandLimit : Nat := 0x20000000000000

theorem powerOfTwo_53 : powerOfTwo 53 = significandLimit := rfl

/-- A count of units is the magnitude of a binary64 value when it is a significand, shifted, and
stays below `2 ^ 1024`. -/
def Representable (units : Nat) : Prop :=
  units < unitLimit ∧
    ∃ significand shift, significand ≤ significandLimit ∧ units = significand * powerOfTwo shift

/-- A finite binary64 value; `units` counts multiples of `2 ^ -1074`. -/
structure Binary64 where
  negative : Bool
  units : Nat
  representable : Representable units

namespace Binary64

/-- The value as a signed count of units; both zeros give `0`. -/
def value (x : Binary64) : Int :=
  if x.negative then -(x.units : Int) else x.units

/-- The zero of the given sign. -/
def zero (negative : Bool) : Binary64 :=
  ⟨negative, 0, unitLimit_pos, 0, 0, by decide, by decide⟩

end Binary64

/-- A binary64 value with the infinities and the value that is not a number. -/
inductive Extended where
  | nan
  | infinity (negative : Bool)
  | finite (x : Binary64)

namespace Extended

/-- The value, if it is finite. -/
def finite? : Extended → Option Binary64
  | finite x => some x
  | _ => none

/-- The key that orders extended values: "not a number" first, then the negative infinity, the
finite values by their units, and the positive infinity. -/
def key : Extended → Int × Int
  | nan => (-2, 0)
  | infinity true => (-1, 0)
  | finite x => (0, x.value)
  | infinity false => (1, 0)

/-- The order of extended values, which is total: it compares keys. -/
def order (a b : Extended) : Ordering :=
  (compare a.key.1 b.key.1).then (compare a.key.2 b.key.2)

end Extended

/-! ## Rounding a quotient -/

/-- The natural number nearest to `num / den`; a tie goes to the even one. -/
def roundHalfEven (num den : Nat) : Nat :=
  let quotient := num / den
  match compare (2 * (num % den)) den with
  | .lt => quotient
  | .gt => quotient + 1
  | .eq => if quotient % 2 = 0 then quotient else quotient + 1

theorem roundHalfEven_le_succ (num den : Nat) : roundHalfEven num den ≤ num / den + 1 := by
  unfold roundHalfEven
  dsimp only
  split
  · omega
  · omega
  · split <;> omega

/-- How far a magnitude of `whole` units is shifted so that a 53-bit significand is left. -/
def significandShift (whole : Nat) : Nat := whole.log2 - 52

theorem div_powerOfTwo_significandShift_lt (whole : Nat) :
    whole / powerOfTwo (significandShift whole) < significandLimit := by
  apply Nat.div_lt_of_lt_mul
  have below : whole < powerOfTwo (whole.log2 + 1) := Nat.lt_log2_self
  have room : powerOfTwo (whole.log2 + 1) ≤ powerOfTwo (significandShift whole + 53) :=
    powerOfTwo_le_of_le (by unfold significandShift; omega)
  rw [powerOfTwo_add (significandShift whole) 53, powerOfTwo_53] at room
  exact Nat.lt_of_lt_of_le below room

/-- The significand of the binary64 magnitude nearest to `num / den`, before it is shifted back. -/
def nearestSignificand (num den : Nat) : Nat :=
  roundHalfEven (num * unitsPerOne) (den * powerOfTwo (significandShift (num * unitsPerOne / den)))

theorem nearestSignificand_le (num den : Nat) : nearestSignificand num den ≤ significandLimit := by
  have step := roundHalfEven_le_succ (num * unitsPerOne)
    (den * powerOfTwo (significandShift (num * unitsPerOne / den)))
  have below := div_powerOfTwo_significandShift_lt (num * unitsPerOne / den)
  rw [← Nat.div_div_eq_div_mul] at step
  unfold nearestSignificand
  omega

/-- The magnitude nearest to `num / den`, in units, as if there were no largest value. -/
def nearestUnits (num den : Nat) : Nat :=
  nearestSignificand num den * powerOfTwo (significandShift (num * unitsPerOne / den))

/-- The binary64 value nearest to `num / den` with the given sign; an infinity on overflow. -/
def Extended.nearest (negative : Bool) (num den : Nat) : Extended :=
  if small : nearestUnits num den < unitLimit then
    .finite ⟨negative, nearestUnits num den, small, _, _, nearestSignificand_le num den, rfl⟩
  else
    .infinity negative

/-- The value nearest to an integer. -/
def Extended.ofInt (n : Int) : Extended :=
  Extended.nearest (n < 0) n.natAbs 1

end PathQuery
