/-
# Decimal numerals and the shortest decimal of a binary64 value

A `Decimal` is an unsigned decimal number: an integer times a power of ten.  Reading one rounds it
once, to the nearest binary64 value.  A faster way is to round the digits and to scale them by
powers of ten which are rounded too; that can end up next to the nearest value.  Writing goes the
other way: `Decimal.shortest` finds, with exact integer arithmetic, the decimal with the fewest
digits that reads back as the given magnitude and, among those, the one closest to it (a tie goes to
the even digit).
-/
import PathQuery.Number.Binary64

namespace PathQuery

/-- The unsigned decimal number `digits * 10 ^ exponent`. -/
structure Decimal where
  digits : Nat
  exponent : Int
deriving DecidableEq, Repr

/-- The number of decimal digits of `n`; one for zero. -/
def decimalLength (n : Nat) : Nat := (Nat.toDigits 10 n).length

/-! ## From decimal to binary64 -/

/-- The binary64 value nearest to a signed decimal.  A decimal of `10 ^ 310` or more overflows and
one below `10 ^ (-330)` rounds to zero, so powers of ten outside that range are never formed. -/
def Decimal.toExtended (negative : Bool) (d : Decimal) : Extended :=
  let magnitude := d.exponent + decimalLength d.digits
  if d.digits = 0 ∨ magnitude < -330 then .finite (.zero negative)
  else if magnitude > 310 then .infinity negative
  else .nearest negative (d.digits * powerOfTen d.exponent.toNat) (powerOfTen (-d.exponent).toNat)

/-! ## Scaling by rounded powers -/

namespace Binary64

/-- The exponent of the greatest power of ten that is finite as a binary64 value. -/
def greatestPower : Nat := 308

/-- The magnitude nearest to `10 ^ n`, in units. -/
def powerUnits (n : Nat) : Nat := nearestUnits (powerOfTen n) 1

/-- The product with the power of ten, rounded. -/
def timesPower (x : Binary64) (n : Nat) : Extended :=
  .nearest x.negative (x.units * powerUnits n) (unitsPerOne * unitsPerOne)

/-- The quotient by the power of ten, rounded. -/
def overPower (x : Binary64) (n : Nat) : Extended :=
  .nearest x.negative x.units (powerUnits n)

/-- The value, scaled by a power of ten, if it does not overflow.  An exponent that is too small for
a single quotient is reached by several ones, each of which is rounded. -/
def scale? (x : Binary64) (exponent : Int) : Option Binary64 :=
  if exponent.natAbs ≤ greatestPower then
    if 0 ≤ exponent then (x.timesPower exponent.natAbs).finite?
    else (x.overPower exponent.natAbs).finite?
  else if x.units = 0 then some x
  else if 0 ≤ exponent then none
  else do (← (x.overPower greatestPower).finite?).scale? (exponent + greatestPower)
termination_by exponent.natAbs
decreasing_by unfold greatestPower at *; omega

end Binary64

/-- The value of a signed decimal by scaling its digits, if it does not overflow. -/
def Decimal.scaled? (negative : Bool) (d : Decimal) : Option Binary64 := do
  (← (Extended.nearest negative d.digits 1).finite?).scale? d.exponent

/-! ## From binary64 to decimal -/

/-- The magnitudes that round to `units`, in quarters of a unit: the two ends, halfway to the
neighbours, and whether the ends belong to them (they do when the significand is even). -/
structure RoundingInterval where
  lower : Nat
  upper : Nat
  closed : Bool

/-- The interval of a magnitude.  Just above a power of two the neighbour below is half as far as
the one above. -/
def RoundingInterval.of (units : Nat) : RoundingInterval :=
  let gap := powerOfTwo (significandShift units)
  let significand := units / gap
  let narrow := 2 * significand = significandLimit ∧ gap ≠ 1
  { lower := 4 * units - (if narrow then gap else 2 * gap)
    upper := 4 * units + 2 * gap
    closed := significand % 2 = 0 }

/-- Does the decimal lie among the magnitudes that round to the interval's value? -/
def RoundingInterval.contains (interval : RoundingInterval) (d : Decimal) : Bool :=
  let scaled := d.digits * powerOfTen d.exponent.toNat * 4 * unitsPerOne
  let scale := powerOfTen (-d.exponent).toNat
  if interval.closed then
    interval.lower * scale ≤ scaled ∧ scaled ≤ interval.upper * scale
  else
    interval.lower * scale < scaled ∧ scaled < interval.upper * scale

/-- The decimal with the given exponent that is closest to `units` among those next to it that read
back, if one does. -/
def closestOnGrid? (units : Nat) (exponent : Int) : Option Decimal :=
  let num := units * powerOfTen (-exponent).toNat
  let den := unitsPerOne * powerOfTen exponent.toNat
  let interval := RoundingInterval.of units
  let below : Decimal := ⟨num / den, exponent⟩
  let above : Decimal := ⟨num / den + 1, exponent⟩
  match interval.contains below, interval.contains above with
  | true, true => some ⟨roundHalfEven num den, exponent⟩
  | true, false => some below
  | false, true => some above
  | false, false => none

/-- The decimal with the fewest digits that reads back as `units`; seventeen digits suffice, and
the exact value stands behind them. -/
def Decimal.shortest (units : Nat) : Decimal :=
  let top : Int := (decimalLength (units * powerOfTen 400 / unitsPerOne) : Int) - 400
  let found := (List.range 17).findSome? fun (n : Nat) => closestOnGrid? units (top - (n : Int) - 1)
  found.getD ⟨units * (powerOfTen pointPlace / powerOfTwo pointPlace), -pointPlace⟩

end PathQuery
