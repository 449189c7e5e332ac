/-
# How a binary64 value is written

The digits are the shortest ones.  With `e` the exponent of the leading digit, a value is written
positionally for `-5 ≤ e ≤ 15`, always with a point, and with a signed exponent otherwise.
-/
import PathQuery.Number.Decimal

namespace PathQuery

/-- The decimal digits of a natural number. -/
def decimalText (n : Nat) : List Char := Nat.toDigits 10 n

/-- The decimal digits of an integer, with a sign when it is negative. -/
def integerText (n : Int) : List Char :=
  if n < 0 then '-' :: decimalText n.natAbs else decimalText n.natAbs

/-- Drops the zeros at the end of a run of digits. -/
def dropFinalZeros (digits : List Char) : List Char :=
  (digits.reverse.dropWhile (· == '0')).reverse

/-- Lays out significant digits whose first one stands at the given power of ten. -/
def layOut (digits : List Char) (leading : Int) : List Char :=
  if leading < -5 ∨ 15 < leading then
    let fraction := digits.drop 1
    let sign := if leading < 0 then '-' else '+'
    digits.take 1 ++ (if fraction.isEmpty then [] else '.' :: fraction)
      ++ 'e' :: sign :: decimalText leading.natAbs
  else if leading < 0 then
    '0' :: '.' :: List.replicate (leading.natAbs - 1) '0' ++ digits
  else
    let whole := leading.toNat + 1
    let fraction := digits.drop whole
    digits.take whole ++ List.replicate (whole - digits.length) '0'
      ++ '.' :: (if fraction.isEmpty then ['0'] else fraction)

/-- The text of a finite value: `1.0`, `-0.0`, `0.00001`, `1e+16`, `1.25e-10`. -/
def Binary64.text (x : Binary64) : List Char :=
  let magnitude :=
    if x.units = 0 then ['0', '.', '0']
    else
      let shortest := Decimal.shortest x.units
      let digits := decimalText shortest.digits
      layOut (dropFinalZeros digits) (shortest.exponent + digits.length - 1)
  if x.negative then '-' :: magnitude else magnitude

end PathQuery
