/-
# Numbers of a document

A number is an integer that fits a 64-bit word, signed or unsigned, or a finite binary64 value.
Two views of a number matter: `Number.same` keeps integers and binary64 values apart, and
`Number.extended` forgets the difference by rounding.
-/
import PathQuery.Number.Notation

namespace PathQuery

/-- How many values a signed 64-bit word has on either side of zero, `2 ^ 63`. -/
def signedReach : Int := 0x8000000000000000

/-- An integer that fits a signed or an unsigned 64-bit word. -/
structure WordInt where
  value : Int
  fits : -signedReach ≤ value ∧ value < 2 * signedReach

/-- The integer, when it fits a signed or an unsigned 64-bit word. -/
def WordInt.ofInt? (n : Int) : Option WordInt :=
  if fits : -signedReach ≤ n ∧ n < 2 * signedReach then some ⟨n, fits⟩ else none

/-- A number of a document. -/
inductive Number where
  | integer (n : WordInt)
  | float (x : Binary64)

namespace Number

/-- Identity of numbers: an integer and a float always differ, the two zeros of a float agree. -/
def same : Number → Number → Bool
  | integer m, integer n => m.value == n.value
  | float x, float y => x.value == y.value
  | _, _ => false

/-- The nearest binary64 value. -/
def extended : Number → Extended
  | integer n => .ofInt n.value
  | float x => .finite x

/-- The text of a number. -/
def text : Number → List Char
  | integer n => integerText n.value
  | float x => x.text

end Number

end PathQuery
