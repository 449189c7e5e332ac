/-
# Slices

A slice takes elements of an array at equal distances, from a start up to a stop that it does not
reach.  A negative bound counts from the end of the array, and a negative stride goes backwards.
-/
import PathQuery.Json.Basic

namespace PathQuery

/-- A slice with its written bounds. -/
structure Slice where
  start : Option Int
  stop : Option Int
  stride : Int

namespace Slice

/-- A written bound, counted from the end of an array if it is negative. -/
def fromEnd (length : Nat) (bound : Int) : Int :=
  if bound < 0 then bound + length else bound

/-- The first index of the slice of an array, if it is within the slice at all. -/
def first (slice : Slice) (length : Nat) : Int :=
  if 0 < slice.stride then max 0 (min ((slice.start.map (fromEnd length)).getD 0) length)
  else min ((slice.start.map (fromEnd length)).getD (length - 1)) (length - 1)

/-- The index before which the slice of an array ends, in the direction of its stride. -/
def last (slice : Slice) (length : Nat) : Int :=
  let stop := match slice.stop with
    | some stop => fromEnd length stop
    | none => if 0 < slice.stride then length else -1
  max (-1) (min stop length)

/-- How many indexes lie in the slice of an array. -/
def count (slice : Slice) (length : Nat) : Nat :=
  let distance := if 0 < slice.stride then slice.last length - slice.first length
    else slice.first length - slice.last length
  ((distance + slice.stride.natAbs - 1) / slice.stride.natAbs).toNat

/-- The indexes in the slice of an array. -/
def indexes (slice : Slice) (length : Nat) : List Int :=
  (List.range (slice.count length)).map fun (i : Nat) => slice.first length + i * slice.stride

/-- The elements in the slice of an array. -/
def elements (slice : Slice) (array : List Json) : List Json :=
  let cells := array.toArray
  (slice.indexes cells.size).filterMap fun i => if 0 ≤ i then cells[i.toNat]? else none

end Slice

end PathQuery
