/-
# Sets of characters

A set of characters is kept as closed ranges of code points, ascending and apart, so that
membership is a binary search and the Boolean operations are single passes over the ranges.
Tables are written as run lengths: how many code points are outside, how many inside, and so on.
-/

namespace PathQuery

/-- A set of code points as closed ranges, ascending and apart. -/
structure CharSet where
  ranges : Array (Nat × Nat)
deriving DecidableEq

namespace CharSet

/-- The last code point. -/
def lastCode : Nat := 0x10FFFF

/-! ## Membership -/

/-- Is the code point in one of the ranges with an index from `low` up to but not `high`? -/
def search (ranges : Array (Nat × Nat)) (code low high : Nat) : Bool :=
  if low < high then
    let middle := (low + high) / 2
    match ranges[middle]? with
    | none => false
    | some (first, last) =>
      if code < first then search ranges code low middle
      else if last < code then search ranges code (middle + 1) high
      else true
  else false
termination_by high - low

/-- Is the character in the set? -/
def contains (set : CharSet) (c : Char) : Bool :=
  search set.ranges c.toNat 0 set.ranges.size

/-- Does the set hold no code point at all? -/
def isEmpty (set : CharSet) : Bool := set.ranges.isEmpty

/-! ## Building sets -/

/-- Joins ranges that overlap or touch; the ranges come in ascending order of their first code
point, after `current`. -/
def join (current : Nat × Nat) : List (Nat × Nat) → List (Nat × Nat)
  | [] => [current]
  | range :: rest =>
    if range.1 ≤ current.2 + 1 then join (current.1, max current.2 range.2) rest
    else current :: join range rest

/-- The set of the code points in the given ranges, which may overlap and come in any order. -/
def ofRanges (ranges : List (Nat × Nat)) : CharSet :=
  match ranges.mergeSort (fun a b => a.1 ≤ b.1) with
  | [] => ⟨#[]⟩
  | range :: rest => ⟨(join range rest).toArray⟩

/-- The set of the code points from `first` to `last`. -/
def range (first last : Char) : CharSet := ⟨#[(first.toNat, last.toNat)]⟩

/-- The set of one character. -/
def singleton (c : Char) : CharSet := range c c

/-- The set without any character. -/
def empty : CharSet := ⟨#[]⟩

/-- The set of all code points. -/
def all : CharSet := ⟨#[(0, lastCode)]⟩

/-- The set of the listed characters. -/
def ofChars (chars : List Char) : CharSet := ofRanges (chars.map fun c => (c.toNat, c.toNat))

/-! ## Boolean operations

The code points around the surrogates, which are no characters, are neighbours: what follows
U+D7FF is U+E000. -/

/-- The code point after one. -/
def successor (code : Nat) : Nat := if code = 0xD7FF then 0xE000 else code + 1

/-- The code point before one. -/
def predecessor (code : Nat) : Nat := if code = 0xE000 then 0xD7FF else code - 1

/-- What is left between ascending ranges, after the code point `before`, and after them.  Two
ranges that meet at the surrogates have them between them. -/
def gaps (before : Nat) : List (Nat × Nat) → List (Nat × Nat)
  | [] => if before < lastCode then [(successor before, lastCode)] else []
  | (first, last) :: rest =>
    let low := successor before
    let high := predecessor first
    (min low high, max low high) :: gaps last rest

/-- The code points outside the set. -/
def complement (set : CharSet) : CharSet :=
  match set.ranges.toList with
  | [] => all
  | (first, last) :: rest =>
    ⟨((if 0 < first then [(0, predecessor first)] else []) ++ gaps last rest).toArray⟩

/-- The code points in either set. -/
def union (a b : CharSet) : CharSet := ofRanges (a.ranges.toList ++ b.ranges.toList)

/-- The code points in any of the sets. -/
def unions (sets : List CharSet) : CharSet := ofRanges (sets.flatMap (·.ranges.toList))

/-- The parts of ascending ranges that are in other ascending ranges. -/
def common : List (Nat × Nat) → List (Nat × Nat) → List (Nat × Nat)
  | [], _ => []
  | _, [] => []
  | a :: as, b :: bs =>
    let low := max a.1 b.1
    let high := min a.2 b.2
    (if low ≤ high then [(low, high)] else []) ++
      if a.2 < b.2 then common as (b :: bs) else common (a :: as) bs
termination_by as bs => as.length + bs.length

/-- The code points in both sets. -/
def inter (a b : CharSet) : CharSet := ⟨(common a.ranges.toList b.ranges.toList).toArray⟩

/-- The parts of ascending ranges that are in none of other ascending ranges. -/
def without : List (Nat × Nat) → List (Nat × Nat) → List (Nat × Nat)
  | [], _ => []
  | as, [] => as
  | a :: as, b :: bs =>
    if b.2 < a.1 then without (a :: as) bs
    else if a.2 < b.1 then a :: without as (b :: bs)
    else
      (if a.1 < b.1 then [(a.1, predecessor b.1)] else []) ++
        if b.2 < a.2 then without ((successor b.2, a.2) :: as) bs else without as (b :: bs)
termination_by as bs => as.length + bs.length

/-- The code points in the first set and not in the second. -/
def diff (a b : CharSet) : CharSet := ⟨(without a.ranges.toList b.ranges.toList).toArray⟩

/-- The code points in exactly one of the sets. -/
def symmDiff (a b : CharSet) : CharSet := (a.union b).diff (a.inter b)

/-- Are all members ASCII characters? -/
def isAscii (set : CharSet) : Bool := set.ranges.all fun range => range.2 < 128

/-! ## Tables -/

/-- The natural numbers in a text, in order; anything but a digit separates them. -/
def numbersIn (text : String) : List Nat :=
  let step (found : List Nat × Option Nat) (c : Char) : List Nat × Option Nat :=
    if c.isDigit then (found.1, some (found.2.getD 0 * 10 + (c.toNat - 48)))
    else (found.2.toList ++ found.1, none)
  let found := text.foldl step ([], none)
  (found.2.toList ++ found.1).reverse

/-- The ranges that alternating run lengths describe: so many code points outside, then so many
inside, from the code point `start` on. -/
def rangesOfRuns (start : Nat) : List Nat → List (Nat × Nat)
  | outside :: inside :: rest =>
    (start + outside, start + outside + inside - 1) :: rangesOfRuns (start + outside + inside) rest
  | _ => []

/-- The set that a text of run lengths describes. -/
def ofRuns (runs : String) : CharSet := ⟨(rangesOfRuns 0 (numbersIn runs)).toArray⟩

end CharSet

end PathQuery
