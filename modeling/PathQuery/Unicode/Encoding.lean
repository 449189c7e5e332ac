/-
# The encoding of sets of characters

UTF-8 writes a code point as a first byte, which tells how many bytes follow, and up to three more
bytes.  The encodings of a set of characters are listed as sequences of byte ranges in ascending
order: a sequence stands for all encodings whose bytes lie, one by one, in its ranges.
-/
import PathQuery.Number.Power
import PathQuery.Unicode.CharSet

namespace PathQuery.Unicode

/-- The bytes from `first` to `last`. -/
structure ByteRange where
  first : Nat
  last : Nat
deriving DecidableEq, Repr

/-! ## Encodings of one length -/

/-- The code points from `first` to `last`, whose encodings have `tail` bytes after the first one,
which is at least `lead`. -/
structure EncodedSpan where
  first : Nat
  last : Nat
  tail : Nat
  lead : Nat

/-- The spans of code points by the lengths of their encodings.  Surrogates have no encoding. -/
def encodedSpans : List EncodedSpan :=
  [⟨0, 0x7F, 0, 0⟩, ⟨0x80, 0x7FF, 1, 0xC0⟩, ⟨0x800, 0xD7FF, 2, 0xE0⟩, ⟨0xE000, 0xFFFF, 2, 0xE0⟩,
    ⟨0x10000, 0x10FFFF, 3, 0xF0⟩]

/-- The last bytes of an encoding, so many of them, each with six bits of the code point. -/
def continuationBytes : Nat → Nat → List Nat
  | 0, _ => []
  | tail + 1, code => (0x80 + code / powerOfTwo (6 * tail) % 64) :: continuationBytes tail code

/-- The encoding of a code point of the span. -/
def EncodedSpan.encode (span : EncodedSpan) (code : Nat) : List Nat :=
  (span.lead + code / powerOfTwo (6 * span.tail)) :: continuationBytes span.tail code

/-- The encoding of a character. -/
def encode (c : Char) : List Nat :=
  match encodedSpans.find? fun span => c.toNat ≤ span.last with
  | some span => span.encode c.toNat
  | none => []

/-! ## Sequences of byte ranges -/

/-- The ranges of code points from `first` to `last`, cut so that, byte by byte, either the bytes
before it are fixed or all bytes after it are free, for encodings with `tail` bytes after the first
one. -/
def encodedRanges : Nat → Nat → Nat → List (Nat × Nat)
  | 0, first, last => [(first, last)]
  | tail + 1, first, last =>
    let block := powerOfTwo (6 * (tail + 1))
    if first / block = last / block then encodedRanges tail first last
    else
      let head := if first % block = 0 then []
        else encodedRanges tail first ((first / block + 1) * block - 1)
      let foot := if (last + 1) % block = 0 then []
        else encodedRanges tail (last / block * block) last
      let low := (first + block - 1) / block * block
      let high := (last + 1) / block * block
      head ++ (if low < high then [(low, high - 1)] else []) ++ foot

/-- The part of a list of ranges between two code points. -/
def clip (first last : Nat) (ranges : List (Nat × Nat)) : List (Nat × Nat) :=
  ranges.filterMap fun range =>
    let low := max range.1 first
    let high := min range.2 last
    if low ≤ high then some (low, high) else none

/-- The encodings of those code points of some ranges that belong to the span. -/
def EncodedSpan.sequences (span : EncodedSpan) (ranges : List (Nat × Nat)) :
    List (List ByteRange) :=
  (clip span.first span.last ranges).flatMap fun range =>
    (encodedRanges span.tail range.1 range.2).map fun (first, last) =>
      (span.encode first).zipWith ByteRange.mk (span.encode last)

/-- The encodings of the characters in a set. -/
def byteSequences (set : CharSet) : List (List ByteRange) :=
  let ranges := set.ranges.toList
  encodedSpans.flatMap fun span => span.sequences ranges

end PathQuery.Unicode
