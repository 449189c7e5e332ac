/-
# What slices select

The bounds of a slice are normalised by the direction of its stride.  A negative bound is counted
from the end of the array; then both bounds are moved between the ends of the array, its last
position and the place before the first one if the slice goes backwards.  The slice takes the
elements at the start, one stride further, and so on, as long as they come before the stop.

`Slice.first` and `Slice.last` move the bounds less far than that.  Where they differ from the
normalised ones there is nothing to take, so the indexes are the same (`Slice.lt_count_iff`), and
all of them are positions of the array.  They can be found with signed 64-bit words: if the written
bounds are such words, no operation overflows (`Slice.wordFirst?_eq_some`,
`Slice.wordLast?_eq_some`).
-/
import PathQuery.Proofs.Evaluation.Steps
import PathQuery.Proofs.Path.Shape

namespace PathQuery

namespace Slice

/-! ## Normalised bounds -/

/-- The index comes before the stop, in the direction of the stride. -/
def Precedes (slice : Slice) (i stop : Int) : Prop :=
  if 0 < slice.stride then i < stop else stop < i

/-- A written bound, counted from the end of the array if it is negative, and then moved between
the ends of the array. -/
def normalBound (slice : Slice) (length : Nat) (bound : Int) : Int :=
  if 0 < slice.stride then max 0 (min (fromEnd length bound) length)
  else max (-1) (min (fromEnd length bound) (length - 1))

/-- The normalised start: without a written one, the first position in the direction of the
stride. -/
def normalStart (slice : Slice) (length : Nat) : Int :=
  match slice.start with
  | some start => slice.normalBound length start
  | none => if 0 < slice.stride then 0 else length - 1

/-- The normalised stop: without a written one, the place behind the last position in the direction
of the stride. -/
def normalStop (slice : Slice) (length : Nat) : Int :=
  match slice.stop with
  | some stop => slice.normalBound length stop
  | none => if 0 < slice.stride then length else -1

/-- Where the slice arrives after so many strides. -/
def position (slice : Slice) (length k : Nat) : Int :=
  slice.normalStart length + k * slice.stride

variable {slice : Slice} (length : Nat)

lemma normalStart_of_pos (h : 0 < slice.stride) :
    slice.normalStart length = slice.first length := by
  simp only [normalStart, normalBound, first, if_pos h]
  cases slice.start with
  | none =>
    simp only [Option.map_none, Option.getD_none]
    omega
  | some start => rfl

lemma normalStart_of_neg (h : slice.stride < 0) :
    slice.normalStart length = max (-1) (slice.first length) := by
  have hneg : ¬0 < slice.stride := by omega
  simp only [normalStart, normalBound, first, if_neg hneg]
  cases slice.start with
  | none =>
    simp only [Option.map_none, Option.getD_none]
    omega
  | some start => rfl

lemma normalStop_of_pos (h : 0 < slice.stride) :
    slice.normalStop length = max 0 (slice.last length) := by
  simp only [normalStop, normalBound, last, if_pos h]
  cases slice.stop <;> simp only <;> omega

lemma normalStop_of_neg (h : slice.stride < 0) :
    slice.normalStop length = min (slice.last length) (max (-1) (length - 1)) := by
  have hneg : ¬0 < slice.stride := by omega
  simp only [normalStop, normalBound, last, if_neg hneg]
  cases slice.stop <;> simp only <;> omega

/-! ## Indexes -/

lemma first_nonneg (h : 0 < slice.stride) : 0 ≤ slice.first length := by
  rw [first, if_pos h]
  exact Int.le_max_left _ _

lemma first_lt_length (h : slice.stride < 0) : slice.first length < length := by
  have hbelow : slice.first length ≤ length - 1 := by
    rw [first, if_neg (by omega)]
    exact Int.min_le_right _ _
  omega

lemma last_bounds (slice : Slice) : -1 ≤ slice.last length ∧ slice.last length ≤ length := by
  constructor
  · exact Int.le_max_left _ _
  · exact Int.max_le.2 ⟨by omega, Int.min_le_right _ _⟩

/-- A quotient that is rounded up bounds the multiples below a distance. -/
lemma lt_ceil_iff {stride : Nat} (h : 0 < stride) (distance : Int) (k : Nat) :
    k < ((distance + stride - 1) / stride).toNat ↔ k * (stride : Int) < distance := by
  have hpos : (0 : Int) < stride := Int.natCast_pos.2 h
  have hquotient : (k : Int) + 1 ≤ (distance + stride - 1) / stride
      ↔ (k + 1) * (stride : Int) ≤ distance + stride - 1 := Int.le_ediv_iff_mul_le hpos
  have hmul : ((k : Int) + 1) * stride = k * stride + stride := by rw [Int.add_mul, Int.one_mul]
  rw [hmul] at hquotient
  omega

/-- A slice has as many indexes as there are strides that end before its stop. -/
lemma lt_count_iff (h : slice.stride ≠ 0) (k : Nat) :
    k < slice.count length ↔
      slice.Precedes (slice.position length k) (slice.normalStop length) := by
  have hceil := lt_ceil_iff (Int.natAbs_pos.2 h)
  have hlast := slice.last_bounds length
  rcases Int.lt_or_gt_of_ne h with hneg | hpos
  · have hforward : ¬0 < slice.stride := by omega
    have habs : (k : Int) * (slice.stride.natAbs : Int) = -(k * slice.stride) := by
      rw [Int.ofNat_natAbs_of_nonpos (Int.le_of_lt hneg), Int.mul_neg]
    have hback : (k : Int) * slice.stride ≤ 0 :=
      Int.mul_nonpos_of_nonneg_of_nonpos (Int.natCast_nonneg k) (Int.le_of_lt hneg)
    have hfirst := first_lt_length length hneg
    simp only [count, if_neg hforward, hceil, Precedes, position, habs,
      normalStart_of_neg length hneg, normalStop_of_neg length hneg]
    omega
  · have habs : (k : Int) * (slice.stride.natAbs : Int) = k * slice.stride := by
      rw [Int.natAbs_of_nonneg (Int.le_of_lt hpos)]
    have hforth : 0 ≤ (k : Int) * slice.stride :=
      Int.mul_nonneg (Int.natCast_nonneg k) (Int.le_of_lt hpos)
    have hfirst := first_nonneg length hpos
    simp only [count, if_pos hpos, hceil, Precedes, position, habs, normalStart_of_pos length hpos,
      normalStop_of_pos length hpos]
    omega

/-- Every index of a slice is a position of the array. -/
lemma position_bounds (h : slice.stride ≠ 0) {k : Nat} (hk : k < slice.count length) :
    0 ≤ slice.position length k ∧ slice.position length k < length := by
  have hbefore := (slice.lt_count_iff length h k).1 hk
  have hlast := slice.last_bounds length
  rcases Int.lt_or_gt_of_ne h with hneg | hpos
  · have hforward : ¬0 < slice.stride := by omega
    have hback : (k : Int) * slice.stride ≤ 0 :=
      Int.mul_nonpos_of_nonneg_of_nonpos (Int.natCast_nonneg k) (Int.le_of_lt hneg)
    have hfirst := first_lt_length length hneg
    simp only [Precedes, if_neg hforward, position, normalStart_of_neg length hneg,
      normalStop_of_neg length hneg] at hbefore ⊢
    omega
  · have hforth : 0 ≤ (k : Int) * slice.stride :=
      Int.mul_nonneg (Int.natCast_nonneg k) (Int.le_of_lt hpos)
    have hfirst := first_nonneg length hpos
    simp only [Precedes, if_pos hpos, position, normalStart_of_pos length hpos,
      normalStop_of_pos length hpos] at hbefore ⊢
    omega

/-- The indexes are the positions that come before the stop. -/
lemma indexes_eq_map_position (h : slice.stride ≠ 0) :
    slice.indexes length = (List.range (slice.count length)).map (slice.position length) := by
  refine List.map_congr_left fun k hk => ?_
  have hk : k < slice.count length := List.mem_range.1 hk
  -- the first index is not moved, for the slice is not empty
  have hstart : slice.normalStart length = slice.first length := by
    rcases Int.lt_or_gt_of_ne h with hneg | hpos
    · have hzero := (position_bounds length h (Nat.zero_lt_of_lt hk)).1
      rw [position, Int.natCast_zero, Int.zero_mul, Int.add_zero] at hzero
      have hmax := normalStart_of_neg length hneg
      omega
    · exact normalStart_of_pos length hpos
  rw [position, hstart]

/-- The elements at positions of the array: none of the indexes is left out. -/
lemma map_some_filterMap_getElem? {elements : List Json} {is : List Int}
    (h : ∀ i ∈ is, 0 ≤ i ∧ i < elements.length) :
    (is.filterMap fun i => if 0 ≤ i then elements[i.toNat]? else none).map some
      = is.map fun i => elements[i.toNat]? := by
  induction is with
  | nil => rfl
  | cons i rest ih =>
    obtain ⟨⟨hlow, hhigh⟩, hrest⟩ := List.forall_mem_cons.1 h
    have hlt : i.toNat < elements.length := by omega
    have hcell : elements[i.toNat]? = some elements[i.toNat] := List.getElem?_eq_getElem hlt
    simp only [List.filterMap_cons, if_pos hlow, hcell, List.map_cons, ih hrest]

lemma bounds_of_mem_indexes (h : slice.stride ≠ 0) :
    ∀ i ∈ slice.indexes length, 0 ≤ i ∧ i < length := by
  intro i hi
  rw [indexes_eq_map_position length h] at hi
  obtain ⟨k, hk, rfl⟩ := List.mem_map.1 hi
  exact position_bounds length h (List.mem_range.1 hk)

lemma map_some_elements (h : slice.stride ≠ 0) (elements : List Json) :
    (slice.elements elements).map some
      = (slice.indexes elements.length).map fun i => elements[i.toNat]? := by
  rw [Slice.elements, List.size_toArray]
  simp only [List.getElem?_toArray]
  exact map_some_filterMap_getElem? (bounds_of_mem_indexes elements.length h)

lemma length_elements (h : slice.stride ≠ 0) (elements : List Json) :
    (slice.elements elements).length = slice.count elements.length := by
  have hlength := congrArg List.length (map_some_elements h elements)
  rwa [List.length_map, List.length_map, indexes, List.length_map, List.length_range] at hlength

/-! ## Bounds in signed words -/

/-- The integer, if it fits a signed 64-bit word. -/
def word? (i : Int) : Option Int := if IsSignedWord i then some i else none

/-- A written bound, counted from the end in words; absent if that overflows. -/
def fromEndWord? (length bound : Int) : Option Int :=
  if bound < 0 then word? (bound + length) else some bound

/-- The first index, computed in words; absent if an operation overflows. -/
def wordFirst? (slice : Slice) (length : Int) : Option Int :=
  if 0 < slice.stride then
    (slice.start.elim (some 0) (fromEndWord? length)).map fun start => max 0 (min start length)
  else
    (word? (length - 1)).bind fun final =>
      (slice.start.elim (some final) (fromEndWord? length)).map fun start => min start final

/-- The stop, computed in words; absent if an operation overflows. -/
def wordLast? (slice : Slice) (length : Int) : Option Int :=
  (slice.stop.elim (some (if 0 < slice.stride then length else -1)) (fromEndWord? length)).map
    fun stop => max (-1) (min stop length)

variable {length}

lemma word?_eq_some {i : Int} (h : IsSignedWord i) : word? i = some i := if_pos h

lemma isSignedWord_pred (hlength : IsSignedWord length) : IsSignedWord (length - 1) := by
  unfold IsSignedWord signedReach at *
  omega

lemma fromEndWord?_eq_some {bound : Int} (hlength : IsSignedWord length)
    (hbound : IsSignedWord bound) : fromEndWord? length bound = some (fromEnd length bound) := by
  unfold fromEndWord? fromEnd
  by_cases hneg : bound < 0
  · have hsum : IsSignedWord (bound + length) := by
      unfold IsSignedWord signedReach at *
      omega
    rw [if_pos hneg, if_pos hneg, word?_eq_some hsum]
  · rw [if_neg hneg, if_neg hneg]

/-- No operation that leads to the first index overflows. -/
lemma wordFirst?_eq_some (hlength : IsSignedWord length)
    (hstart : ∀ n ∈ slice.start, IsSignedWord n) :
    slice.wordFirst? length = some (slice.first length) := by
  have hpred := word?_eq_some (isSignedWord_pred hlength)
  unfold wordFirst? first
  by_cases hpos : 0 < slice.stride
  · rw [if_pos hpos, if_pos hpos]
    cases h : slice.start with
    | none => rfl
    | some start =>
      have hbound := fromEndWord?_eq_some hlength (hstart start h)
      rw [Option.elim_some, hbound]
      rfl
  · rw [if_neg hpos, if_neg hpos, hpred, Option.bind_some]
    cases h : slice.start with
    | none => rfl
    | some start =>
      have hbound := fromEndWord?_eq_some hlength (hstart start h)
      rw [Option.elim_some, hbound]
      rfl

/-- No operation that leads to the stop overflows. -/
lemma wordLast?_eq_some (hlength : IsSignedWord length)
    (hstop : ∀ n ∈ slice.stop, IsSignedWord n) :
    slice.wordLast? length = some (slice.last length) := by
  unfold wordLast? last
  cases h : slice.stop with
  | none => rfl
  | some stop =>
    have hbound := fromEndWord?_eq_some hlength (hstop stop h)
    rw [Option.elim_some, hbound]
    rfl

/-- The place behind the stop of a slice that goes backwards is a word, unless it is not reached. -/
lemma isSignedWord_last_succ (hlength : IsSignedWord length) (hneg : slice.stride < 0)
    (hlt : slice.last length < slice.first length) : IsSignedWord (slice.last length + 1) := by
  have hfirst := first_lt_length length hneg
  have hlast := slice.last_bounds length
  unfold IsSignedWord signedReach at *
  omega

end Slice

/-! ## Slice steps -/

lemma Path.evaluateFrom_slice {start stop stride : Option Int} (hstride : stride ≠ some 0)
    (strict : Bool) (root node : Json) :
    Path.evaluateFrom [.slice start stop stride] strict root node
      = node.selectSlice strict ⟨start, stop, stride.getD 1⟩ := by
  have hlocal : (Step.slice start stop stride).IsLocal := hstride
  calc Path.evaluateFrom [.slice start stop stride] strict root node
      = (Step.slice start stop stride).select root strict node := Step.apply_single hlocal _ _ _
    _ = node.selectSlice strict ⟨start, stop, stride.getD 1⟩ := if_neg hstride

lemma Json.items_selectSlice {slice : Slice} (h : slice.stride ≠ 0) (strict : Bool)
    (elements : List Json) :
    ((Json.array elements).selectSlice strict slice).items
      = if strict ∧ (slice.elements elements).length = 0 then
          [.error (.emptySlice slice.start slice.stop)]
        else (slice.elements elements).map .ok := by
  rw [Json.selectSlice, Slice.length_elements h]
  by_cases hcount : slice.count elements.length = 0
  · have hnil : slice.elements elements = [] := by
      rw [← List.length_eq_zero_iff, Slice.length_elements h, hcount]
    rw [if_pos hcount, hnil]
    cases strict with
    | true => simp [Run.unresolved, Run.items, Run.fail, hcount]
    | false => simp [Run.unresolved, Run.items, Run.none]
  · rw [if_neg hcount, if_neg (fun hboth => hcount hboth.2)]
    simp [Run.items, Run.ofList]

/-- **Slices take the elements between their normalised bounds.**  A slice step with a stride other
than zero, which is one if it is not written, gives the elements of an array at the normalised start
and at every stride behind it that comes before the normalised stop; all these indexes are positions
of the array.  In strict mode it fails exactly if there are none.  If the array and the written
bounds fit signed words, no operation on the way to the indexes overflows. -/
theorem Path.items_slice {start stop stride : Option Int} (hstride : stride ≠ some 0)
    (elements : List Json) :
    let slice : Slice := ⟨start, stop, stride.getD 1⟩
    let length := elements.length
    ∃ chosen : List Json,
      (∀ k : Nat, k < chosen.length ↔
        slice.Precedes (slice.normalStart length + k * slice.stride) (slice.normalStop length)) ∧
      (slice.indexes length = (List.range chosen.length).map
          fun (k : Nat) => slice.normalStart length + k * slice.stride) ∧
      (∀ i ∈ slice.indexes length, 0 ≤ i ∧ i < length) ∧
      chosen.map some = (slice.indexes length).map (fun i => elements[i.toNat]?) ∧
      (∀ strict root,
        (Path.evaluateFrom [.slice start stop stride] strict root (.array elements)).items
          = if strict ∧ chosen.length = 0 then [.error (.emptySlice start stop)]
            else chosen.map .ok) ∧
      (IsSignedWord length → (∀ n ∈ start, IsSignedWord n) →
        (∀ n ∈ stop, IsSignedWord n) → (∀ n ∈ stride, IsSignedWord n) →
        slice.wordFirst? length = some (slice.first length) ∧
          slice.wordLast? length = some (slice.last length) ∧
          (slice.stride < 0 → slice.last length < slice.first length →
            IsSignedWord (slice.last length + 1)) ∧
          (slice.stride.natAbs : Int) < 2 * signedReach) := by
  intro slice length
  have hnonzero : slice.stride ≠ 0 := by
    cases stride with
    | none => exact Int.one_ne_zero
    | some n => exact fun hzero => hstride (congrArg some hzero)
  have hlength : (slice.elements elements).length = slice.count length :=
    Slice.length_elements hnonzero elements
  have hindexes := slice.indexes_eq_map_position length hnonzero
  refine ⟨slice.elements elements, ?_, ?_, ?_, ?_, ?_, ?_⟩
  · intro k
    rw [hlength]
    exact slice.lt_count_iff length hnonzero k
  · rw [hlength]
    exact hindexes
  · exact Slice.bounds_of_mem_indexes length hnonzero
  · exact Slice.map_some_elements hnonzero elements
  · intro strict root
    rw [Path.evaluateFrom_slice hstride, Json.items_selectSlice hnonzero]
  · intro hword hstart hstop hstep
    refine ⟨Slice.wordFirst?_eq_some hword hstart, Slice.wordLast?_eq_some hword hstop, ?_, ?_⟩
    · exact fun hneg hlt => Slice.isSignedWord_last_succ hword hneg hlt
    · have hstep : IsSignedWord slice.stride := by
        cases stride with
        | none =>
          have hone : IsSignedWord 1 := by decide
          exact hone
        | some n => exact hstep n rfl
      unfold IsSignedWord signedReach at *
      omega

/-- A slice that goes backwards by every second element, from beyond the end of an array and with
the least word as its stop. -/
theorem Path.items_slice_backwards :
    let slice : Slice := ⟨some 9, some (-signedReach), -2⟩
    let elements : List Json := [.null, .bool true, .bool false]
    some (-2) ≠ some (0 : Int) ∧ slice.indexes 3 = [2, 0] ∧
      (IsSignedWord 3 ∧ IsSignedWord 9 ∧ IsSignedWord (-signedReach) ∧ IsSignedWord (-2)) ∧
      slice.wordFirst? 3 = some 2 ∧ slice.wordLast? 3 = some (-1) ∧
      ∃ chosen : List Json, chosen.map some = [some (.bool false), some .null] ∧
        ∀ strict root,
          (Path.evaluateFrom [.slice (some 9) (some (-signedReach)) (some (-2))] strict root
            (.array elements)).items = chosen.map .ok := by
  intro slice elements
  have hstride : some (-2) ≠ some (0 : Int) := by decide
  have hindexes : slice.indexes 3 = [2, 0] := by decide
  obtain ⟨hlength, hstart, hstop, hstep⟩ : IsSignedWord 3 ∧ IsSignedWord 9 ∧
      IsSignedWord (-signedReach) ∧ IsSignedWord (-2) := by decide
  obtain ⟨chosen, -, -, -, hchosen, hitems, hfits⟩ :=
    @Path.items_slice (some 9) (some (-signedReach)) (some (-2)) hstride elements
  obtain ⟨hfirst, hlast, -, -⟩ := hfits hlength (by simpa using hstart) (by simpa using hstop)
    (by simpa using hstep)
  have hsame : chosen.map some = [some (.bool false), some .null] := by
    rw [hchosen]
    exact congrArg (List.map fun i => elements[i.toNat]?) hindexes
  refine ⟨hstride, hindexes, ⟨hlength, hstart, hstop, hstep⟩, hfirst, hlast, chosen, hsame, ?_⟩
  intro strict root
  have hcount := congrArg List.length hsame
  rw [List.length_map] at hcount
  rw [hitems, hcount]
  simp

end PathQuery
