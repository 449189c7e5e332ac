/-
# What rounds to a magnitude

Around every magnitude there is an interval of numbers for which it is the nearest one.  Rounding
any of them gives the magnitude (`nearestUnits_of_covers`).  Above it the interval reaches half the
way to the next magnitude.  Below it does as well, unless the magnitude is a power of two.  Then
the magnitudes below are twice as dense, so the interval ends after a quarter, and what lies in that
quarter is rounded with a shift that is one less.
-/
import Mathlib.Tactic.Linarith
import Mathlib.Tactic.Ring
import PathQuery.Number.Decimal

namespace PathQuery

/-! ## Rounding to an integer -/

/-- What is half a step away from an integer at most is rounded to it, if the integer is even where
the distance is exactly half a step. -/
lemma roundHalfEven_eq {num den m : Nat} (hden : 0 < den) (hlower : 2 * m * den ≤ 2 * num + den)
    (hupper : 2 * num ≤ 2 * m * den + den)
    (htie : 2 * m * den = 2 * num + den ∨ 2 * num = 2 * m * den + den → m % 2 = 0) :
    roundHalfEven num den = m := by
  have hnum : num = den * (num / den) + num % den := (Nat.div_add_mod num den).symm
  have hrest : num % den < den := Nat.mod_lt num hden
  unfold roundHalfEven
  dsimp only
  generalize num / den = q at *
  generalize num % den = r at *
  subst hnum
  have hle : m ≤ q + 1 := by
    by_contra hlt
    have hmul : (q + 2) * den ≤ m * den := Nat.mul_le_mul_right den (by omega)
    linarith
  have hge : q ≤ m := by
    by_contra hlt
    have hmul : (m + 1) * den ≤ q * den := Nat.mul_le_mul_right den (by omega)
    linarith
  -- only the quotient and its successor are near enough
  obtain rfl | rfl : m = q ∨ m = q + 1 := by omega
  · split
    · rfl
    · next hcompare =>
      rw [Nat.compare_eq_gt] at hcompare
      linarith
    · next hcompare =>
      rw [Nat.compare_eq_eq] at hcompare
      exact if_pos (htie (Or.inr (by linarith)))
  · split
    · next hcompare =>
      rw [Nat.compare_eq_lt] at hcompare
      linarith
    · rfl
    · next hcompare =>
      rw [Nat.compare_eq_eq] at hcompare
      have heven := htie (Or.inl (by linarith))
      exact if_neg (by omega)

/-! ## Magnitudes -/

lemma powerOfTwo_succ (n : Nat) : powerOfTwo (n + 1) = 2 * powerOfTwo n := Nat.pow_succ'

/-- The shift is the one of a significand of 53 bits, or none. -/
lemma significandShift_eq {n shift : Nat} (hlower : shift ≠ 0 → powerOfTwo (52 + shift) ≤ n)
    (hupper : n < powerOfTwo (53 + shift)) : significandShift n = shift := by
  unfold significandShift
  by_cases hzero : n = 0
  · have hshift : shift = 0 := by
      by_contra hshift
      have := powerOfTwo_pos (52 + shift)
      have := hlower hshift
      omega
    rw [hzero, hshift]
    decide
  · have hlt : n.log2 < 53 + shift := (Nat.log2_lt hzero).2 hupper
    by_cases hshift : shift = 0
    · omega
    · have hge : 52 + shift ≤ n.log2 := (Nat.le_log2 hzero).2 (hlower hshift)
      omega

section Magnitude

variable {units : Nat}

/-- A magnitude is its significand, shifted. -/
lemma Representable.div_mul_powerOfTwo (h : Representable units) :
    units / powerOfTwo (significandShift units) * powerOfTwo (significandShift units) = units := by
  apply Nat.div_mul_cancel
  obtain ⟨-, m, k, hm, rfl⟩ := h
  by_cases hshift : significandShift (m * powerOfTwo k) ≤ k
  · exact (Nat.pow_dvd_pow 2 hshift).trans (Nat.dvd_mul_left _ _)
  -- the only significand that is longer than 53 bits is a power of two
  · have hne : m * powerOfTwo k ≠ 0 := by
      intro hzero
      rw [hzero] at hshift
      exact hshift (Nat.zero_le k)
    have hle : powerOfTwo (53 + k) ≤ m * powerOfTwo k := by
      have hlog : 53 + k ≤ (m * powerOfTwo k).log2 := by
        unfold significandShift at hshift
        omega
      exact (Nat.le_log2 hne).1 hlog
    have hge : m * powerOfTwo k ≤ powerOfTwo (53 + k) := by
      rw [powerOfTwo_add]
      exact Nat.mul_le_mul_right _ hm
    have heq : m * powerOfTwo k = powerOfTwo (53 + k) := Nat.le_antisymm hge hle
    have hlog : (powerOfTwo (53 + k)).log2 = 53 + k := Nat.log2_two_pow
    rw [heq]
    refine Nat.pow_dvd_pow 2 ?_
    rw [significandShift, hlog]
    omega

/-- The significand has 53 bits if it is shifted at all. -/
lemma le_significand (hpos : units ≠ 0) (hshift : significandShift units ≠ 0) :
    powerOfTwo 52 ≤ units / powerOfTwo (significandShift units) := by
  rw [Nat.le_div_iff_mul_le (powerOfTwo_pos _), ← powerOfTwo_add]
  refine (Nat.le_log2 hpos).1 ?_
  unfold significandShift at hshift ⊢
  omega

end Magnitude

/-! ## Intervals -/

namespace RoundingInterval

/-- The fraction, counted in units, lies in the interval. -/
def Covers (interval : RoundingInterval) (num den : Nat) : Prop :=
  if interval.closed then interval.lower * den ≤ 4 * num ∧ 4 * num ≤ interval.upper * den
  else interval.lower * den < 4 * num ∧ 4 * num < interval.upper * den

variable {units num den : Nat}

lemma Covers.bounds {interval : RoundingInterval} (h : interval.Covers num den) :
    interval.lower * den ≤ 4 * num ∧ 4 * num ≤ interval.upper * den := by
  unfold Covers at h
  split at h
  · exact h
  · exact ⟨h.1.le, h.2.le⟩

lemma Covers.closed {interval : RoundingInterval} (h : interval.Covers num den)
    (hend : interval.lower * den = 4 * num ∨ 4 * num = interval.upper * den) :
    interval.closed = true := by
  unfold Covers at h
  split at h
  · assumption
  · rcases hend with hend | hend
    · exact absurd hend h.1.ne
    · exact absurd hend h.2.ne

/-- The distance from a magnitude to the next one. -/
def gap (units : Nat) : Nat := powerOfTwo (significandShift units)

lemma gap_pos (units : Nat) : 0 < gap units := powerOfTwo_pos _

lemma one_lt_gap (hshift : significandShift units ≠ 0) : 1 < gap units :=
  Nat.one_lt_two_pow hshift

/-- The magnitudes below are denser: the significand is the least one of 53 bits. -/
def IsNarrow (units : Nat) : Prop := 2 * (units / gap units) = significandLimit ∧ gap units ≠ 1

lemma gap_le (hrep : Representable units) (hpos : units ≠ 0) : gap units ≤ units := by
  have hunits : units / gap units * gap units = units := hrep.div_mul_powerOfTwo
  have hsignificand : units / gap units ≠ 0 := by
    intro hzero
    rw [hzero, Nat.zero_mul] at hunits
    exact hpos hunits.symm
  calc gap units = 1 * gap units := (Nat.one_mul _).symm
    _ ≤ units / gap units * gap units := by
      gcongr
      exact Nat.one_le_iff_ne_zero.2 hsignificand
    _ = units := hunits

lemma upper_of (units : Nat) : (of units).upper = 4 * units + 2 * gap units := rfl

lemma closed_of (units : Nat) : (of units).closed = decide (units / gap units % 2 = 0) := rfl

lemma lower_of_narrow (h : IsNarrow units) : (of units).lower = 4 * units - gap units :=
  congrArg (4 * units - ·) (if_pos h)

lemma lower_of_not_narrow (h : ¬IsNarrow units) :
    (of units).lower = 4 * units - 2 * gap units :=
  congrArg (4 * units - ·) (if_neg h)

/-- The lower end is as far from the magnitude as half of the gap below. -/
lemma lower_add (hrep : Representable units) (hpos : units ≠ 0) :
    (IsNarrow units → (of units).lower + gap units = 4 * units) ∧
      (¬IsNarrow units → (of units).lower + 2 * gap units = 4 * units) := by
  have hgap := gap_le hrep hpos
  refine ⟨fun h => ?_, fun h => ?_⟩
  · rw [lower_of_narrow h]
    omega
  · rw [lower_of_not_narrow h]
    omega

/-- The same with a denominator. -/
lemma lower_mul_add (hrep : Representable units) (hpos : units ≠ 0) (den : Nat) :
    (IsNarrow units → (of units).lower * den + gap units * den = 4 * units * den) ∧
      (¬IsNarrow units → (of units).lower * den + 2 * gap units * den = 4 * units * den) := by
  obtain ⟨hnarrow, hwide⟩ := lower_add hrep hpos
  refine ⟨fun h => ?_, fun h => ?_⟩
  · rw [← Nat.add_mul, hnarrow h]
  · rw [← Nat.add_mul, hwide h]

lemma lower_bounds (hrep : Representable units) (hpos : units ≠ 0) :
    2 * units ≤ (of units).lower ∧ (of units).lower < 4 * units := by
  have hle := gap_le hrep hpos
  have hgap := gap_pos units
  obtain ⟨hnarrow, hwide⟩ := lower_add hrep hpos
  by_cases h : IsNarrow units
  · have hadd := hnarrow h
    omega
  · have hadd := hwide h
    omega

lemma upper_bounds (hrep : Representable units) (hpos : units ≠ 0) :
    4 * units < (of units).upper ∧ (of units).upper ≤ 6 * units := by
  have hle := gap_le hrep hpos
  have hgap := gap_pos units
  rw [upper_of]
  omega

/-- A magnitude is covered by its own interval. -/
lemma covers_self (hrep : Representable units) (hpos : units ≠ 0) (hden : 0 < den) :
    (of units).Covers (units * den) den := by
  have hlower : (of units).lower * den < 4 * (units * den) := by
    rw [← Nat.mul_assoc]
    exact Nat.mul_lt_mul_of_pos_right (lower_bounds hrep hpos).2 hden
  have hupper : 4 * (units * den) < (of units).upper * den := by
    rw [← Nat.mul_assoc]
    exact Nat.mul_lt_mul_of_pos_right (upper_bounds hrep hpos).1 hden
  unfold Covers
  split
  · exact ⟨hlower.le, hupper.le⟩
  · exact ⟨hlower, hupper⟩

/-- What is covered is half a gap away at most, and less if the significand is odd. -/
lemma Covers.half_gap (hrep : Representable units) (hpos : units ≠ 0)
    (hcovers : (of units).Covers num den) :
    2 * units * den ≤ 2 * num + gap units * den ∧ 2 * num ≤ 2 * units * den + gap units * den ∧
      (2 * units * den = 2 * num + gap units * den ∨
          2 * num = 2 * units * den + gap units * den →
        units / gap units % 2 = 0) := by
  obtain ⟨hlower, hupper⟩ := hcovers.bounds
  obtain ⟨hnarrow, hwide⟩ := lower_mul_add hrep hpos den
  have hgap : 0 ≤ gap units * den := Nat.zero_le _
  rw [upper_of] at hupper
  by_cases h : IsNarrow units
  · have heven : units / gap units % 2 = 0 := by
      have hsignificand : 2 * (units / gap units) = 9007199254740992 := h.1
      omega
    have hadd := hnarrow h
    exact ⟨by linarith, by linarith, fun _ => heven⟩
  · have hadd := hwide h
    refine ⟨by linarith, by linarith, fun hend => ?_⟩
    have hclosed := hcovers.closed (hend.imp (fun hend => by linarith) fun hend => by
      rw [upper_of]
      linarith)
    simpa [closed_of] using hclosed

end RoundingInterval

/-! ## Rounding what is covered -/

section Nearest

open RoundingInterval

variable {units num den : Nat}

/-- Rounding with the shift of the magnitude itself. -/
lemma nearestUnits_of_shift_eq (hrep : Representable units) (hpos : units ≠ 0) (hden : 0 < den)
    (hcovers : (RoundingInterval.of units).Covers (num * unitsPerOne) den)
    (hshift : significandShift (num * unitsPerOne / den) = significandShift units) :
    nearestUnits num den = units := by
  have hunits : units / gap units * gap units = units := hrep.div_mul_powerOfTwo
  obtain ⟨hlower, hupper, htie⟩ := hcovers.half_gap hrep hpos
  have hstep : 0 < den * gap units := Nat.mul_pos hden (gap_pos units)
  have hmul : 2 * (units / gap units) * (den * gap units) = 2 * units * den := by
    calc 2 * (units / gap units) * (den * gap units)
        = 2 * (units / gap units * gap units) * den := by ring
      _ = 2 * units * den := by rw [hunits]
  have hsignificand : nearestSignificand num den = units / gap units := by
    unfold nearestSignificand
    rw [hshift, ← gap]
    refine roundHalfEven_eq hstep ?_ ?_ ?_
    · rw [hmul]
      linarith
    · rw [hmul]
      linarith
    · intro hend
      refine htie (hend.imp (fun hend => ?_) fun hend => ?_)
      · rw [← hmul, hend]
        ring
      · rw [hend, hmul]
        ring
  rw [nearestUnits, hsignificand, hshift]
  exact hunits

/-- What the interval covers has the magnitude's shift, unless it lies below a power of two. -/
lemma significandShift_of_covers (hrep : Representable units) (hpos : units ≠ 0) (hden : 0 < den)
    (hcovers : (RoundingInterval.of units).Covers num den)
    (hbelow : IsNarrow units → units * den ≤ num) :
    significandShift (num / den) = significandShift units := by
  have hunits : units / gap units * gap units = units := hrep.div_mul_powerOfTwo
  have hlimit : units / gap units < powerOfTwo 53 := div_powerOfTwo_significandShift_lt units
  obtain ⟨hlower, hupper, -⟩ := hcovers.half_gap hrep hpos
  generalize hsignificand : units / gap units = significand at hunits hlimit
  apply significandShift_eq
  · intro hshift
    have hfull : powerOfTwo 52 ≤ significand := hsignificand ▸ le_significand hpos hshift
    rw [Nat.le_div_iff_mul_le hden, powerOfTwo_add, ← gap]
    by_cases hnarrow : IsNarrow units
    · calc powerOfTwo 52 * gap units * den
          ≤ significand * gap units * den := by gcongr
        _ = units * den := by rw [hunits]
        _ ≤ num := hbelow hnarrow
    · have hmore : powerOfTwo 52 + 1 ≤ significand := by
        refine Nat.lt_of_le_of_ne hfull fun heq => hnarrow ⟨?_, (one_lt_gap hshift).ne'⟩
        rw [hsignificand, ← heq]
        decide
      have hmul : (powerOfTwo 52 + 1) * (gap units * den) ≤ units * den := by
        calc (powerOfTwo 52 + 1) * (gap units * den)
            ≤ significand * (gap units * den) := by gcongr
          _ = units * den := by rw [← Nat.mul_assoc, hunits]
      linarith
  · rw [Nat.div_lt_iff_lt_mul hden, powerOfTwo_add, ← gap]
    have hstep : 0 < gap units * den := Nat.mul_pos (gap_pos units) hden
    have hmul : units * den + gap units * den ≤ powerOfTwo 53 * gap units * den := by
      calc units * den + gap units * den
          = significand * gap units * den + gap units * den := by rw [hunits]
        _ = (significand + 1) * gap units * den := by ring
        _ ≤ powerOfTwo 53 * gap units * den := by gcongr; exact hlimit
    linarith

/-- What lies below a power of two, in the quarter that its interval covers, has a shift that is one
less. -/
lemma nearestUnits_of_covers_below (hrep : Representable units) (hpos : units ≠ 0) (hden : 0 < den)
    (hcovers : (RoundingInterval.of units).Covers (num * unitsPerOne) den)
    (hnarrow : IsNarrow units) (hbelow : num * unitsPerOne < units * den) :
    nearestUnits num den = units := by
  obtain ⟨hlower, -⟩ := hcovers.bounds
  have hadd := (lower_mul_add hrep hpos den).1 hnarrow
  have hne : significandShift units ≠ 0 := fun hzero => hnarrow.2 (by rw [gap, hzero]; rfl)
  obtain ⟨shift, hshift⟩ := Nat.exists_eq_add_one_of_ne_zero hne
  have hgap : gap units = 2 * powerOfTwo shift := by rw [gap, hshift, powerOfTwo_succ]
  have hlimit : powerOfTwo 53 * powerOfTwo shift = units := by
    have hunits : units / gap units * gap units = units := hrep.div_mul_powerOfTwo
    calc powerOfTwo 53 * powerOfTwo shift
        = 2 * (units / gap units) * powerOfTwo shift := by rw [hnarrow.1, powerOfTwo_53]
      _ = units / gap units * (2 * powerOfTwo shift) := by ring
      _ = units := by rw [← hgap, hunits]
  have hhalf : powerOfTwo shift * den ≤ units * den := by
    gcongr
    exact hlimit ▸ Nat.le_mul_of_pos_left _ (powerOfTwo_pos 53)
  have hlower' : 4 * (units * den) ≤ 4 * (num * unitsPerOne) + 2 * (powerOfTwo shift * den) := by
    rw [hgap] at hadd
    linarith
  have hlow : significandShift (num * unitsPerOne / den) = shift := by
    apply significandShift_eq
    · intro _
      have hdouble : 2 * (powerOfTwo (52 + shift) * den) = units * den := by
        rw [← hlimit, powerOfTwo_succ 52, powerOfTwo_add 52 shift]
        ring
      rw [Nat.le_div_iff_mul_le hden]
      linarith
    · rwa [Nat.div_lt_iff_lt_mul hden, powerOfTwo_add, hlimit]
  have hsignificand : nearestSignificand num den = powerOfTwo 53 := by
    have hmul : 2 * powerOfTwo 53 * (den * powerOfTwo shift) = 2 * units * den := by
      rw [← hlimit]
      ring
    unfold nearestSignificand
    rw [hlow]
    refine roundHalfEven_eq (Nat.mul_pos hden (powerOfTwo_pos shift)) ?_ ?_ fun _ => by decide
    · rw [hmul]
      linarith
    · rw [hmul]
      linarith
  rw [nearestUnits, hsignificand, hlow, hlimit]

/-- What the interval of a magnitude covers is rounded to the magnitude. -/
theorem nearestUnits_of_covers (hrep : Representable units) (hpos : units ≠ 0) (hden : 0 < den)
    (hcovers : (RoundingInterval.of units).Covers (num * unitsPerOne) den) :
    nearestUnits num den = units := by
  by_cases hbelow : IsNarrow units ∧ num * unitsPerOne < units * den
  · exact nearestUnits_of_covers_below hrep hpos hden hcovers hbelow.1 hbelow.2
  · refine nearestUnits_of_shift_eq hrep hpos hden hcovers ?_
    exact significandShift_of_covers hrep hpos hden hcovers fun hnarrow =>
      Nat.le_of_not_lt fun hlt => hbelow ⟨hnarrow, hlt⟩

end Nearest

end PathQuery
