/-
# The shortest decimal reads back

`Decimal.shortest` looks for a decimal among the numbers that round to a magnitude, so what it finds
is read as that magnitude (`toExtended_shortest`).  The thresholds beyond which a decimal is read as
zero or as an infinity do no harm: the interval of a magnitude ends far before them.

One number has many decimals, since zeros may be moved from the digits to the exponent.  They are
all read as the same value (`toExtended_scale`).
-/
import PathQuery.Proofs.Number.Rounding

namespace PathQuery

/-! ## Lengths of numerals -/

lemma powerOfTen_pos (n : Nat) : 0 < powerOfTen n := Nat.pow_pos (by decide)

lemma powerOfTen_add (m n : Nat) : powerOfTen (m + n) = powerOfTen m * powerOfTen n :=
  Nat.pow_add 10 m n

lemma powerOfTen_zero : powerOfTen 0 = 1 := rfl

/-- A power of ten holds the power of two with the same exponent. -/
lemma powerOfTen_div_mul (n : Nat) : powerOfTen n / powerOfTwo n * powerOfTwo n = powerOfTen n :=
  Nat.div_mul_cancel (pow_dvd_pow_of_dvd (by decide : 2 ∣ 10) n)

lemma powerOfTen_le_of_le {m n : Nat} (hle : m ≤ n) : powerOfTen m ≤ powerOfTen n :=
  Nat.pow_le_pow_right (by decide) hle

lemma decimalLength_pos (n : Nat) : 0 < decimalLength n := Nat.length_toDigits_pos

lemma decimalLength_le_iff {n k : Nat} (hk : 0 < k) : decimalLength n ≤ k ↔ n < powerOfTen k :=
  Nat.length_toDigits_le_iff (by decide) hk

lemma lt_powerOfTen_decimalLength (n : Nat) : n < powerOfTen (decimalLength n) :=
  (decimalLength_le_iff (decimalLength_pos n)).1 le_rfl

lemma powerOfTen_le_of_ne_zero {n : Nat} (hn : n ≠ 0) : powerOfTen (decimalLength n - 1) ≤ n := by
  by_contra hlt
  rw [Nat.not_le] at hlt
  by_cases hone : decimalLength n - 1 = 0
  · rw [hone] at hlt
    exact hn (Nat.lt_one_iff.1 hlt)
  · have hle := (decimalLength_le_iff (Nat.pos_of_ne_zero hone)).2 hlt
    omega

lemma decimalLength_mul_powerOfTen {n : Nat} (hn : n ≠ 0) (k : Nat) :
    decimalLength (n * powerOfTen k) = decimalLength n + k := by
  have hpos := decimalLength_pos n
  apply le_antisymm
  · rw [decimalLength_le_iff (by omega), powerOfTen_add]
    exact Nat.mul_lt_mul_of_pos_right (lt_powerOfTen_decimalLength n) (powerOfTen_pos k)
  · by_contra hlt
    have hle : decimalLength (n * powerOfTen k) ≤ decimalLength n - 1 + k := by omega
    have hpos' := decimalLength_pos (n * powerOfTen k)
    rw [decimalLength_le_iff (by omega), powerOfTen_add] at hle
    exact absurd (Nat.lt_of_mul_lt_mul_right hle) (Nat.not_lt.2 (powerOfTen_le_of_ne_zero hn))

/-! ## Ratios -/

section Ratio

variable {num den num' den' : Nat}

lemma roundHalfEven_mul_right (num den : Nat) {c : Nat} (hc : 0 < c) :
    roundHalfEven (num * c) (den * c) = roundHalfEven num den := by
  have hcompare : compare (2 * (num % den * c)) (den * c) = compare (2 * (num % den)) den := by
    rw [← Nat.mul_assoc, Nat.compare_eq_ite_lt, Nat.compare_eq_ite_lt]
    simp only [Nat.mul_lt_mul_right hc]
  unfold roundHalfEven
  rw [Nat.mul_div_mul_right _ _ hc, Nat.mul_mod_mul_right, hcompare]

lemma nearestUnits_mul_right (num den : Nat) {c : Nat} (hc : 0 < c) :
    nearestUnits (num * c) (den * c) = nearestUnits num den := by
  have hwhole : num * c * unitsPerOne / (den * c) = num * unitsPerOne / den := by
    rw [Nat.mul_right_comm, Nat.mul_div_mul_right _ _ hc]
  unfold nearestUnits nearestSignificand
  rw [hwhole, Nat.mul_right_comm num, Nat.mul_right_comm den, roundHalfEven_mul_right _ _ hc]

/-- Only the ratio is rounded. -/
lemma nearestUnits_eq_of_ratio (hden : 0 < den) (hden' : 0 < den')
    (hratio : num * den' = num' * den) : nearestUnits num den = nearestUnits num' den' := by
  calc nearestUnits num den
      = nearestUnits (num * den') (den * den') := (nearestUnits_mul_right _ _ hden').symm
    _ = nearestUnits (num' * den) (den' * den) := by rw [hratio, Nat.mul_comm den]
    _ = nearestUnits num' den' := nearestUnits_mul_right _ _ hden

lemma nearestUnits_zero (hden : 0 < den) : nearestUnits 0 den = 0 := by
  calc nearestUnits 0 den
      = nearestUnits 0 1 := nearestUnits_eq_of_ratio hden Nat.one_pos (by omega)
    _ = 0 := by decide +kernel

lemma Extended.nearest_eq_of_units_eq (negative : Bool)
    (h : nearestUnits num den = nearestUnits num' den') :
    Extended.nearest negative num den = Extended.nearest negative num' den' := by
  unfold Extended.nearest
  simp only [h]

lemma Extended.nearest_eq_finite (negative : Bool) {units : Nat} (hrep : Representable units)
    (h : nearestUnits num den = units) :
    Extended.nearest negative num den = .finite ⟨negative, units, hrep⟩ := by
  subst h
  exact dif_pos hrep.1

end Ratio

namespace Decimal

/-- The numerator of the decimal as a fraction. -/
def num (d : Decimal) : Nat := d.digits * powerOfTen d.exponent.toNat

/-- The denominator of the decimal as a fraction. -/
def den (d : Decimal) : Nat := powerOfTen (-d.exponent).toNat

lemma den_pos (d : Decimal) : 0 < d.den := powerOfTen_pos _

/-- The exponent of the first digit, plus one. -/
def magnitude (d : Decimal) : Int := d.exponent + decimalLength d.digits

/-- The same number with zeros behind its digits. -/
def scale (d : Decimal) (k : Nat) : Decimal := ⟨d.digits * powerOfTen k, d.exponent - k⟩

lemma toExtended_eq (negative : Bool) (d : Decimal) :
    d.toExtended negative =
      if d.digits = 0 ∨ d.magnitude < -330 then .finite (.zero negative)
      else if d.magnitude > 310 then .infinity negative
      else .nearest negative d.num d.den := rfl

lemma num_mul_den_scale (d : Decimal) (k : Nat) :
    d.num * (d.scale k).den = (d.scale k).num * d.den := by
  have hexponents : d.exponent.toNat + (-(d.exponent - k)).toNat =
      k + (d.exponent - k).toNat + (-d.exponent).toNat := by
    omega
  simp only [num, den, scale, Nat.mul_assoc, ← powerOfTen_add]
  rw [hexponents, Nat.add_assoc]

/-- The zeros behind the digits do not change the value. -/
theorem toExtended_scale (negative : Bool) (d : Decimal) (k : Nat) :
    (d.scale k).toExtended negative = d.toExtended negative := by
  rw [toExtended_eq, toExtended_eq]
  by_cases hzero : d.digits = 0
  · have hscale : (d.scale k).digits = 0 := by simp [scale, hzero]
    rw [if_pos (Or.inl hscale), if_pos (Or.inl hzero)]
  · have hscale : (d.scale k).digits ≠ 0 := Nat.mul_ne_zero hzero (powerOfTen_pos k).ne'
    have hmagnitude : (d.scale k).magnitude = d.magnitude := by
      simp only [magnitude, scale, decimalLength_mul_powerOfTen hzero]
      omega
    have hnearest := Extended.nearest_eq_of_units_eq negative
      (nearestUnits_eq_of_ratio d.den_pos (d.scale k).den_pos (d.num_mul_den_scale k))
    simp only [hzero, hscale, hmagnitude, hnearest]

/-! ## What is covered -/

lemma contains_iff {interval : RoundingInterval} {d : Decimal} :
    interval.contains d = true ↔ interval.Covers (d.num * unitsPerOne) d.den := by
  have hscaled : d.digits * powerOfTen d.exponent.toNat * 4 * unitsPerOne =
      4 * (d.num * unitsPerOne) := by
    rw [num]
    ring
  unfold RoundingInterval.contains RoundingInterval.Covers
  rw [hscaled, den]
  split
  · exact decide_eq_true_iff
  · exact decide_eq_true_iff

/-- A decimal of a great magnitude is above every interval. -/
lemma mul_den_le_num {d : Decimal} (hdigits : d.digits ≠ 0) (h : 310 < d.magnitude) :
    powerOfTen 310 * d.den ≤ d.num := by
  have hlength := powerOfTen_le_of_ne_zero hdigits
  have hpos := decimalLength_pos d.digits
  unfold magnitude at h
  calc powerOfTen 310 * d.den
      = powerOfTen (310 + (-d.exponent).toNat) := (powerOfTen_add _ _).symm
    _ ≤ powerOfTen (decimalLength d.digits - 1 + d.exponent.toNat) :=
        powerOfTen_le_of_le (by omega)
    _ = powerOfTen (decimalLength d.digits - 1) * powerOfTen d.exponent.toNat := powerOfTen_add _ _
    _ ≤ d.num := Nat.mul_le_mul_right _ hlength

/-- A decimal of a small magnitude is below every interval. -/
lemma mul_num_le_den {d : Decimal} (h : d.magnitude < -330) :
    powerOfTen 331 * d.num ≤ d.den := by
  have hlength := lt_powerOfTen_decimalLength d.digits
  unfold magnitude at h
  calc powerOfTen 331 * d.num
      ≤ powerOfTen 331 * (powerOfTen (decimalLength d.digits) * powerOfTen d.exponent.toNat) := by
        rw [num]
        gcongr
    _ = powerOfTen (331 + (decimalLength d.digits + d.exponent.toNat)) := by
        rw [powerOfTen_add, powerOfTen_add]
    _ ≤ d.den := powerOfTen_le_of_le (by omega)

section Magnitude

lemma two_mul_unitsPerOne_lt : 2 * unitsPerOne < powerOfTen 331 := by decide +kernel

lemma six_mul_unitLimit_le : 6 * unitLimit ≤ 4 * unitsPerOne * powerOfTen 310 := by
  decide +kernel

variable {units : Nat} {d : Decimal}

/-- Within the interval of a magnitude both thresholds are out of reach. -/
theorem toExtended_of_contains (negative : Bool) (hrep : Representable units) (hpos : units ≠ 0)
    (hcontains : (RoundingInterval.of units).contains d = true) :
    d.toExtended negative = .finite ⟨negative, units, hrep⟩ := by
  have hcovers := contains_iff.1 hcontains
  have hden := d.den_pos
  obtain ⟨hlower, hupper⟩ := hcovers.bounds
  have hlow := (RoundingInterval.lower_bounds hrep hpos).1
  have hhigh := (RoundingInterval.upper_bounds hrep hpos).2
  have hbelow : 2 * d.den ≤ 4 * (d.num * unitsPerOne) :=
    (Nat.mul_le_mul_right _ (by omega)).trans hlower
  have habove : 4 * (d.num * unitsPerOne) < 6 * unitLimit * d.den := by
    refine hupper.trans_lt (Nat.mul_lt_mul_of_pos_right ?_ hden)
    have := hrep.1
    omega
  have hnum : 0 < d.num := by
    by_contra hzero
    rw [Nat.eq_zero_of_not_pos hzero] at hbelow
    omega
  have hdigits : d.digits ≠ 0 := fun hzero => by simp [num, hzero] at hnum
  have hsmall : ¬d.magnitude < -330 := by
    intro hsmall
    have hle := mul_num_le_den hsmall
    have hmul : 2 * unitsPerOne * d.num < powerOfTen 331 * d.num :=
      Nat.mul_lt_mul_of_pos_right two_mul_unitsPerOne_lt hnum
    linarith
  have hgreat : ¬d.magnitude > 310 := by
    intro hgreat
    have hle := mul_den_le_num hdigits hgreat
    have hmul : 6 * unitLimit * d.den ≤ 4 * unitsPerOne * powerOfTen 310 * d.den :=
      Nat.mul_le_mul_right _ six_mul_unitLimit_le
    have hmul' : 4 * unitsPerOne * (powerOfTen 310 * d.den) ≤ 4 * unitsPerOne * d.num :=
      Nat.mul_le_mul_left _ hle
    linarith
  rw [toExtended_eq, if_neg (by simp [hdigits, hsmall]), if_neg hgreat]
  exact Extended.nearest_eq_finite negative hrep (nearestUnits_of_covers hrep hpos hden hcovers)

/-- What stands on a grid next to the magnitude is only taken if it reads back. -/
lemma contains_of_closestOnGrid? {exponent : Int}
    (h : closestOnGrid? units exponent = some d) :
    (RoundingInterval.of units).contains d = true := by
  unfold closestOnGrid? at h
  dsimp only at h
  split at h
  · next hbelow habove =>
    obtain rfl := Option.some.inj h
    unfold roundHalfEven
    dsimp only
    split
    · exact hbelow
    · exact habove
    · split
      · exact hbelow
      · exact habove
  · next hbelow _ =>
    obtain rfl := Option.some.inj h
    exact hbelow
  · next _ habove =>
    obtain rfl := Option.some.inj h
    exact habove
  · simp at h

/-- The exact decimal of a magnitude, with as many places as a unit has. -/
lemma contains_exact (hrep : Representable units) (hpos : units ≠ 0) :
    (RoundingInterval.of units).contains
      ⟨units * (powerOfTen pointPlace / powerOfTwo pointPlace), -pointPlace⟩ = true := by
  have hcovers := RoundingInterval.covers_self hrep hpos (powerOfTen_pos pointPlace)
  rw [contains_iff]
  have hnum : num ⟨units * (powerOfTen pointPlace / powerOfTwo pointPlace), -pointPlace⟩ *
      unitsPerOne = units * powerOfTen pointPlace := by
    calc units * (powerOfTen pointPlace / powerOfTwo pointPlace) * powerOfTen 0 * unitsPerOne
        = units * (powerOfTen pointPlace / powerOfTwo pointPlace * powerOfTwo pointPlace) := by
          rw [unitsPerOne, powerOfTen_zero, Nat.mul_one, Nat.mul_assoc]
      _ = units * powerOfTen pointPlace := by rw [powerOfTen_div_mul]
  rw [hnum]
  exact hcovers

/-- The shortest decimal lies within the interval of its magnitude. -/
lemma contains_shortest (hrep : Representable units) (hpos : units ≠ 0) :
    (RoundingInterval.of units).contains (shortest units) = true := by
  unfold shortest
  dsimp only
  generalize hfound : List.findSome? _ _ = found
  cases found with
  | none => exact contains_exact hrep hpos
  | some d =>
    obtain ⟨n, -, hgrid⟩ := List.exists_of_findSome?_eq_some hfound
    exact contains_of_closestOnGrid? hgrid

/-- The shortest decimal of a magnitude is read as the magnitude. -/
theorem toExtended_shortest (negative : Bool) (hrep : Representable units) (hpos : units ≠ 0) :
    (shortest units).toExtended negative = .finite ⟨negative, units, hrep⟩ :=
  toExtended_of_contains negative hrep hpos (contains_shortest hrep hpos)

end Magnitude

end Decimal

end PathQuery
