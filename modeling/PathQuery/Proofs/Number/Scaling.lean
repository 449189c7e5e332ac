/-
# Short numerals are read as the nearest value

The float of a JSON numeral is found by rounding its digits and scaling them with powers of ten that
are rounded too.  As long as there are few digits and few places these are no roundings at all: the
digits and the power are represented exactly, so only the last operation rounds, and what it rounds
is the number that the numeral denotes (`Number.ofParts?_eq_nearest`).
-/
import PathQuery.Number.Numeral
import PathQuery.Proofs.Number.Shortest

namespace PathQuery

/-! ## Filling a word -/

lemma le_ofDigitChars (n : Nat) (digits : List Char) : n ≤ Nat.ofDigitChars 10 digits n := by
  induction digits generalizing n with
  | nil => exact le_rfl
  | cons digit rest ih =>
    rw [Nat.ofDigitChars_cons]
    exact le_trans (by omega) (ih _)

lemma fillWord_of_lt {n : Nat} {digits : List Char}
    (h : Nat.ofDigitChars 10 digits n < wordLimit) :
    fillWord n digits = (Nat.ofDigitChars 10 digits n, []) := by
  induction digits generalizing n with
  | nil => rfl
  | cons digit rest ih =>
    rw [Nat.ofDigitChars_cons] at h ⊢
    -- more digits only make the number greater, so there is room for this one
    rw [fillWord, Nat.ofDigitChars_cons, Nat.ofDigitChars_nil,
      if_pos (lt_of_le_of_lt (le_ofDigitChars _ rest) h), ih h]

/-- If there is room for all digits, none is left out. -/
lemma Decimal.ofWord_eq_ofParts {whole fraction : List Char}
    (h : digitsValue (whole ++ fraction) < wordLimit) (exponent : Int) :
    ofWord whole fraction exponent = ofParts whole fraction exponent := by
  rw [digitsValue, Nat.ofDigitChars_append] at h
  have hwhole := fillWord_of_lt (lt_of_le_of_lt (le_ofDigitChars _ fraction) h)
  rw [ofWord, hwhole]
  simp only [fillWord_of_lt h, ofParts, digitsValue, Nat.ofDigitChars_append]
  simp

/-! ## What is not rounded -/

section Exact

variable {units num den : Nat}

lemma nearestUnits_eq_of_exact (hrep : Representable units) (hden : 0 < den)
    (hexact : num * unitsPerOne = units * den) : nearestUnits num den = units := by
  by_cases hzero : units = 0
  · subst hzero
    have hnum : num = 0 := by
      rw [Nat.zero_mul] at hexact
      exact (Nat.mul_eq_zero.1 hexact).resolve_right (powerOfTwo_pos pointPlace).ne'
    rw [hnum, nearestUnits_zero hden]
  · refine nearestUnits_of_covers hrep hzero hden ?_
    rw [hexact]
    exact RoundingInterval.covers_self hrep hzero hden

lemma powerOfTwo_lt_of_lt {m n : Nat} (h : m < n) : powerOfTwo m < powerOfTwo n :=
  Nat.pow_lt_pow_right (by decide) h

lemma representable_mul_powerOfTwo {significand shift : Nat} (h : significand ≤ significandLimit)
    (hshift : 53 + shift < pointPlace + 1024) : Representable (significand * powerOfTwo shift) := by
  refine ⟨?_, significand, shift, h, rfl⟩
  calc significand * powerOfTwo shift
      ≤ powerOfTwo 53 * powerOfTwo shift := Nat.mul_le_mul_right _ h
    _ = powerOfTwo (53 + shift) := (powerOfTwo_add 53 shift).symm
    _ < unitLimit := powerOfTwo_lt_of_lt hshift

/-- The greatest exponent for which the odd part of the power of ten has at most 53 bits. -/
def exactPower : Nat := 22

lemma powerUnits_of_le {n : Nat} (hn : n ≤ exactPower) :
    Binary64.powerUnits n = powerOfTen n * unitsPerOne := by
  have hodd : 5 ^ n ≤ significandLimit :=
    (Nat.pow_le_pow_right (by decide) hn).trans (by decide)
  -- the significand has no need to hold the twos of the power
  have hsplit : powerOfTen n * unitsPerOne = 5 ^ n * powerOfTwo (n + pointPlace) := by
    rw [powerOfTwo_add, ← Nat.mul_assoc]
    exact congrArg (· * unitsPerOne) (Nat.mul_pow 5 2 n)
  have hshift : 53 + (n + pointPlace) < pointPlace + 1024 := by
    unfold exactPower at hn
    omega
  have hrep : Representable (powerOfTen n * unitsPerOne) := by
    rw [hsplit]
    exact representable_mul_powerOfTwo hodd hshift
  exact nearestUnits_eq_of_exact hrep Nat.one_pos (Nat.mul_one _).symm

end Exact

/-! ## Scaling -/

namespace Decimal

variable {d : Decimal} (hexponent : d.exponent.natAbs ≤ exactPower)
include hexponent

/-- The operands are exact, and their product or quotient is the number that the decimal denotes. -/
lemma scale?_eq_nearest (negative : Bool) (hrep : Representable (d.digits * unitsPerOne)) :
    Binary64.scale? ⟨negative, d.digits * unitsPerOne, hrep⟩ d.exponent
      = (Extended.nearest negative d.num d.den).finite? := by
  have hone : 0 < unitsPerOne := powerOfTwo_pos pointPlace
  have hpower := powerOfTen_pos d.exponent.natAbs
  rw [Binary64.scale?, if_pos (hexponent.trans (by decide))]
  by_cases hsign : 0 ≤ d.exponent
  · have hnum : d.exponent.toNat = d.exponent.natAbs := by omega
    have hden : (-d.exponent).toNat = 0 := by omega
    rw [if_pos hsign, Binary64.timesPower, powerUnits_of_le hexponent]
    refine congrArg _ (Extended.nearest_eq_of_units_eq negative ?_)
    refine nearestUnits_eq_of_ratio (Nat.mul_pos hone hone) d.den_pos ?_
    rw [num, den, hnum, hden, powerOfTen_zero]
    ring
  · have hnum : d.exponent.toNat = 0 := by omega
    have hden : (-d.exponent).toNat = d.exponent.natAbs := by omega
    rw [if_neg hsign, Binary64.overPower, powerUnits_of_le hexponent]
    refine congrArg _ (Extended.nearest_eq_of_units_eq negative ?_)
    refine nearestUnits_eq_of_ratio (Nat.mul_pos hpower hone) d.den_pos ?_
    rw [num, den, hnum, hden, powerOfTen_zero]
    ring

/-- The thresholds of the exact reading are out of reach. -/
lemma toExtended_eq_nearest (hdigits : d.digits ≤ significandLimit) (negative : Bool) :
    d.toExtended negative = .nearest negative d.num d.den := by
  have hlength : decimalLength d.digits ≤ 16 := by
    rw [decimalLength_le_iff (by decide)]
    exact lt_of_le_of_lt hdigits (by decide)
  unfold exactPower at hexponent
  have hsmall : ¬d.magnitude < -330 := by
    unfold magnitude
    omega
  have hgreat : ¬d.magnitude > 310 := by
    unfold magnitude
    omega
  rw [toExtended_eq]
  by_cases hzero : d.digits = 0
  · have hunits : nearestUnits d.num d.den = 0 := by
      rw [num, hzero, Nat.zero_mul, nearestUnits_zero d.den_pos]
    rw [if_pos (Or.inl hzero),
      Extended.nearest_eq_finite negative (Binary64.zero negative).representable hunits]
    rfl
  · rw [if_neg (by simp [hzero, hsmall]), if_neg hgreat]

/-- Scaling finds the nearest value where neither the digits nor the power of ten is rounded. -/
theorem scaled?_eq_finite?_toExtended (hdigits : d.digits ≤ significandLimit) (negative : Bool) :
    d.scaled? negative = (d.toExtended negative).finite? := by
  have hrep : Representable (d.digits * unitsPerOne) :=
    representable_mul_powerOfTwo hdigits (by decide)
  have hfirst : Extended.nearest negative d.digits 1
      = .finite ⟨negative, d.digits * unitsPerOne, hrep⟩ :=
    Extended.nearest_eq_finite negative hrep
      (nearestUnits_eq_of_exact hrep Nat.one_pos (Nat.mul_one _).symm)
  rw [scaled?, hfirst, toExtended_eq_nearest hexponent hdigits]
  exact scale?_eq_nearest hexponent negative hrep

end Decimal

/-- Beyond that bound it may find a neighbour of the nearest value. -/
example : (Decimal.scaled? false ⟨4, -24⟩).map Binary64.units
    ≠ (Decimal.toExtended false ⟨4, -24⟩).finite?.map Binary64.units := by
  decide +kernel

/-- **Short numerals are read as the nearest value.**  If the digits of a numeral make `2 ^ 53` at
most, and its point has to be moved by 22 places at most, then its float is the one that is nearest
to what it denotes. -/
theorem Number.ofParts?_eq_nearest {whole fraction : List Char} {exponent : Int}
    (hdigits : digitsValue (whole ++ fraction) ≤ significandLimit)
    (hexponent : (exponent - fraction.length).natAbs ≤ exactPower) (negative : Bool) :
    ofParts? negative whole fraction exponent
      = ((Decimal.ofParts whole fraction exponent).toExtended negative).finite?.map .float := by
  have hroom : digitsValue (whole ++ fraction) < wordLimit := lt_of_le_of_lt hdigits (by decide)
  rw [ofParts?, Decimal.ofWord_eq_ofParts hroom,
    Decimal.scaled?_eq_finite?_toExtended hexponent hdigits]

end PathQuery
