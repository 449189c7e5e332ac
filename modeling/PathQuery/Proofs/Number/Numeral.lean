/-
# Integers that are written are read

The decimal digits of a number denote it, and they start with a zero only if they are a single one.
So the text of an integer is a numeral of a JSON text, and it is read as that integer again
(`Number.ofText?_integerText`).
-/
import Mathlib.Data.List.Basic
import Mathlib.Data.List.TakeWhile
import PathQuery.Number.Numeral

namespace PathQuery

/-! ## Runs of characters -/

section Run

variable {p : Char → Bool} {word rest : List Char}

/-- A reader that takes characters of a class takes a word of the class, if what is behind the word
starts with another character. -/
lemma takeWhile_append_of_head (hword : ∀ c ∈ word, p c) (hrest : ∀ c ∈ rest.head?, p c = false) :
    (word ++ rest).takeWhile p = word := by
  rw [List.takeWhile_append_of_pos hword]
  cases rest with
  | nil => rw [List.takeWhile_nil, List.append_nil]
  | cons c rest => rw [List.takeWhile_cons_of_neg (by simp [hrest c rfl]), List.append_nil]

lemma dropWhile_append_of_head (hword : ∀ c ∈ word, p c) (hrest : ∀ c ∈ rest.head?, p c = false) :
    (word ++ rest).dropWhile p = rest := by
  rw [List.dropWhile_append_of_pos hword]
  cases rest with
  | nil => rfl
  | cons c rest => exact List.dropWhile_cons_of_neg (by simp [hrest c rfl])

end Run

/-! ## Digits -/

section Digits

variable {digits rest : List Char}

lemma takeDigits_append (hdigits : ∀ c ∈ digits, c.isDigit)
    (hrest : ∀ c ∈ rest.head?, c.isDigit = false) :
    takeDigits (digits ++ rest) = (digits, rest) := by
  rw [takeDigits, takeWhile_append_of_head hdigits hrest, dropWhile_append_of_head hdigits hrest]

lemma takeDigits_of_isDigit (h : ∀ c ∈ digits, c.isDigit) : takeDigits digits = (digits, []) := by
  have hnil : ∀ c ∈ ([] : List Char).head?, c.isDigit = false := nofun
  have htake := takeDigits_append h hnil
  rwa [List.append_nil] at htake

/-- What starts with a digit has no sign. -/
lemma takeSign_of_isDigit (hne : digits ≠ []) (hdigits : ∀ c ∈ digits, c.isDigit)
    (rest : List Char) : takeSign (digits ++ rest) = (false, digits ++ rest) := by
  obtain ⟨d, tail, rfl⟩ := List.exists_cons_of_ne_nil hne
  have hd := hdigits d List.mem_cons_self
  unfold takeSign
  split
  · next heq =>
    obtain rfl := (List.cons.inj heq).1
    exact absurd hd (by decide)
  · next heq =>
    obtain rfl := (List.cons.inj heq).1
    exact absurd hd (by decide)
  · rfl

end Digits

lemma digitsValue_decimalText (n : Nat) : digitsValue (decimalText n) = n :=
  Nat.ofDigitChars_ten_toDigits

lemma isDigit_of_mem_decimalText {n : Nat} : ∀ c ∈ decimalText n, c.isDigit :=
  fun _ hc => Nat.isDigit_of_mem_toDigits (by decide) (by decide) hc

lemma decimalText_ne_nil (n : Nat) : decimalText n ≠ [] := Nat.toDigits_ne_nil

lemma isEmpty_decimalText (n : Nat) : (decimalText n).isEmpty = false :=
  List.isEmpty_eq_false_iff.2 (decimalText_ne_nil n)

lemma takeDigits_decimalText (n : Nat) : takeDigits (decimalText n) = (decimalText n, []) :=
  takeDigits_of_isDigit isDigit_of_mem_decimalText

/-- Only the digits of zero start with a zero. -/
lemma head?_decimalText_ne_zero {n : Nat} (hn : n ≠ 0) : (decimalText n).head? ≠ some '0' := by
  induction n using Nat.strong_induction_on with
  | _ n ih =>
    by_cases hsmall : n < 10
    · have htext : decimalText n = [n.digitChar] := Nat.toDigits_of_lt_base hsmall
      rw [htext, List.head?_cons]
      intro hzero
      exact hn (Nat.digitChar_eq_zero.1 (Option.some.inj hzero))
    · have htext : decimalText n = decimalText (n / 10) ++ [(n % 10).digitChar] :=
        Nat.toDigits_of_base_le (by decide) (by omega)
      obtain ⟨d, digits, hdigits⟩ := List.exists_cons_of_ne_nil (decimalText_ne_nil (n / 10))
      have hfront := ih (n / 10) (by omega) (by omega)
      rw [hdigits] at hfront
      rw [htext, hdigits]
      exact hfront

/-! ## Integers -/

lemma WordInt.ofInt?_value (n : WordInt) : ofInt? n.value = some n := by
  simp [ofInt?, n.fits]

lemma Number.ofDigits?_decimalText {n : WordInt} {negative : Bool} {magnitude : Nat}
    (hvalue : (if negative then -(magnitude : Int) else magnitude) = n.value)
    (hzero : ¬(negative ∧ magnitude = 0)) :
    Number.ofDigits? negative (decimalText magnitude) = some (.integer n) := by
  rw [Number.ofDigits?, digitsValue_decimalText, if_neg hzero, hvalue, WordInt.ofInt?_value]

lemma Number.ofText?_integerText (n : WordInt) :
    Number.ofText? (integerText n.value) = some (.integer n) := by
  have htake := takeDigits_decimalText n.value.natAbs
  have hlead : ¬((decimalText n.value.natAbs).head? = some '0' ∧
      (decimalText n.value.natAbs).length ≠ 1) := by
    rintro ⟨hhead, hlength⟩
    by_cases hzero : n.value.natAbs = 0
    · rw [hzero] at hlength
      exact hlength rfl
    · exact head?_decimalText_ne_zero hzero hhead
  have hwell : ¬((decimalText n.value.natAbs).isEmpty = true ∨
      (decimalText n.value.natAbs).head? = some '0' ∧
        (decimalText n.value.natAbs).length ≠ 1) := by
    rw [isEmpty_decimalText]
    simpa using hlead
  unfold integerText
  by_cases hneg : n.value < 0
  · rw [if_pos hneg, Number.ofText?]
    simp only [htake, if_neg hwell]
    refine Number.ofDigits?_decimalText ?_ ?_
    · rw [if_pos rfl]
      omega
    · rintro ⟨-, hzero⟩
      omega
  · have hminus : ∀ rest, decimalText n.value.natAbs = '-' :: rest → False := by
      intro rest hrest
      have hdigit := isDigit_of_mem_decimalText '-' (hrest ▸ List.mem_cons_self)
      exact absurd hdigit (by decide)
    rw [if_neg hneg, Number.ofText?]
    · simp only [htake, if_neg hwell]
      refine Number.ofDigits?_decimalText ?_ ?_
      · rw [if_neg Bool.false_ne_true]
        omega
      · rintro ⟨hfalse, -⟩
        exact Bool.false_ne_true hfalse
    · exact hminus

end PathQuery
