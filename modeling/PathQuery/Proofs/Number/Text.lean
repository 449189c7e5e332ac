/-
# Numbers that are written are read

The text of a number is a numeral from end to end, and it is read as the value of the number
(`Number.ofText?_text`).  For an integer this is what its digits say.  For a float the digits are
those of the shortest decimal, which reads back.  They only lose zeros behind them and gain zeros
around the point, or an exponent tells where the point is (`exists_numeral_layOut`).
-/
import PathQuery.Proofs.Number.Numeral
import PathQuery.Proofs.Number.Shortest

namespace PathQuery

/-! ## Numerals -/

/-- An unsigned numeral: digits, perhaps a point with digits behind it, perhaps an exponent. -/
structure Numeral where
  whole : List Char
  fraction : Option (List Char)
  exponent : Option Int
  whole_ne_nil : whole ≠ []
  isDigit_whole : ∀ c ∈ whole, c.isDigit
  isDigit_fraction : ∀ digits ∈ fraction, ∀ c ∈ digits, c.isDigit

namespace Numeral

/-- A point and the digits behind it. -/
def pointText : Option (List Char) → List Char
  | none => []
  | some digits => '.' :: digits

/-- An exponent with its sign. -/
def exponentText : Option Int → List Char
  | none => []
  | some exponent => 'e' :: (if exponent < 0 then '-' else '+') :: decimalText exponent.natAbs

/-- The text of a numeral. -/
def text (numeral : Numeral) : List Char :=
  numeral.whole ++ (pointText numeral.fraction ++ exponentText numeral.exponent)

/-- The number that a numeral denotes. -/
def value (numeral : Numeral) : Decimal :=
  .ofParts numeral.whole (numeral.fraction.getD []) (numeral.exponent.getD 0)

/-- The decimal digits of a natural number. -/
def ofNat (n : Nat) : Numeral where
  whole := decimalText n
  fraction := none
  exponent := none
  whole_ne_nil := decimalText_ne_nil n
  isDigit_whole := isDigit_of_mem_decimalText
  isDigit_fraction := nofun

lemma text_ofNat (n : Nat) : (ofNat n).text = decimalText n := List.append_nil _

lemma value_ofNat (n : Nat) : (ofNat n).value = ⟨n, 0⟩ := by
  simp [value, ofNat, Decimal.ofParts, digitsValue_decimalText]

/-! ### Reading a numeral -/

lemma head?_exponentText {exponent : Option Int} :
    ∀ c ∈ (exponentText exponent).head?, c = 'e' := by
  cases exponent with
  | none => nofun
  | some exponent => exact fun c hc => (Option.some.inj hc).symm

lemma takeFraction_pointText {fraction : Option (List Char)}
    (hfraction : ∀ digits ∈ fraction, ∀ c ∈ digits, c.isDigit) (exponent : Option Int) :
    takeFraction (pointText fraction ++ exponentText exponent)
      = (fraction.getD [], exponentText exponent) := by
  cases fraction with
  | none =>
    cases exponent with
    | none => rfl
    | some exponent => rfl
  | some digits =>
    have hrest : ∀ c ∈ (exponentText exponent).head?, c.isDigit = false := by
      intro c hc
      rw [head?_exponentText c hc]
      decide
    exact takeDigits_append (hfraction digits rfl) hrest

lemma takeExponent?_exponentText (exponent : Option Int) :
    takeExponent? (exponentText exponent) = some (exponent.getD 0, []) := by
  cases exponent with
  | none => rfl
  | some exponent =>
    have hdigits := takeDigits_decimalText exponent.natAbs
    have hempty := isEmpty_decimalText exponent.natAbs
    have hvalue := digitsValue_decimalText exponent.natAbs
    by_cases hneg : exponent < 0
    · have hnatAbs : -(exponent.natAbs : Int) = exponent := by omega
      rw [exponentText, if_pos hneg]
      simp only [takeExponent?, takeSign, hdigits, hempty, hvalue, hnatAbs, if_true,
        Bool.false_eq_true, if_false, Option.getD_some]
    · have hnatAbs : (exponent.natAbs : Int) = exponent := by omega
      rw [exponentText, if_neg hneg]
      simp only [takeExponent?, takeSign, hdigits, hempty, hvalue, hnatAbs,
        Bool.false_eq_true, if_false, Option.getD_some]

variable (numeral : Numeral)

/-- A numeral is read from end to end. -/
lemma read?_text : Decimal.read? numeral.text = some (numeral.value, []) := by
  have hrest : ∀ c ∈ (pointText numeral.fraction ++ exponentText numeral.exponent).head?,
      c.isDigit = false := by
    cases numeral.fraction with
    | none =>
      intro c hc
      rw [head?_exponentText c hc]
      decide
    | some digits =>
      intro c hc
      obtain rfl : '.' = c := Option.some.inj hc
      decide
  have htake := takeDigits_append numeral.isDigit_whole hrest
  have hfraction := takeFraction_pointText numeral.isDigit_fraction numeral.exponent
  have hexponent := takeExponent?_exponentText numeral.exponent
  unfold Decimal.read? text
  simp only [htake, hfraction, hexponent]
  rw [if_neg fun h => numeral.whole_ne_nil h.1]
  rfl

/-! ### What is around a numeral -/

lemma isBlank_of_isDigit {c : Char} (h : c.isDigit) : isBlank c = false := by
  have hrange : 48 ≤ c.toNat ∧ c.toNat ≤ 57 := by
    simpa [Char.isDigit, UInt32.le_iff_toNat_le] using h
  have hspace : c ≠ ' ' := by
    rintro rfl
    exact absurd h (by decide)
  rw [isBlank, if_pos (by omega)]
  simp [hspace]
  omega

lemma isBlank_of_mem_text : ∀ c ∈ numeral.text, isBlank c = false := by
  intro c hc
  simp only [text, List.mem_append] at hc
  rcases hc with hwhole | hpoint | hexponent
  · exact isBlank_of_isDigit (numeral.isDigit_whole c hwhole)
  · cases hfraction : numeral.fraction with
    | none => simp [hfraction, pointText] at hpoint
    | some digits =>
      rw [hfraction, pointText, List.mem_cons] at hpoint
      rcases hpoint with rfl | hdigit
      · decide
      · exact isBlank_of_isDigit (numeral.isDigit_fraction digits hfraction c hdigit)
  · cases hsome : numeral.exponent with
    | none => simp [hsome, exponentText] at hexponent
    | some exponent =>
      simp only [hsome, exponentText, List.mem_cons] at hexponent
      rcases hexponent with rfl | rfl | hdigit
      · decide
      · split <;> decide
      · exact isBlank_of_isDigit (isDigit_of_mem_decimalText c hdigit)

lemma trimBlanks_of_forall {text : List Char} (h : ∀ c ∈ text, isBlank c = false) :
    trimBlanks text = text := by
  have hdrop (chars : List Char) (hchars : ∀ c ∈ chars, isBlank c = false) :
      chars.dropWhile isBlank = chars :=
    dropWhile_append_of_head (List.forall_mem_nil _) fun c hc =>
      hchars c (List.mem_of_mem_head? hc)
  have hreverse : ∀ c ∈ text.reverse, isBlank c = false := fun c hc => h c (List.mem_reverse.1 hc)
  rw [trimBlanks, hdrop text h, hdrop text.reverse hreverse, List.reverse_reverse]

lemma exists_text_eq_cons : ∃ c rest, c.isDigit ∧ numeral.text = c :: rest := by
  obtain ⟨c, digits, hwhole⟩ := List.exists_cons_of_ne_nil numeral.whole_ne_nil
  have htext : numeral.text = c :: (digits ++ (pointText numeral.fraction ++
      exponentText numeral.exponent)) := by
    rw [text, hwhole, List.cons_append]
  exact ⟨c, _, numeral.isDigit_whole c (hwhole ▸ List.mem_cons_self), htext⟩

lemma toLower_of_isDigit {c : Char} (h : c.isDigit) : c.toLower = c := by
  have hrange : c.val ≤ 57 := by
    simp [Char.isDigit] at h
    exact h.2
  unfold Char.toLower
  split
  · next hupper =>
    exact absurd (UInt32.le_trans hupper.1 hrange) (by decide)
  · rfl

/-- None of the words starts with a digit. -/
lemma ofWord?_text (negative : Bool) : Extended.ofWord? negative numeral.text = none := by
  obtain ⟨c, rest, hc, htext⟩ := numeral.exists_text_eq_cons
  have hne {word : String} (hword : String.ofList ((c :: rest).map Char.toLower) = word) :
      ∀ first ∈ word.toList.head?, first.isDigit := by
    intro first hfirst
    rw [← hword, String.toList_ofList, List.map_cons, toLower_of_isDigit hc] at hfirst
    exact Option.some.inj hfirst ▸ hc
  rw [htext, Extended.ofWord?]
  split
  · next hword => exact absurd (hne hword 'i' rfl) (by decide)
  · next hword => exact absurd (hne hword 'i' rfl) (by decide)
  · next hword => exact absurd (hne hword 'n' rfl) (by decide)
  · rfl

lemma takeSign_text : takeSign numeral.text = (false, numeral.text) :=
  takeSign_of_isDigit numeral.whole_ne_nil numeral.isDigit_whole _

/-- A numeral, with or without a minus sign, is the text of the number that it denotes. -/
lemma ofText?_text (negative : Bool) :
    Extended.ofText? (if negative then '-' :: numeral.text else numeral.text)
      = some (numeral.value.toExtended negative) := by
  have hblank := numeral.isBlank_of_mem_text
  have hsign : takeSign (trimBlanks (if negative then '-' :: numeral.text else numeral.text)) =
      (negative, numeral.text) := by
    cases negative with
    | false =>
      rw [if_neg Bool.false_ne_true, trimBlanks_of_forall hblank, takeSign_text]
    | true =>
      rw [if_pos rfl, trimBlanks_of_forall (List.forall_mem_cons.2 ⟨by decide, hblank⟩)]
      rfl
  unfold Extended.ofText?
  simp only [hsign, numeral.ofWord?_text, numeral.read?_text]

end Numeral

/-! ## Zeros -/

lemma digitsValue_append_zeros (digits : List Char) (n : Nat) :
    digitsValue (digits ++ List.replicate n '0') = digitsValue digits * powerOfTen n := by
  rw [digitsValue, Nat.ofDigitChars_append, Nat.ofDigitChars_replicate_zero, Nat.mul_comm]
  rfl

lemma digitsValue_zeros_append (n : Nat) (digits : List Char) :
    digitsValue (List.replicate n '0' ++ digits) = digitsValue digits := by
  rw [digitsValue, Nat.ofDigitChars_append, Nat.ofDigitChars_replicate_zero, Nat.mul_zero]
  rfl

/-- What is dropped at the end of a run of digits are zeros. -/
lemma exists_eq_dropFinalZeros_append (digits : List Char) :
    ∃ n, digits = dropFinalZeros digits ++ List.replicate n '0' := by
  have hzeros : ∀ c ∈ digits.reverse.takeWhile (· == '0'), c = '0' :=
    fun c hc => by simpa using List.mem_takeWhile_imp hc
  refine ⟨(digits.reverse.takeWhile (· == '0')).length, ?_⟩
  calc digits
      = (digits.reverse.takeWhile (· == '0') ++ digits.reverse.dropWhile (· == '0')).reverse := by
        rw [List.takeWhile_append_dropWhile, List.reverse_reverse]
    _ = dropFinalZeros digits ++ (digits.reverse.takeWhile (· == '0')).reverse := by
        rw [List.reverse_append, dropFinalZeros]
    _ = dropFinalZeros digits ++
          List.replicate (digits.reverse.takeWhile (· == '0')).length '0' := by
        rw [← List.reverse_replicate, ← List.eq_replicate_of_mem hzeros]

lemma isDigit_of_mem_dropFinalZeros {digits : List Char} (h : ∀ c ∈ digits, c.isDigit) :
    ∀ c ∈ dropFinalZeros digits, c.isDigit := by
  obtain ⟨n, hsplit⟩ := exists_eq_dropFinalZeros_append digits
  intro c hc
  exact h c (hsplit ▸ List.mem_append_left _ hc)

lemma dropFinalZeros_decimalText_ne_nil {n : Nat} (hn : n ≠ 0) :
    dropFinalZeros (decimalText n) ≠ [] := by
  intro hnil
  obtain ⟨k, hsplit⟩ := exists_eq_dropFinalZeros_append (decimalText n)
  have hvalue := digitsValue_decimalText n
  rw [hsplit, hnil, digitsValue_append_zeros] at hvalue
  exact hn (hvalue.symm.trans (Nat.zero_mul _))

/-! ## The layout of digits -/

/-- Digits on both sides of a point are a numeral. -/
lemma exists_numeral_pointed {whole fraction : List Char} (hne : whole ≠ [])
    (hwhole : ∀ c ∈ whole, c.isDigit) (hfraction : ∀ c ∈ fraction, c.isDigit) :
    ∃ numeral : Numeral, numeral.text = whole ++ '.' :: fraction ∧
      numeral.value = ⟨digitsValue (whole ++ fraction), -fraction.length⟩ := by
  let numeral : Numeral := ⟨whole, some fraction, none, hne, hwhole,
    fun _ hsome => Option.some.inj hsome ▸ hfraction⟩
  refine ⟨numeral, ?_, ?_⟩
  · exact congrArg (whole ++ ·) (List.append_nil _)
  · simp [numeral, Numeral.value, Decimal.ofParts]

section LayOut

variable {digits : List Char} {leading : Int}

lemma isDigit_of_mem_zeros (n : Nat) : ∀ c ∈ List.replicate n '0', c.isDigit := by
  intro c hc
  rw [List.eq_of_mem_replicate hc]
  decide

/-- One digit in front of the point, and an exponent. -/
lemma exists_numeral_scientific (hne : digits ≠ []) (hdigits : ∀ c ∈ digits, c.isDigit)
    (hleading : leading < -5 ∨ 15 < leading) :
    ∃ numeral : Numeral, numeral.text = layOut digits leading ∧
      numeral.value = ⟨digitsValue digits, leading + 1 - digits.length⟩ := by
  obtain ⟨c, fraction, rfl⟩ := List.exists_cons_of_ne_nil hne
  obtain ⟨hc, hfraction⟩ := List.forall_mem_cons.1 hdigits
  have hwhole : ∀ d ∈ [c], d.isDigit := List.forall_mem_singleton.2 hc
  unfold layOut
  rw [if_pos hleading]
  cases fraction with
  | nil =>
    let numeral : Numeral := ⟨[c], none, some leading, List.cons_ne_nil c [], hwhole, nofun⟩
    refine ⟨numeral, rfl, ?_⟩
    simp [numeral, Numeral.value, Decimal.ofParts]
  | cons d fraction =>
    let numeral : Numeral := ⟨[c], some (d :: fraction), some leading, List.cons_ne_nil c [],
      hwhole, fun _ hsome => Option.some.inj hsome ▸ hfraction⟩
    refine ⟨numeral, rfl, ?_⟩
    simp [numeral, Numeral.value, Decimal.ofParts]

/-- Zeros between the point and the digits. -/
lemma exists_numeral_small (hdigits : ∀ c ∈ digits, c.isDigit)
    (hleading : ¬(leading < -5 ∨ 15 < leading)) (hneg : leading < 0) :
    ∃ numeral : Numeral, numeral.text = layOut digits leading ∧
      numeral.value = ⟨digitsValue digits, leading + 1 - digits.length⟩ := by
  have hzeros := isDigit_of_mem_zeros (leading.natAbs - 1)
  obtain ⟨numeral, htext, hvalue⟩ := exists_numeral_pointed (List.cons_ne_nil '0' [])
    (isDigit_of_mem_zeros 1) (List.forall_mem_append.2 ⟨hzeros, hdigits⟩)
  refine ⟨numeral, ?_, ?_⟩
  · unfold layOut
    rw [htext, if_neg hleading, if_pos hneg]
    rfl
  · have hall := digitsValue_zeros_append (1 + (leading.natAbs - 1)) digits
    rw [List.replicate_add, List.append_assoc] at hall
    have hexponent : -((List.replicate (leading.natAbs - 1) '0' ++ digits).length : Int) =
        leading + 1 - digits.length := by
      rw [List.length_append, List.length_replicate]
      omega
    rw [hvalue, hexponent]
    exact congrArg (Decimal.mk · _) hall

/-- The point stands among the digits. -/
lemma exists_numeral_among (hdigits : ∀ c ∈ digits, c.isDigit)
    (hleading : ¬(leading < -5 ∨ 15 < leading)) (hneg : ¬leading < 0)
    (hlength : leading.toNat + 1 < digits.length) :
    ∃ numeral : Numeral, numeral.text = layOut digits leading ∧
      numeral.value = ⟨digitsValue digits, leading + 1 - digits.length⟩ := by
  have hwhole : digits.take (leading.toNat + 1) ≠ [] := by
    rw [← List.length_pos_iff, List.length_take]
    omega
  have hfraction : digits.drop (leading.toNat + 1) ≠ [] := by
    rw [← List.length_pos_iff, List.length_drop]
    omega
  have hbefore : ∀ c ∈ digits.take (leading.toNat + 1), c.isDigit :=
    fun c hc => hdigits c (List.mem_of_mem_take hc)
  have hbehind : ∀ c ∈ digits.drop (leading.toNat + 1), c.isDigit :=
    fun c hc => hdigits c (List.mem_of_mem_drop hc)
  obtain ⟨numeral, htext, hvalue⟩ := exists_numeral_pointed hwhole hbefore hbehind
  refine ⟨numeral, ?_, ?_⟩
  · have hnone : leading.toNat + 1 - digits.length = 0 := by omega
    unfold layOut
    rw [htext, if_neg hleading, if_neg hneg]
    simp [hnone, hfraction]
  · have hexponent : -((digits.drop (leading.toNat + 1)).length : Int) =
        leading + 1 - digits.length := by
      rw [List.length_drop]
      omega
    rw [hvalue, List.take_append_drop, hexponent]

/-- Zeros between the digits and the point, and one behind it. -/
lemma exists_numeral_great (hne : digits ≠ []) (hdigits : ∀ c ∈ digits, c.isDigit)
    (hleading : ¬(leading < -5 ∨ 15 < leading)) (hneg : ¬leading < 0)
    (hlength : digits.length ≤ leading.toNat + 1) :
    ∃ numeral : Numeral, numeral.text = layOut digits leading ∧
      numeral.value = Decimal.scale ⟨digitsValue digits, leading + 1 - digits.length⟩
        (leading.toNat + 1 - digits.length + 1) := by
  have hzeros := isDigit_of_mem_zeros (leading.toNat + 1 - digits.length)
  obtain ⟨numeral, htext, hvalue⟩ := exists_numeral_pointed
    (List.append_ne_nil_of_left_ne_nil hne _) (List.forall_mem_append.2 ⟨hdigits, hzeros⟩)
    (isDigit_of_mem_zeros 1)
  refine ⟨numeral, ?_, ?_⟩
  · have hdrop : digits.drop (leading.toNat + 1) = [] := List.drop_eq_nil_of_le hlength
    unfold layOut
    rw [htext, if_neg hleading, if_neg hneg]
    simp [hdrop, List.take_of_length_le hlength]
  · have hexponent : -((List.replicate 1 '0').length : Int) =
        leading + 1 - digits.length - (leading.toNat + 1 - digits.length + 1 : Nat) := by
      rw [List.length_replicate]
      omega
    rw [hvalue, List.append_assoc, ← List.replicate_add, digitsValue_append_zeros, hexponent]
    rfl

/-- However digits are laid out, they make a numeral, and it denotes the digits from the first one's
power of ten on. -/
lemma exists_numeral_layOut (hne : digits ≠ []) (hdigits : ∀ c ∈ digits, c.isDigit)
    (leading : Int) : ∃ (numeral : Numeral) (n : Nat), numeral.text = layOut digits leading ∧
      numeral.value = Decimal.scale ⟨digitsValue digits, leading + 1 - digits.length⟩ n := by
  have hscale (d : Decimal) : d = d.scale 0 := by simp [Decimal.scale, powerOfTen_zero]
  by_cases hleading : leading < -5 ∨ 15 < leading
  · obtain ⟨numeral, htext, hvalue⟩ := exists_numeral_scientific hne hdigits hleading
    exact ⟨numeral, 0, htext, hvalue.trans (hscale _)⟩
  by_cases hneg : leading < 0
  · obtain ⟨numeral, htext, hvalue⟩ := exists_numeral_small hdigits hleading hneg
    exact ⟨numeral, 0, htext, hvalue.trans (hscale _)⟩
  by_cases hlength : leading.toNat + 1 < digits.length
  · obtain ⟨numeral, htext, hvalue⟩ := exists_numeral_among hdigits hleading hneg hlength
    exact ⟨numeral, 0, htext, hvalue.trans (hscale _)⟩
  · obtain ⟨numeral, htext, hvalue⟩ :=
      exists_numeral_great hne hdigits hleading hneg (Nat.le_of_not_lt hlength)
    exact ⟨numeral, _, htext, hvalue⟩

end LayOut

/-! ## Numbers -/

/-- A decimal without the zeros at the end of its digits, which its exponent makes up for. -/
lemma Decimal.toExtended_dropFinalZeros (negative : Bool) (d : Decimal) :
    toExtended negative ⟨digitsValue (dropFinalZeros (decimalText d.digits)),
        d.exponent + (decimalText d.digits).length - 1 + 1
          - (dropFinalZeros (decimalText d.digits)).length⟩
      = d.toExtended negative := by
  obtain ⟨n, hsplit⟩ := exists_eq_dropFinalZeros_append (decimalText d.digits)
  have hdigits : digitsValue (dropFinalZeros (decimalText d.digits)) * powerOfTen n = d.digits := by
    rw [← digitsValue_append_zeros, ← hsplit, digitsValue_decimalText]
  have hlength : (decimalText d.digits).length =
      (dropFinalZeros (decimalText d.digits)).length + n := by
    rw [← List.length_replicate (n := n) (a := '0'), ← List.length_append, ← hsplit]
  have hexponent : d.exponent + ((dropFinalZeros (decimalText d.digits)).length + n : Nat) - 1 + 1
      - (dropFinalZeros (decimalText d.digits)).length - n = d.exponent := by
    omega
  rw [← toExtended_scale negative _ n, scale]
  simp only [hdigits, hlength, hexponent]

namespace Binary64

/-- The text of a float, without its sign, is a numeral that is read as the float. -/
lemma exists_numeral (x : Binary64) :
    ∃ numeral : Numeral, x.text = (if x.negative then '-' :: numeral.text else numeral.text) ∧
      numeral.value.toExtended x.negative = .finite x := by
  obtain ⟨negative, units, hrep⟩ := x
  by_cases hzero : units = 0
  · subst hzero
    have hdigit := isDigit_of_mem_zeros 1
    obtain ⟨numeral, htext, hvalue⟩ :=
      exists_numeral_pointed (List.cons_ne_nil '0' []) hdigit hdigit
    refine ⟨numeral, ?_, ?_⟩
    · rw [htext]
      rfl
    · rw [hvalue]
      rfl
  · let shortest := Decimal.shortest units
    have hshortest : shortest.toExtended negative = .finite ⟨negative, units, hrep⟩ :=
      Decimal.toExtended_shortest negative hrep hzero
    have hdigits : shortest.digits ≠ 0 := by
      intro hdigits
      rw [Decimal.toExtended_eq, if_pos (Or.inl hdigits)] at hshortest
      exact hzero (congrArg Binary64.units (Extended.finite.inj hshortest)).symm
    obtain ⟨numeral, n, htext, hvalue⟩ := exists_numeral_layOut
      (dropFinalZeros_decimalText_ne_nil hdigits)
      (isDigit_of_mem_dropFinalZeros isDigit_of_mem_decimalText)
      (shortest.exponent + (decimalText shortest.digits).length - 1)
    refine ⟨numeral, ?_, ?_⟩
    · rw [htext, text, if_neg hzero]
    · rw [hvalue, Decimal.toExtended_scale, Decimal.toExtended_dropFinalZeros, hshortest]

/-- The text of a float spells it. -/
lemma ofText?_text (x : Binary64) : Extended.ofText? x.text = some (.finite x) := by
  obtain ⟨numeral, htext, hvalue⟩ := x.exists_numeral
  rw [htext, numeral.ofText?_text, hvalue]

end Binary64

/-- The text of an integer spells the value that the integer is rounded to. -/
lemma WordInt.ofText?_text (n : WordInt) :
    Extended.ofText? (integerText n.value) = some (.ofInt n.value) := by
  have htext : integerText n.value = if decide (n.value < 0) then
      '-' :: (Numeral.ofNat n.value.natAbs).text else (Numeral.ofNat n.value.natAbs).text := by
    simp only [integerText, Numeral.text_ofNat, decide_eq_true_eq]
  rw [htext, Numeral.ofText?_text, Numeral.value_ofNat, Decimal.toExtended_eq]
  by_cases hzero : n.value.natAbs = 0
  · have hnearest := Extended.nearest_eq_finite (decide (n.value < 0))
      (Binary64.zero false).representable (nearestUnits_zero Nat.one_pos)
    rw [if_pos (Or.inl hzero), Extended.ofInt, hzero, hnearest]
    rfl
  · have hlength : decimalLength n.value.natAbs ≤ 20 := by
      have hfits : -0x8000000000000000 ≤ n.value ∧ n.value < 2 * 0x8000000000000000 := n.fits
      have hlimit : powerOfTen 20 = 100000000000000000000 := by decide
      rw [decimalLength_le_iff (by decide), hlimit]
      omega
    have hmagnitude : Decimal.magnitude ⟨n.value.natAbs, 0⟩ = decimalLength n.value.natAbs :=
      Int.zero_add _
    rw [hmagnitude, if_neg (by simp [hzero]), if_neg (by omega)]
    exact congrArg some (congrArg (Extended.nearest _ · 1) (Nat.mul_one _))

/-- The text of a number spells it. -/
theorem Number.ofText?_text (n : Number) : Extended.ofText? n.text = some n.extended := by
  cases n with
  | integer n => exact n.ofText?_text
  | float x => exact x.ofText?_text

end PathQuery
