/-
# Reading with more text behind

A token reader that succeeds does not look further than it reads: put more text behind, and it
returns the same and leaves the additional text as well.  Tokens with an end of their own, such as
quoted names and indexers, are read alike whatever comes behind.  Numbers, flags of patterns and
comparators have no such end; for these something has to be left behind already, so that the
additional text is not next to them.
-/
import PathQuery.Proofs.Path.Tokens

namespace PathQuery

/-! ## Runs of characters -/

section Run

variable {p : Char → Bool} {text : List Char}

lemma dropWhile_append_of_ne_nil (h : text.dropWhile p ≠ []) (more : List Char) :
    (text ++ more).dropWhile p = text.dropWhile p ++ more := by
  rw [List.dropWhile_append, if_neg (by simpa using h)]

lemma takeWhile_append_of_dropWhile_ne_nil (h : text.dropWhile p ≠ []) (more : List Char) :
    (text ++ more).takeWhile p = text.takeWhile p := by
  rw [List.takeWhile_append, if_neg]
  intro hlength
  -- a run as long as the text leaves nothing behind
  have hsplit := congrArg List.length (List.takeWhile_append_dropWhile (p := p) (l := text))
  rw [List.length_append, hlength] at hsplit
  exact h (List.eq_nil_of_length_eq_zero (by omega))

end Run

lemma skipSpaces_append {text : List Char} (h : skipSpaces text ≠ []) (more : List Char) :
    skipSpaces (text ++ more) = skipSpaces text ++ more :=
  dropWhile_append_of_ne_nil h more

lemma skipSpaces_append_of_eq_cons {text rest : List Char} {c : Char}
    (h : skipSpaces text = c :: rest) (more : List Char) :
    skipSpaces (text ++ more) = c :: (rest ++ more) := by
  rw [skipSpaces_append (by simp [h]), h, List.cons_append]

/-! ## Quoted names -/

lemma Quoted.take_append {text content rest : List Char} (h : take text = .ok (content, rest))
    (more : List Char) : take (text ++ more) = .ok (content, rest ++ more) := by
  fun_induction take text generalizing content with
  | case1 => simp at h
  | case2 tail =>
    obtain ⟨rfl, rfl⟩ := Prod.mk.inj (Except.ok.inj h)
    rfl
  | case3 c tail hc ih =>
    obtain ⟨⟨inner, after⟩, hinner, hsame⟩ := map_eq_ok.1 h
    obtain ⟨rfl, rfl⟩ := Prod.mk.inj hsame
    rw [List.cons_append, List.cons_append, take, if_pos hc, ih hinner]
    rfl
  | case4 => simp at h
  | case5 c tail hquote hescape ih =>
    obtain ⟨⟨inner, after⟩, hinner, hsame⟩ := map_eq_ok.1 h
    obtain ⟨rfl, rfl⟩ := Prod.mk.inj hsame
    -- a backslash at the end of the text would have left the quoted text open
    have hbackslash : c ≠ '\\' := by
      rintro rfl
      cases tail with
      | nil => simp [take] at hinner
      | cons d tail => exact hescape d tail rfl rfl
    rw [List.cons_append, take, ih hinner]
    · rfl
    · exact hquote
    · exact fun _ _ heq => absurd heq hbackslash

/-! ## Indexers -/

namespace Indexer

lemma takeNames_append {text rest : List Char} {names : List String}
    (h : takeNames text = .ok (names, rest)) (more : List Char) :
    takeNames (text ++ more) = .ok (names, rest ++ more) := by
  fun_induction takeNames text generalizing names with
  | case3 text name tail hquoted last hafter =>
    obtain ⟨rfl, rfl⟩ := Prod.mk.inj (Except.ok.inj h)
    rw [takeNames_eq, Quoted.take_append hquoted]
    simp only [Except.bind, skipSpaces_append_of_eq_cons hafter]
  | case5 text name tail hquoted list hafter next hnext _ _ _ ih =>
    obtain ⟨⟨others, last⟩, hothers, hsame⟩ := bind_eq_ok.1 h
    obtain ⟨rfl, rfl⟩ := Prod.mk.inj (Except.ok.inj hsame)
    rw [takeNames_eq, Quoted.take_append hquoted]
    simp only [Except.bind, skipSpaces_append_of_eq_cons hafter,
      skipSpaces_append_of_eq_cons hnext, ih hothers]
    rfl
  | _ => simp_all

lemma takeSlot_append {text slot rest : List Char} {c : Char}
    (h : takeSlot text = (slot, c :: rest)) (more : List Char) :
    takeSlot (text ++ more) = (slot, c :: (rest ++ more)) := by
  obtain ⟨hslot, hrest⟩ := Prod.mk.inj h
  have hne : text.dropWhile isIndexChar ≠ [] := by
    intro hnil
    rw [hnil] at hrest
    exact absurd hrest (List.cons_ne_nil c rest).symm
  rw [takeSlot, takeWhile_append_of_dropWhile_ne_nil hne, dropWhile_append_of_ne_nil hne, hslot,
    skipSpaces_append_of_eq_cons hrest]

lemma takeIndexes_append {text rest : List Char} {is : List Int}
    (h : takeIndexes text = .ok (is, rest)) (more : List Char) :
    takeIndexes (text ++ more) = .ok (is, rest ++ more) := by
  fun_induction takeIndexes text generalizing is with
  | case2 text last hafter =>
    obtain ⟨i, hi, hsame⟩ := bind_eq_ok.1 h
    obtain ⟨rfl, rfl⟩ := Prod.mk.inj (Except.ok.inj hsame)
    rw [takeIndexes_eq, takeSlot_append (Prod.ext rfl hafter)]
    simp only [hi]
    rfl
  | case3 text list hafter _ _ ih =>
    obtain ⟨i, hi, h⟩ := bind_eq_ok.1 h
    obtain ⟨⟨others, last⟩, hothers, hsame⟩ := bind_eq_ok.1 h
    obtain ⟨rfl, rfl⟩ := Prod.mk.inj (Except.ok.inj hsame)
    have hne : skipSpaces list ≠ [] :=
      List.ne_nil_of_length_pos (Nat.zero_lt_of_lt (length_of_takeIndexes_eq_ok hothers))
    rw [takeIndexes_eq, takeSlot_append (Prod.ext rfl hafter)]
    simp only [hi, skipSpaces_append hne, bind, Except.bind, ih hothers]
  | _ => simp_all

lemma takeStride_append {start stop : Option Int} {text rest : List Char} {step : Step}
    (h : takeStride start stop text = .ok (step, rest)) (more : List Char) :
    takeStride start stop (text ++ more) = .ok (step, rest ++ more) := by
  unfold takeStride at h
  split at h
  · simp at h
  · next slot last hslot =>
    obtain ⟨stride, hstride, hsame⟩ := bind_eq_ok.1 h
    obtain ⟨rfl, rfl⟩ := Prod.mk.inj (Except.ok.inj hsame)
    rw [takeStride, takeSlot_append hslot]
    simp only [hstride]
    rfl
  · simp at h

lemma takeStop_append {start : Option Int} {text rest : List Char} {step : Step}
    (h : takeStop start text = .ok (step, rest)) (more : List Char) :
    takeStop start (text ++ more) = .ok (step, rest ++ more) := by
  unfold takeStop at h
  split at h
  · simp at h
  · next slot last hslot =>
    obtain ⟨stop, hstop, hsame⟩ := bind_eq_ok.1 h
    obtain ⟨rfl, rfl⟩ := Prod.mk.inj (Except.ok.inj hsame)
    rw [takeStop, takeSlot_append hslot]
    simp only [hstop]
    rfl
  · next slot last hslot =>
    obtain ⟨stop, hstop, hstride⟩ := bind_eq_ok.1 h
    have hne : skipSpaces last ≠ [] :=
      List.ne_nil_of_length_pos (Nat.zero_lt_of_lt (length_of_takeStride_eq_ok hstride))
    rw [takeStop, takeSlot_append hslot]
    simp only [hstop, skipSpaces_append hne]
    exact takeStride_append hstride more
  · simp at h

lemma takeElements_append {text rest : List Char} {step : Step}
    (h : takeElements text = .ok (step, rest)) (more : List Char) :
    takeElements (text ++ more) = .ok (step, rest ++ more) := by
  unfold takeElements at h
  split at h
  · simp at h
  · next slot last hslot =>
    obtain ⟨i, hi, hsame⟩ := bind_eq_ok.1 h
    obtain ⟨rfl, rfl⟩ := Prod.mk.inj (Except.ok.inj hsame)
    rw [takeElements, takeSlot_append hslot]
    simp only [hi]
    rfl
  · next slot list hslot =>
    obtain ⟨i, hi, h⟩ := bind_eq_ok.1 h
    obtain ⟨⟨is, last⟩, his, hsame⟩ := bind_eq_ok.1 h
    obtain ⟨rfl, rfl⟩ := Prod.mk.inj (Except.ok.inj hsame)
    have hne : skipSpaces list ≠ [] :=
      List.ne_nil_of_length_pos (Nat.zero_lt_of_lt (length_of_takeIndexes_eq_ok his))
    rw [takeElements, takeSlot_append hslot]
    simp only [hi, skipSpaces_append hne, bind, Except.bind, takeIndexes_append his]
  · next slot last hslot =>
    obtain ⟨start, hstart, hstop⟩ := bind_eq_ok.1 h
    have hne : skipSpaces last ≠ [] :=
      List.ne_nil_of_length_pos (Nat.zero_lt_of_lt (length_of_takeStop_eq_ok hstop))
    rw [takeElements, takeSlot_append hslot]
    simp only [hstart, skipSpaces_append hne]
    exact takeStop_append hstop more
  · next last hslot =>
    split at h
    · simp at h
    · next tail hclosed =>
      obtain ⟨rfl, rfl⟩ := Prod.mk.inj (Except.ok.inj h)
      rw [takeElements, takeSlot_append hslot]
      simp only [skipSpaces_append_of_eq_cons hclosed]
    · simp at h
  · simp at h

lemma take_append {text rest : List Char} {indexer : Indexer}
    (h : take text = .ok (indexer, rest)) (more : List Char) :
    take (text ++ more) = .ok (indexer, rest ++ more) := by
  unfold take at h
  split at h
  · simp at h
  · next tail hquote =>
    obtain ⟨⟨names, last⟩, hnames, hsame⟩ := bind_eq_ok.1 h
    obtain ⟨rfl, rfl⟩ := Prod.mk.inj (Except.ok.inj hsame)
    rw [take, skipSpaces_append_of_eq_cons hquote]
    simp only [takeNames_append hnames]
    rfl
  · next tail hmark =>
    split at h
    · simp at h
    · next last hopened =>
      obtain ⟨rfl, rfl⟩ := Prod.mk.inj (Except.ok.inj h)
      rw [take, skipSpaces_append_of_eq_cons hmark]
      simp only [skipSpaces_append_of_eq_cons hopened]
    · simp at h
  · next hnil hquote hmark =>
    obtain ⟨⟨step, last⟩, hstep, hsame⟩ := bind_eq_ok.1 h
    obtain ⟨rfl, rfl⟩ := Prod.mk.inj (Except.ok.inj hsame)
    obtain ⟨c, tail, htext⟩ := List.exists_cons_of_ne_nil hnil
    have hskip := skipSpaces_append_of_eq_cons htext more
    rw [take_eq_takeElements, hskip, ← List.cons_append, ← htext, takeElements_append hstep]
    · rfl
    · rw [hskip]
      exact List.cons_ne_nil _ _
    · rw [hskip]
      rintro d hd
      obtain rfl : c = d := Option.some.inj hd
      exact ⟨fun hc => hquote tail (hc ▸ htext), fun hc => hmark tail (hc ▸ htext)⟩

end Indexer

/-! ## Numbers -/

lemma takeDigits_append_of_ne_nil {text : List Char} (h : (takeDigits text).2 ≠ [])
    (more : List Char) :
    takeDigits (text ++ more) = ((takeDigits text).1, (takeDigits text).2 ++ more) := by
  rw [takeDigits, takeWhile_append_of_dropWhile_ne_nil h, dropWhile_append_of_ne_nil h]
  rfl

lemma takeSign_append {text : List Char} (h : text ≠ []) (more : List Char) :
    takeSign (text ++ more) = ((takeSign text).1, (takeSign text).2 ++ more) := by
  obtain ⟨c, tail, rfl⟩ := List.exists_cons_of_ne_nil h
  by_cases hminus : c = '-'
  · subst hminus
    rfl
  · by_cases hplus : c = '+'
    · subst hplus
      rfl
    · simp [takeSign, hminus, hplus]

lemma takeFraction_append {text : List Char} (h : (takeFraction text).2 ≠ []) (more : List Char) :
    takeFraction (text ++ more) = ((takeFraction text).1, (takeFraction text).2 ++ more) := by
  cases text with
  | nil => exact absurd rfl h
  | cons c tail =>
    by_cases hpoint : c = '.'
    · subst hpoint
      exact takeDigits_append_of_ne_nil h more
    · simp [takeFraction, hpoint]

lemma takeExponent?_cons {c : Char} (hc : c = 'e' ∨ c = 'E') (tail : List Char) :
    takeExponent? (c :: tail)
      = let sign := takeSign tail
        let digits := takeDigits sign.2
        if digits.1 = [] then none
        else some (if sign.1 then -(digitsValue digits.1 : Int) else digitsValue digits.1,
          digits.2) := by
  rcases hc with rfl | rfl <;> simp [takeExponent?, List.isEmpty_iff]

lemma takeExponent?_cons_of_ne {c : Char} (hc : ¬(c = 'e' ∨ c = 'E')) (tail : List Char) :
    takeExponent? (c :: tail) = some (0, c :: tail) := by
  rw [not_or] at hc
  simp [takeExponent?, hc]

lemma takeExponent?_append {text rest : List Char} {exponent : Int}
    (h : takeExponent? text = some (exponent, rest)) (hrest : rest ≠ []) (more : List Char) :
    takeExponent? (text ++ more) = some (exponent, rest ++ more) := by
  cases text with
  | nil =>
    obtain ⟨-, rfl⟩ := Prod.mk.inj (Option.some.inj h)
    exact absurd rfl hrest
  | cons c tail =>
    by_cases hc : c = 'e' ∨ c = 'E'
    · rw [takeExponent?_cons hc] at h
      simp only [Option.ite_none_left_eq_some, Option.some.injEq, Prod.mk.injEq] at h
      obtain ⟨hdigits, hexponent, rfl⟩ := h
      have hne : tail ≠ [] := by
        rintro rfl
        exact hdigits rfl
      rw [List.cons_append, takeExponent?_cons hc, takeSign_append hne]
      simp only [takeDigits_append_of_ne_nil hrest, if_neg hdigits, hexponent]
    · rw [takeExponent?_cons_of_ne hc] at h
      obtain ⟨rfl, rfl⟩ := Prod.mk.inj (Option.some.inj h)
      rw [List.cons_append, takeExponent?_cons_of_ne hc]

/-- If a number leaves something behind, then so does each part of it. -/
lemma ne_nil_of_takeExponent? {text rest : List Char} {exponent : Int}
    (h : takeExponent? text = some (exponent, rest)) (hrest : rest ≠ []) : text ≠ [] := by
  rintro rfl
  obtain ⟨-, rfl⟩ := Prod.mk.inj (Option.some.inj h)
  exact hrest rfl

lemma ne_nil_of_takeFraction {text : List Char} (h : (takeFraction text).2 ≠ []) : text ≠ [] := by
  rintro rfl
  exact h rfl

lemma Decimal.read?_append {text rest : List Char} {decimal : Decimal}
    (h : Decimal.read? text = some (decimal, rest)) (hrest : rest ≠ []) (more : List Char) :
    Decimal.read? (text ++ more) = some (decimal, rest ++ more) ∧ (takeDigits text).2 ≠ [] := by
  simp only [Decimal.read?, Option.ite_none_left_eq_some, Option.map_eq_some_iff] at h
  obtain ⟨hdigits, ⟨exponent, last⟩, hexponent, hsame⟩ := h
  obtain ⟨rfl, rfl⟩ := Prod.mk.inj hsame
  have hfraction := ne_nil_of_takeExponent? hexponent hrest
  have hwhole := ne_nil_of_takeFraction hfraction
  refine ⟨?_, hwhole⟩
  simp only [Decimal.read?, takeDigits_append_of_ne_nil hwhole, takeFraction_append hfraction,
    takeExponent?_append hexponent hrest, if_neg hdigits, Option.map_some]

/-! ## Literals -/

namespace Literal

lemma takeBody_append_of_eq_ok {text body rest : List Char} (h : takeBody text = .ok (body, rest))
    (more : List Char) : takeBody (text ++ more) = .ok (body, rest ++ more) := by
  fun_induction takeBody text generalizing body with
  | case1 => simp at h
  | case2 tail =>
    obtain ⟨rfl, rfl⟩ := Prod.mk.inj (Except.ok.inj h)
    rfl
  | case3 c tail ih =>
    obtain ⟨⟨inner, after⟩, hinner, hsame⟩ := map_eq_ok.1 h
    obtain ⟨rfl, rfl⟩ := Prod.mk.inj hsame
    rw [List.cons_append, List.cons_append, takeBody, ih hinner]
    rfl
  | case4 c tail hslash hescape ih =>
    obtain ⟨⟨inner, after⟩, hinner, hsame⟩ := map_eq_ok.1 h
    obtain ⟨rfl, rfl⟩ := Prod.mk.inj hsame
    -- a backslash at the end of the text would have left the pattern open
    have hbackslash : c ≠ '\\' := by
      rintro rfl
      cases tail with
      | nil => simp [takeBody] at hinner
      | cons d tail => exact hescape d tail rfl rfl
    rw [List.cons_append, takeBody, ih hinner]
    · rfl
    · exact hslash
    · exact fun _ _ heq => absurd heq hbackslash

lemma takePattern_append {text rest : List Char} {value : Json}
    (h : takePattern text = .ok (value, rest)) (hrest : rest ≠ []) (more : List Char) :
    takePattern (text ++ more) = .ok (value, rest ++ more) := by
  obtain ⟨⟨body, flags⟩, hbody, hsame⟩ := map_eq_ok.1 h
  obtain ⟨rfl, rfl⟩ := Prod.mk.inj hsame
  rw [takePattern, takeBody_append_of_eq_ok hbody]
  simp only [Except.map, takeWhile_append_of_dropWhile_ne_nil hrest,
    dropWhile_append_of_ne_nil hrest]

lemma takeInteger?_append {text : List Char} (h : (takeDigits (takeSign text).2).2 ≠ [])
    (more : List Char) :
    takeInteger? (text ++ more)
      = (takeInteger? text).map fun found => (found.1, found.2 ++ more) := by
  have hne : text ≠ [] := by
    rintro rfl
    exact h rfl
  obtain ⟨c, tail, hrest⟩ := List.exists_cons_of_ne_nil h
  have hcontinues : continuesNumber (c :: (tail ++ more)) = continuesNumber (c :: tail) := by
    unfold continuesNumber
    split <;> simp_all
  simp only [takeInteger?, takeSign_append hne, takeDigits_append_of_ne_nil h, hrest,
    List.cons_append, hcontinues]
  split
  · rfl
  · simp [Option.map_map, Function.comp_def]

lemma eq_of_takeInteger?_eq_some {text rest : List Char} {value : Json}
    (h : takeInteger? text = some (value, rest)) : (takeDigits (takeSign text).2).2 = rest := by
  simp only [takeInteger?, Option.ite_none_left_eq_some, Option.map_eq_some_iff] at h
  obtain ⟨-, n, -, hsame⟩ := h
  exact (Prod.mk.inj hsame).2

lemma takeFloat?_append {text rest : List Char} {value : Json}
    (h : takeFloat? text = some (value, rest)) (hrest : rest ≠ []) (more : List Char) :
    takeFloat? (text ++ more) = some (value, rest ++ more) ∧
      (takeDigits (takeSign text).2).2 ≠ [] := by
  obtain ⟨⟨decimal, last⟩, hdecimal, hsame⟩ := Option.map_eq_some_iff.1 h
  obtain ⟨rfl, rfl⟩ := Prod.mk.inj hsame
  obtain ⟨hread, hdigits⟩ := Decimal.read?_append hdecimal hrest more
  have hne : text ≠ [] := by
    rintro rfl
    exact hdigits rfl
  refine ⟨?_, hdigits⟩
  simp only [takeFloat?, takeSign_append hne, hread, Option.map_some]

lemma takeScalar?_append_of_takeWord? {text rest : List Char} {value : Json}
    (h : takeWord? text = some (value, rest)) (more : List Char) :
    takeScalar? (text ++ more) = some (value, rest ++ more) := by
  unfold takeWord? at h
  split at h
  all_goals simp only [Option.some.injEq, Prod.mk.injEq, reduceCtorEq] at h
  all_goals obtain ⟨rfl, rfl⟩ := h
  all_goals rfl

lemma takeScalar?_append {text rest : List Char} {value : Json}
    (h : takeScalar? text = some (value, rest)) (hrest : rest ≠ []) (more : List Char) :
    takeScalar? (text ++ more) = some (value, rest ++ more) := by
  rcases Option.or_eq_some_iff.1 h with hinteger | ⟨hinteger, h⟩
  · have hdigits : (takeDigits (takeSign text).2).2 ≠ [] := by
      rwa [eq_of_takeInteger?_eq_some hinteger]
    rw [takeScalar?, takeInteger?_append hdigits, hinteger]
    rfl
  · rcases Option.or_eq_some_iff.1 h with hfloat | ⟨-, hword⟩
    -- the digits end before the text does, so there is no integer with more text behind either
    · obtain ⟨hread, hdigits⟩ := takeFloat?_append hfloat hrest more
      rw [takeScalar?, takeInteger?_append hdigits, hinteger, hread]
      rfl
    · exact takeScalar?_append_of_takeWord? hword more

/-- A literal that leaves something behind is read alike with more text behind. -/
lemma take_append {text rest : List Char} {value : Json} (h : take text = .ok (value, rest))
    (hrest : rest ≠ []) (more : List Char) : take (text ++ more) = .ok (value, rest ++ more) := by
  unfold take at h
  split at h
  · simp at h
  · next tail =>
    obtain ⟨⟨content, last⟩, hcontent, hsame⟩ := map_eq_ok.1 h
    obtain ⟨rfl, rfl⟩ := Prod.mk.inj hsame
    rw [List.cons_append, take, Quoted.take_append hcontent]
    rfl
  · next tail => exact takePattern_append h hrest more
  · next c tail hquote hslash =>
    split at h
    · next found hfound =>
      obtain rfl := Except.ok.inj h
      exact take_of_takeScalar? (fun hc => hquote hc) (fun hc => hslash hc)
        (takeScalar?_append hfound hrest more)
    · simp at h

end Literal

/-! ## Comparators -/

lemma Comparator.take_append {text rest : List Char} {comparator : Comparator}
    (h : Comparator.take text = .ok (comparator, rest)) (hrest : rest ≠ []) (more : List Char) :
    Comparator.take (text ++ more) = .ok (comparator, rest ++ more) := by
  obtain ⟨c, tail, rfl⟩ := List.exists_cons_of_ne_nil hrest
  unfold Comparator.take at h
  split at h <;> simp_all [Comparator.take]

end PathQuery
