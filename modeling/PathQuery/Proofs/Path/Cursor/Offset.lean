/-
# Offsets of what is left to read

A cursor between two characters stands before the last characters of the text: `offset` is the
number of bytes before them.  At such an offset nothing goes out of range.  What is read there, and
where the cursor moves, is said by the characters that are left.  A token reader leaves over last
characters of what it is given, so the cursor can be put behind the token.
-/
import PathQuery.Path.Cursor
import PathQuery.Proofs.Path.Extension
import Mathlib.Data.String.Basic

namespace PathQuery

namespace Path.Cursor

open String (utf8Len)

@[simp] lemma ok_bind {ε α β : Type} (a : α) (f : α → Except ε β) : (Except.ok a >>= f) = f a := rfl

@[simp] lemma pure_eq_ok {ε α : Type} (a : α) : (pure a : Except ε α) = .ok a := rfl

@[simp] lemma error_bind {ε α β : Type} (e : ε) (f : α → Except ε β) :
    (Except.error e >>= f) = .error e := rfl

/-- The offset before the last characters of a text. -/
def offset (text : String) (after : List Char) : Offset :=
  ⟨text.utf8ByteSize - utf8Len after⟩

variable {text : String} {after later word : List Char} {c : Char}

lemma exists_offset_eq (h : after <:+ text.toList) :
    ∃ front, text = String.ofList (front ++ after) ∧ offset text after = ⟨utf8Len front⟩ := by
  obtain ⟨front, hfront⟩ := h
  refine ⟨front, ?_, ?_⟩
  · rw [hfront, String.ofList_toList]
  · rw [offset, ← String.utf8Len_toList, ← hfront, String.utf8Len_append, Nat.add_sub_cancel]

/-- An offset before last characters lies between characters. -/
lemma isValid_offset (h : after <:+ text.toList) : (offset text after).IsValid text := by
  obtain ⟨front, htext, hoffset⟩ := exists_offset_eq h
  rw [String.Pos.Raw.isValid_iff_exists_append]
  refine ⟨String.ofList front, String.ofList after, ?_, ?_⟩
  · rw [htext, String.ofList_append]
  · rw [hoffset, String.rawEndPos_ofList]

lemma offset_nil (text : String) : offset text [] = text.rawEndPos := rfl

lemma offset_toList (text : String) : offset text text.toList = 0 := by
  rw [offset, String.utf8Len_toList, Nat.sub_self]
  rfl

/-! ## The order of offsets -/

lemma byteIdx_offset_append (h : word ++ after <:+ text.toList) :
    (offset text after).byteIdx = (offset text (word ++ after)).byteIdx + utf8Len word := by
  have hle := String.utf8Len_le_of_suffix h
  rw [String.utf8Len_append, String.utf8Len_toList] at hle
  simp only [offset, String.utf8Len_append]
  omega

/-- The less is left, the further the cursor has come. -/
lemma offset_lt (h : after <:+ text.toList) (hlater : later <:+ after)
    (hlength : later.length < after.length) : offset text after < offset text later := by
  obtain ⟨word, rfl⟩ := hlater
  have hword : utf8Len word ≠ 0 := by
    rw [ne_eq, String.utf8Len_eq_zero]
    rintro rfl
    exact absurd hlength (Nat.lt_irrefl _)
  rw [String.Pos.Raw.lt_iff, byteIdx_offset_append h]
  omega

lemma offset_le (h : after <:+ text.toList) (hlater : later <:+ after) :
    offset text after ≤ offset text later := by
  obtain ⟨word, rfl⟩ := hlater
  rw [String.Pos.Raw.le_iff, byteIdx_offset_append h]
  exact Nat.le_add_right _ _

lemma offset_lt_cons (h : c :: after <:+ text.toList) (hlater : later <:+ after) :
    offset text (c :: after) < offset text later :=
  offset_lt h (hlater.trans (List.suffix_cons c after)) (Nat.lt_succ_of_le hlater.length_le)

lemma offset_lt_append (h : word ++ after <:+ text.toList) (hne : word ≠ []) :
    offset text (word ++ after) < offset text after :=
  offset_lt h (List.suffix_append word after) (by simpa [List.length_pos_iff] using hne)

lemma rawEndPos_le_offset_iff (h : after <:+ text.toList) :
    text.rawEndPos ≤ offset text after ↔ after = [] := by
  have hend : (offset text []).byteIdx = (offset text (after ++ [])).byteIdx + utf8Len after :=
    byteIdx_offset_append (by simpa using h)
  rw [List.append_nil, offset_nil] at hend
  rw [String.Pos.Raw.le_iff, hend, ← String.utf8Len_eq_zero]
  omega

/-! ## What is read at an offset -/

lemma cut_offset (h : word ++ after <:+ text.toList) :
    cut text (offset text (word ++ after)) (offset text after) = .ok word := by
  have hafter := (List.suffix_append word after).trans h
  have hin : (offset text (word ++ after)).isValid text ∧ (offset text after).isValid text ∧
      offset text (word ++ after) ≤ offset text after :=
    ⟨String.Pos.Raw.isValid_eq_true_iff.2 (isValid_offset h),
      String.Pos.Raw.isValid_eq_true_iff.2 (isValid_offset hafter),
      offset_le h (List.suffix_append word after)⟩
  obtain ⟨front, htext, hstart⟩ := exists_offset_eq h
  have hstop : offset text after = ⟨utf8Len front + utf8Len word⟩ := by
    rw [String.Pos.Raw.ext_iff, byteIdx_offset_append h, hstart]
  have hextract := String.extract_of_valid front word after
  rw [List.append_assoc, ← htext] at hextract
  rw [cut, if_pos hin, hstart, hstop, hextract, String.toList_ofList]

lemma rest_offset (h : after <:+ text.toList) : rest text (offset text after) = .ok after := by
  have hcut : cut text (offset text (after ++ [])) (offset text []) = .ok after :=
    cut_offset (by simpa using h)
  rwa [List.append_nil, offset_nil] at hcut

lemma peek_offset (h : after <:+ text.toList) :
    peek text (offset text after) = .ok after.head? := by
  rw [peek, rest_offset h]
  rfl

lemma current_offset_nil (cause : SyntaxError) :
    current text (offset text []) cause = .error (.rejected cause) := by
  rw [current, peek_offset List.nil_suffix]
  rfl

lemma current_offset_cons (h : c :: after <:+ text.toList) (cause : SyntaxError) :
    current text (offset text (c :: after)) cause = .ok c := by
  rw [current, peek_offset h]
  rfl

/-! ## Where the cursor moves -/

lemma bump_offset_nil : bump text (offset text []) = .ok (offset text []) := by
  rw [bump, peek_offset List.nil_suffix]
  rfl

lemma bump_offset_cons (h : c :: after <:+ text.toList) :
    bump text (offset text (c :: after)) = .ok (offset text after) := by
  have hidx : (offset text after).byteIdx = (offset text ([c] ++ after)).byteIdx + utf8Len [c] :=
    byteIdx_offset_append h
  have hnext : offset text after = offset text (c :: after) + c := by
    rw [String.Pos.Raw.ext_iff, hidx]
    simp
  rw [bump, peek_offset h, hnext]
  rfl

lemma before_eq (h : after <:+ text.toList) : before text after = .ok (offset text after) := by
  have hle := String.utf8Len_le_of_suffix h
  rw [String.utf8Len_toList] at hle
  rw [before, String.utf8ByteSize_ofList, if_pos hle]
  rfl

lemma skipSpaces_suffix (after : List Char) : skipSpaces after <:+ after :=
  List.dropWhile_suffix _

lemma skip_offset (h : after <:+ text.toList) :
    skip text (offset text after) = .ok (offset text (skipSpaces after)) := by
  rw [skip, rest_offset h]
  exact before_eq ((skipSpaces_suffix after).trans h)

end Path.Cursor

/-! ## What token readers leave over -/

section Leftover

variable {text after : List Char}

lemma takeSign_suffix (text : List Char) : (takeSign text).2 <:+ text := by
  unfold takeSign
  split
  · exact List.suffix_cons _ _
  · exact List.suffix_cons _ _
  · exact List.suffix_rfl

lemma takeDigits_suffix (text : List Char) : (takeDigits text).2 <:+ text :=
  List.dropWhile_suffix _

lemma takeFraction_suffix (text : List Char) : (takeFraction text).2 <:+ text := by
  unfold takeFraction
  split
  · next tail => exact (takeDigits_suffix tail).trans (List.suffix_cons _ _)
  · exact List.suffix_rfl

lemma suffix_of_takeExponent? {exponent : Int} (h : takeExponent? text = some (exponent, after)) :
    after <:+ text := by
  cases text with
  | nil =>
    obtain ⟨-, rfl⟩ := Prod.mk.inj (Option.some.inj h)
    exact List.suffix_rfl
  | cons c tail =>
    by_cases hc : c = 'e' ∨ c = 'E'
    · rw [takeExponent?_cons hc] at h
      simp only [Option.ite_none_left_eq_some, Option.some.injEq, Prod.mk.injEq] at h
      obtain ⟨-, -, rfl⟩ := h
      exact ((takeDigits_suffix _).trans (takeSign_suffix tail)).trans (List.suffix_cons _ _)
    · rw [takeExponent?_cons_of_ne hc] at h
      obtain ⟨-, rfl⟩ := Prod.mk.inj (Option.some.inj h)
      exact List.suffix_rfl

lemma suffix_of_read? {decimal : Decimal} (h : Decimal.read? text = some (decimal, after)) :
    after <:+ text := by
  simp only [Decimal.read?, Option.ite_none_left_eq_some, Option.map_eq_some_iff] at h
  obtain ⟨-, ⟨exponent, last⟩, hexponent, hsame⟩ := h
  obtain ⟨-, rfl⟩ := Prod.mk.inj hsame
  exact ((suffix_of_takeExponent? hexponent).trans (takeFraction_suffix _)).trans
    (takeDigits_suffix text)

namespace Literal

lemma suffix_of_takeScalar? {value : Json} (h : takeScalar? text = some (value, after)) :
    after <:+ text := by
  simp only [takeScalar?, Option.or_eq_some_iff] at h
  rcases h with h | ⟨-, h | ⟨-, h⟩⟩
  · simp only [takeInteger?, Option.ite_none_left_eq_some, Option.map_eq_some_iff] at h
    obtain ⟨-, n, -, hsame⟩ := h
    obtain ⟨-, rfl⟩ := Prod.mk.inj hsame
    exact (takeDigits_suffix _).trans (takeSign_suffix text)
  · obtain ⟨⟨decimal, last⟩, hread, hsame⟩ := Option.map_eq_some_iff.1 h
    obtain ⟨-, rfl⟩ := Prod.mk.inj hsame
    exact (suffix_of_read? hread).trans (takeSign_suffix text)
  · unfold takeWord? at h
    split at h
    · obtain ⟨-, rfl⟩ := Prod.mk.inj (Option.some.inj h)
      exact List.suffix_append ['t', 'r', 'u', 'e'] _
    · obtain ⟨-, rfl⟩ := Prod.mk.inj (Option.some.inj h)
      exact List.suffix_append ['f', 'a', 'l', 's', 'e'] _
    · obtain ⟨-, rfl⟩ := Prod.mk.inj (Option.some.inj h)
      exact List.suffix_append ['n', 'u', 'l', 'l'] _
    · simp at h

end Literal

lemma Comparator.suffix_of_take {comparator : Comparator}
    (h : Comparator.take text = .ok (comparator, after)) : after <:+ text := by
  unfold Comparator.take at h
  split at h
  all_goals simp only [Except.ok.injEq, Prod.mk.injEq, reduceCtorEq] at h
  all_goals obtain ⟨-, rfl⟩ := h
  all_goals simp [List.suffix_cons_iff]

end Leftover

end PathQuery
