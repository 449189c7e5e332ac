/-
# Strings that are written are read

A character has one of three forms between the quotes (`escape_cases`): a backslash with a letter
that names it, a backslash with its code, or itself.  None of them ends the string, each is one
piece of it, and the piece makes the character again.  So a string is read back character by
character.
-/
import Mathlib.Tactic.SplitIfs
import PathQuery.Json.Token
import PathQuery.Json.Writer

namespace PathQuery.Json

lemma hexDigit?_hexDigit {n : Nat} (h : n < 16) : hexDigit? (hexDigit n) = some n := by
  have hall : ∀ n : Fin 16, hexDigit? (hexDigit n) = some n.val := by decide
  exact hall ⟨n, h⟩

lemma hexDigit_ne {n : Nat} (h : n < 16) {c : Char} (hc : hexDigit? c = none) :
    hexDigit n ≠ c := by
  rintro rfl
  rw [hexDigit?_hexDigit h] at hc
  exact absurd hc (Option.some_ne_none n)

/-- A character is written as a backslash with a letter that names it, as a backslash with its code,
or as it is. -/
lemma escape_cases (c : Char) :
    (∃ letter, escape c = ['\\', letter] ∧ letter ≠ 'u' ∧ 0x20 ≤ letter.toNat ∧
        escaped? letter = some c) ∨
      (c.toNat < 0x20 ∧ escape c
        = ['\\', 'u', '0', '0', hexDigit (c.toNat / 16), hexDigit (c.toNat % 16)]) ∨
      (escape c = [c] ∧ c ≠ '"' ∧ c ≠ '\\' ∧ 0x20 ≤ c.toNat) := by
  unfold escape
  split_ifs with hquote hbackslash hbackspace htab hnewline hformfeed hreturn hcontrol
  · exact Or.inl ⟨'"', rfl, by decide, by decide, by rw [hquote]; rfl⟩
  · exact Or.inl ⟨'\\', rfl, by decide, by decide, by rw [hbackslash]; rfl⟩
  · exact Or.inl ⟨'b', rfl, by decide, by decide, by rw [hbackspace]; rfl⟩
  · exact Or.inl ⟨'t', rfl, by decide, by decide, by rw [htab]; rfl⟩
  · exact Or.inl ⟨'n', rfl, by decide, by decide, by rw [hnewline]; rfl⟩
  · exact Or.inl ⟨'f', rfl, by decide, by decide, by rw [hformfeed]; rfl⟩
  · exact Or.inl ⟨'r', rfl, by decide, by decide, by rw [hreturn]; rfl⟩
  · exact Or.inr (Or.inl ⟨hcontrol, rfl⟩)
  · exact Or.inr (Or.inr ⟨rfl, hquote, hbackslash, Nat.le_of_not_lt hcontrol⟩)

/-- A written character does not end the string. -/
lemma takeQuoted?_escape_append (c : Char) (rest : List Char) :
    takeQuoted? (escape c ++ rest)
      = (takeQuoted? rest).map fun found => (escape c ++ found.1, found.2) := by
  have hplain {c : Char} (hquote : c ≠ '"') (hbackslash : c ≠ '\\') (rest : List Char) :
      takeQuoted? (c :: rest) = (takeQuoted? rest).map fun found => (c :: found.1, found.2) := by
    rw [takeQuoted?]
    · simpa using hquote
    · simp [hbackslash]
  -- the digits of a code are neither quotes nor backslashes
  have hdigit {n : Nat} (hn : n < 16) (rest : List Char) :=
    hplain (hexDigit_ne hn (c := '"') rfl) (hexDigit_ne hn (c := '\\') rfl) rest
  rcases escape_cases c with ⟨letter, h, -⟩ | ⟨hcontrol, h⟩ | ⟨h, hquote, hbackslash, -⟩ <;> rw [h]
  · rfl
  · have hzero := hplain (c := '0') (by decide) (by decide)
    have hhigh := hdigit (n := c.toNat / 16) (by omega)
    have hlow := hdigit (n := c.toNat % 16) (by omega)
    simp only [List.cons_append, List.nil_append, takeQuoted?, hzero, hhigh, hlow, Option.map_map,
      Function.comp_def]
  · exact hplain hquote hbackslash rest

lemma takeQuoted?_quoted (content rest : List Char) :
    takeQuoted? (content.flatMap escape ++ '"' :: rest) = some (content.flatMap escape, rest) := by
  induction content with
  | nil => rfl
  | cons c content ih =>
    rw [List.flatMap_cons, List.append_assoc, takeQuoted?_escape_append, ih]
    rfl

/-- A unit below all surrogates is a character. -/
lemma joinPieces?_unit {code : Nat} (h : code < 0xD800) (rest : List Piece) :
    joinPieces? (.unit code :: rest) = (joinPieces? rest).map (Char.ofNat code :: ·) := by
  have hsurrogate : ¬(0xD800 ≤ code ∧ code < 0xE000) := by omega
  have hhigh : ¬(0xD800 ≤ code ∧ code < 0xDC00) := by omega
  have hlow : ¬(0xDC00 ≤ code ∧ code < 0xE000) := by omega
  rcases rest with _ | ⟨c | low, rest⟩
  · simp [joinPieces?, hsurrogate]
  · simp [joinPieces?, hsurrogate]
  · rw [joinPieces?, if_neg hhigh, if_neg hlow]

/-- A written character is a piece of its string, and the piece makes that character. -/
lemma exists_piece (c : Char) : ∃ piece,
    (∀ rest, pieces? (escape c ++ rest) = (pieces? rest).map (piece :: ·)) ∧
      ∀ rest, joinPieces? (piece :: rest) = (joinPieces? rest).map (c :: ·) := by
  rcases escape_cases c with ⟨letter, h, hu, -, hc⟩ | ⟨hcontrol, h⟩ | ⟨h, -, hbackslash, hcode⟩ <;>
    rw [h]
  · refine ⟨.char c, fun rest => ?_, fun rest => by rw [joinPieces?]⟩
    rw [List.cons_append, List.cons_append, List.nil_append, pieces?, hc]
    · cases pieces? rest <;> rfl
    · simp [hu]
  · refine ⟨.unit c.toNat, fun rest => ?_, fun rest => ?_⟩
    · have hhigh := hexDigit?_hexDigit (n := c.toNat / 16) (by omega)
      have hlow := hexDigit?_hexDigit (n := c.toNat % 16) (by omega)
      have hzero : hexDigit? '0' = some 0 := rfl
      have hcode : ((0 * 16 + 0) * 16 + c.toNat / 16) * 16 + c.toNat % 16 = c.toNat := by omega
      simp only [List.cons_append, List.nil_append, pieces?, hzero, hhigh, hlow, hcode,
        Option.bind_eq_bind, Option.bind_some]
      cases pieces? rest <;> rfl
    · rw [joinPieces?_unit (by omega), Char.ofNat_toNat]
  · refine ⟨.char c, fun rest => ?_, fun rest => by rw [joinPieces?]⟩
    rw [List.cons_append, List.nil_append, pieces?, if_neg (Nat.not_lt.2 hcode)]
    · cases pieces? rest <;> rfl
    · simp [hbackslash]
    · simp [hbackslash]

lemma unescape?_flatMap_escape (content : List Char) :
    unescape? (content.flatMap escape) = some content := by
  have hpieces : ∃ pieces, pieces? (content.flatMap escape) = some pieces ∧
      joinPieces? pieces = some content := by
    induction content with
    | nil => exact ⟨[], rfl, rfl⟩
    | cons c content ih =>
      obtain ⟨pieces, hread, hjoin⟩ := ih
      obtain ⟨piece, hpiece, hmakes⟩ := exists_piece c
      refine ⟨piece :: pieces, ?_, ?_⟩
      · rw [List.flatMap_cons, hpiece, hread]
        rfl
      · rw [hmakes, hjoin]
        rfl
  obtain ⟨pieces, hread, hjoin⟩ := hpieces
  rw [unescape?, hread, Option.bind_some, hjoin]

/-- Nothing that is written of a character is a control character. -/
lemma le_toNat_of_mem_escape {c x : Char} (hx : x ∈ escape c) : 0x20 ≤ x.toNat := by
  have hdigit : ∀ n : Fin 16, 0x20 ≤ (hexDigit n).toNat := by decide
  rcases escape_cases c with ⟨letter, h, -, hcode, -⟩ | ⟨hcontrol, h⟩ | ⟨h, -, -, hcode⟩ <;>
    rw [h] at hx
  · rcases hx with _ | ⟨_, _ | ⟨_, ⟨⟩⟩⟩
    · decide
    · exact hcode
  · have hhigh := hdigit ⟨c.toNat / 16, by omega⟩
    have hlow := hdigit ⟨c.toNat % 16, by omega⟩
    simp only [List.mem_cons, List.not_mem_nil, or_false] at hx
    rcases hx with rfl | rfl | rfl | rfl | rfl | rfl
    · decide
    · decide
    · decide
    · decide
    · exact hhigh
    · exact hlow
  · obtain rfl := List.mem_singleton.1 hx
    exact hcode

end PathQuery.Json
