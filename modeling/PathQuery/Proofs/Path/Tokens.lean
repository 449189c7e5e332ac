/-
# Reading tokens that are spelled

Each token reader, given a spelling of a token and a text behind it that cannot belong to the token,
returns what is spelled and leaves the text behind.  There is one lemma for every kind of token:
quoted names, integers, indexers, literals and comparators.
-/
import PathQuery.Path.Reader
import PathQuery.Proofs.Number.Numeral
import PathQuery.Proofs.Path.Spelling

namespace PathQuery

open Spelling

/-! ## Spaces -/

@[simp] lemma skipSpaces_spaces_append (n : Nat) (text : List Char) :
    skipSpaces (spaces n ++ text) = skipSpaces text :=
  List.dropWhile_append_of_pos fun c hc => by simp [List.eq_of_mem_replicate hc]

@[simp] lemma skipSpaces_cons_of_ne {c : Char} (hc : c ≠ ' ') (rest : List Char) :
    skipSpaces (c :: rest) = c :: rest :=
  List.dropWhile_cons_of_neg (by simpa using hc)

/-! ## Integers -/

lemma signedWord?_unsigned {digits : List Char} (h : IsSignedWord (digitsValue digits)) :
    signedWord? false digits = some (digitsValue digits : Int) := by
  unfold IsSignedWord at h
  simp only [signedWord?, Bool.false_eq_true, if_false, if_pos h]

lemma signedWord?_negative {digits : List Char} (h : IsSignedWord (-(digitsValue digits : Int))) :
    signedWord? true digits = some (-(digitsValue digits : Int)) := by
  unfold IsSignedWord at h
  simp only [signedWord?, if_true, if_pos h]

namespace Spelling.SpellsInteger

variable {i : Int} {text : List Char}

lemma ne_nil (h : SpellsInteger i text) : text ≠ [] := by
  cases h with
  | unsigned hne hdigits => exact hne
  | negative hne hdigits => exact List.cons_ne_nil _ _

lemma isIndexChar (h : SpellsInteger i text) : ∀ c ∈ text, Indexer.isIndexChar c := by
  cases h with
  | unsigned hne hdigits => exact fun c hc => by simp [Indexer.isIndexChar, hdigits c hc]
  | negative hne hdigits =>
    intro c hc
    rcases List.mem_cons.1 hc with rfl | hc
    · rfl
    · simp [Indexer.isIndexChar, hdigits c hc]

end Spelling.SpellsInteger

/-! ## Quoted names -/

namespace Quoted

lemma take_encode_append (text rest : List Char) :
    take (encode text ++ '\'' :: rest) = .ok (text, rest) := by
  induction text with
  | nil => rfl
  | cons c text ih =>
    by_cases hc : c = '\'' ∨ c = '\\'
    · rw [encode, if_pos hc, List.cons_append, List.cons_append, take, if_pos hc, ih]
      rfl
    · rw [encode, if_neg hc, List.cons_append, take, ih]
      · rfl
      · exact fun h => hc (Or.inl h)
      · exact fun _ _ h => absurd h (fun h => hc (Or.inr h))

end Quoted

namespace Indexer

lemma takeNames_eq (text : List Char) :
    takeNames text
      = (Quoted.take text).bind fun found =>
        match skipSpaces found.2 with
        | [] => .error .openIndexer
        | ']' :: rest => .ok ([String.ofList found.1], rest)
        | ',' :: more =>
          match skipSpaces more with
          | [] => .error .openIndexer
          | '\'' :: rest => (takeNames rest).map fun (others, rest) =>
            (String.ofList found.1 :: others, rest)
          | c :: _ => .error (.unexpected .indexer c)
        | c :: _ => .error (.unexpected .indexer c) := by
  rw [takeNames]
  split
  · next cause h =>
    rw [h]
    rfl
  · next name tail h =>
    simp only [h, Except.bind]
    split
    · next h' => simp only [h']
    · next rest h' => simp only [h']
    · next more h' =>
      simp only [h']
      split
      · next h'' => simp only [h'']
      · next rest h'' =>
        simp only [h'']
        rfl
      · next c rest hne h'' => simp only [h'']
    · next c rest hne hne' h' => simp only [h']

/-- Quoted names start with a quote; reading them starts behind it. -/
lemma takeNames_of_spells {names : List String} {text : List Char} (h : SpellsNames names text)
    (n : Nat) (rest : List Char) :
    ∃ tail, text = '\'' :: tail ∧
      takeNames (tail ++ (spaces n ++ ']' :: rest)) = .ok (names, rest) := by
  induction h with
  | single name =>
    refine ⟨Quoted.encode name.toList ++ ['\''], rfl, ?_⟩
    have htake := Quoted.take_encode_append name.toList (spaces n ++ ']' :: rest)
    rw [List.append_assoc, List.singleton_append, takeNames_eq, htake]
    simp [Except.bind]
  | cons name k l hnames ih =>
    obtain ⟨tail, rfl, htail⟩ := ih
    refine ⟨Quoted.encode name.toList ++ '\'' :: (spaces k ++ ',' :: (spaces l ++ '\'' :: tail)),
      by simp [quoted], ?_⟩
    have htake := Quoted.take_encode_append name.toList
      (spaces k ++ ',' :: (spaces l ++ '\'' :: tail) ++ (spaces n ++ ']' :: rest))
    rw [List.append_assoc, List.cons_append, takeNames_eq, htake]
    simp [Except.bind, htail, Except.map]

/-! ### Integers -/

/-- A slot with spaces around it. -/
lemma takeSlot_skipSpaces {slot : List Char} (hslot : ∀ c ∈ slot, isIndexChar c) {c : Char}
    (hc : isIndexChar c = false) (hspace : c ≠ ' ') (n : Nat) (rest : List Char) :
    takeSlot (skipSpaces (slot ++ (spaces n ++ c :: rest))) = (slot, c :: rest) := by
  have hhead : ∀ d ∈ (spaces n ++ c :: rest).head?, isIndexChar d = false := by
    cases n with
    | zero => simpa [spaces] using hc
    | succ n => simp [spaces, List.replicate_succ]; decide
  cases slot with
  | nil => simp [takeSlot, hspace, hc]
  | cons d slot =>
    have hd : d ≠ ' ' := fun h => absurd (hslot d (by simp)) (by rw [h]; decide)
    rw [List.cons_append, skipSpaces_cons_of_ne hd, ← List.cons_append, takeSlot,
      takeWhile_append_of_head hslot hhead, dropWhile_append_of_head hslot hhead]
    simp [hspace]

lemma index?_of_spells {i : Int} {text : List Char} (h : SpellsInteger i text) :
    index? text = some i := by
  cases h with
  | unsigned hne hdigits hword =>
    -- digits are not taken for a sign
    have hminus : ∀ rest, text ≠ '-' :: rest := by
      rintro rest rfl
      exact absurd (hdigits '-' (by simp)) (by decide)
    unfold index?
    split
    next negative digits heq =>
    split at heq
    · next rest => exact absurd rfl (hminus rest)
    · obtain ⟨rfl, rfl⟩ := Prod.mk.inj heq
      rw [if_pos ⟨hne, List.all_eq_true.2 hdigits⟩, signedWord?_unsigned hword]
  | negative hne hdigits hword =>
    show (if _ then _ else _) = _
    rw [if_pos ⟨hne, List.all_eq_true.2 hdigits⟩]
    exact signedWord?_negative hword

lemma readIndex_of_spells {i : Int} {text : List Char} (h : SpellsInteger i text) :
    readIndex text = .ok i := by
  rw [readIndex, if_neg h.ne_nil, index?_of_spells h]

lemma readBound_of_spells {bound : Option Int} {text : List Char} (h : SpellsBound bound text) :
    readBound text = .ok bound := by
  cases h with
  | absent => rfl
  | present hi =>
    rw [readBound, if_neg hi.ne_nil, readIndex_of_spells hi]
    rfl

lemma isIndexChar_of_spellsBound {bound : Option Int} {text : List Char}
    (h : SpellsBound bound text) : ∀ c ∈ text, isIndexChar c := by
  cases h with
  | absent => simp
  | present hi => exact hi.isIndexChar

/-! ### Elements -/

lemma takeIndexes_eq (text : List Char) :
    takeIndexes text
      = match takeSlot text with
        | (_, []) => .error .openIndexer
        | (slot, ']' :: rest) => (readIndex slot).map fun i => ([i], rest)
        | (slot, ',' :: rest) => do
          let i ← readIndex slot
          let (is, rest) ← takeIndexes (skipSpaces rest)
          .ok (i :: is, rest)
        | (_, c :: _) => .error (.unexpected .indexer c) := by
  rcases h : takeSlot text with ⟨slot, after⟩
  have hfst : (takeSlot text).1 = slot := congrArg Prod.fst h
  have hsnd : (takeSlot text).2 = after := congrArg Prod.snd h
  rw [takeIndexes]
  split
  · next hafter =>
    obtain rfl := hsnd.symm.trans hafter
    rfl
  · next rest hafter =>
    obtain rfl := hsnd.symm.trans hafter
    rw [hfst]
    rfl
  · next rest hafter =>
    obtain rfl := hsnd.symm.trans hafter
    rw [hfst]
    rfl
  · next c rest hbracket hcomma hafter =>
    obtain rfl := hsnd.symm.trans hafter
    split <;> simp_all

lemma takeIndexes_of_spells {is : List Int} {text : List Char} (h : SpellsIntegers is text)
    (n : Nat) (rest : List Char) :
    takeIndexes (skipSpaces (text ++ (spaces n ++ ']' :: rest))) = .ok (is, rest) := by
  induction h with
  | single hi =>
    have hslot := takeSlot_skipSpaces hi.isIndexChar (c := ']') rfl (by decide) n rest
    rw [takeIndexes_eq, hslot]
    simp only [readIndex_of_spells hi]
    rfl
  | @cons k l i is text texts hi his ih =>
    have hslot := takeSlot_skipSpaces hi.isIndexChar (c := ',') rfl (by decide) k
      (spaces l ++ (texts ++ (spaces n ++ ']' :: rest)))
    rw [List.append_assoc, List.append_assoc, List.cons_append, List.append_assoc, takeIndexes_eq,
      hslot]
    simp only [readIndex_of_spells hi, skipSpaces_spaces_append, ih]
    rfl

lemma takeStride_of_spells {stride : Option Int} {text : List Char} (h : SpellsBound stride text)
    (start stop : Option Int) (n : Nat) (rest : List Char) :
    takeStride start stop (skipSpaces (text ++ (spaces n ++ ']' :: rest)))
      = .ok (.slice start stop stride, rest) := by
  have hslot := takeSlot_skipSpaces (isIndexChar_of_spellsBound h) (c := ']') rfl (by decide) n rest
  rw [takeStride, hslot]
  simp only [readBound_of_spells h]
  rfl

lemma takeStop_of_spells {stop : Option Int} {text : List Char} (h : SpellsBound stop text)
    (start : Option Int) (n : Nat) (rest : List Char) :
    takeStop start (skipSpaces (text ++ (spaces n ++ ']' :: rest)))
      = .ok (.slice start stop none, rest) := by
  have hslot := takeSlot_skipSpaces (isIndexChar_of_spellsBound h) (c := ']') rfl (by decide) n rest
  rw [takeStop, hslot]
  simp only [readBound_of_spells h]
  rfl

lemma takeStop_of_spells_colon {stop : Option Int} {text : List Char} (h : SpellsBound stop text)
    (start : Option Int) (n : Nat) (rest : List Char) :
    takeStop start (skipSpaces (text ++ (spaces n ++ ':' :: rest)))
      = takeStride start stop (skipSpaces rest) := by
  have hslot := takeSlot_skipSpaces (isIndexChar_of_spellsBound h) (c := ':') rfl (by decide) n rest
  rw [takeStop, hslot]
  simp only [readBound_of_spells h]
  rfl

lemma takeElements_of_spells_colon {start : Option Int} {text : List Char}
    (h : SpellsBound start text) (n : Nat) (rest : List Char) :
    takeElements (skipSpaces (text ++ (spaces n ++ ':' :: rest)))
      = takeStop start (skipSpaces rest) := by
  have hslot := takeSlot_skipSpaces (isIndexChar_of_spellsBound h) (c := ':') rfl (by decide) n rest
  rw [takeElements, hslot]
  simp only [readBound_of_spells h]
  rfl

lemma takeElements_of_spells {step : Step} {text : List Char} (h : SpellsElements step text)
    (n : Nat) (rest : List Char) :
    takeElements (skipSpaces (text ++ (spaces n ++ ']' :: rest))) = .ok (step, rest) := by
  cases h with
  | all =>
    have hslot : takeSlot ('*' :: (spaces n ++ ']' :: rest))
        = ([], '*' :: (spaces n ++ ']' :: rest)) := rfl
    rw [List.singleton_append, skipSpaces_cons_of_ne (by decide), takeElements, hslot]
    simp
  | index hi =>
    have hslot := takeSlot_skipSpaces hi.isIndexChar (c := ']') rfl (by decide) n rest
    rw [takeElements, hslot]
    simp only [readIndex_of_spells hi]
    rfl
  | indexes hlength his =>
    cases his with
    | single hi => exact absurd hlength (by simp)
    | @cons k l i is text texts hi his =>
      have hslot := takeSlot_skipSpaces hi.isIndexChar (c := ',') rfl (by decide) k
        (spaces l ++ (texts ++ (spaces n ++ ']' :: rest)))
      rw [List.append_assoc, List.append_assoc, List.cons_append, List.append_assoc, takeElements,
        hslot]
      simp only [readIndex_of_spells hi, skipSpaces_spaces_append, takeIndexes_of_spells his]
      rfl
  | @slice k l start stop text text' hstart hstop =>
    have hread := takeElements_of_spells_colon hstart k
      (spaces l ++ (text' ++ (spaces n ++ ']' :: rest)))
    rw [skipSpaces_spaces_append, takeStop_of_spells hstop] at hread
    simpa using hread
  | @slices k l m o start stop stride text text' text'' hstart hstop hstride =>
    have hread := takeElements_of_spells_colon hstart k
      (spaces l ++ (text' ++ (spaces m ++ ':' ::
        (spaces o ++ (text'' ++ (spaces n ++ ']' :: rest))))))
    rw [skipSpaces_spaces_append, takeStop_of_spells_colon hstop, skipSpaces_spaces_append,
      takeStride_of_spells hstride] at hread
    simpa using hread

/-! ### Any indexer -/

/-- What is no quoted name and no query is read as a step to elements. -/
lemma take_eq_takeElements {text : List Char} (hne : skipSpaces text ≠ [])
    (hhead : ∀ c ∈ (skipSpaces text).head?, c ≠ '\'' ∧ c ≠ '?') :
    take text
      = (takeElements (skipSpaces text)).map fun (step, rest) => (.elements step, rest) := by
  rw [take]
  split
  · next h => exact absurd h hne
  · next rest h => exact absurd rfl (hhead '\'' (by simp [h])).1
  · next rest h => exact absurd rfl (hhead '?' (by simp [h])).2
  · rfl

/-- The first character of elements, spaces aside. -/
lemma head_of_spellsElements {step : Step} {text : List Char} (h : SpellsElements step text)
    (rest : List Char) :
    ∃ c tail, skipSpaces (text ++ rest) = c :: tail ∧ c ≠ '\'' ∧ c ≠ '?' := by
  have hindex {c : Char} (hc : isIndexChar c) : c ≠ ' ' ∧ c ≠ '\'' ∧ c ≠ '?' := by
    refine ⟨?_, ?_, ?_⟩ <;> rintro rfl <;> exact absurd hc (by decide)
  have hinteger {i : Int} {text : List Char} (h : SpellsInteger i text) (rest : List Char) :
      ∃ c tail, skipSpaces (text ++ rest) = c :: tail ∧ c ≠ '\'' ∧ c ≠ '?' := by
    obtain ⟨c, tail, rfl⟩ := List.exists_cons_of_ne_nil h.ne_nil
    have hc := hindex (h.isIndexChar c (by simp))
    exact ⟨c, tail ++ rest, by simp [hc.1], hc.2⟩
  have hslice {bound : Option Int} {text : List Char} (h : SpellsBound bound text) (n : Nat)
      (rest : List Char) :
      ∃ c tail, skipSpaces (text ++ (spaces n ++ ':' :: rest)) = c :: tail ∧
        c ≠ '\'' ∧ c ≠ '?' := by
    cases h with
    | absent => exact ⟨':', rest, by simp, by decide, by decide⟩
    | present hi => exact hinteger hi _
  cases h with
  | all => exact ⟨'*', rest, by simp, by decide, by decide⟩
  | index hi => exact hinteger hi rest
  | indexes hlength his =>
    cases his with
    | single hi => exact hinteger hi rest
    | cons m n hi his => simpa using hinteger hi _
  | slice k l hstart hstop => simpa using hslice hstart k _
  | slices k l m n hstart hstop hstride => simpa using hslice hstart k _

lemma take_of_spellsNames {names : List String} {text : List Char} (h : SpellsNames names text)
    (m n : Nat) (rest : List Char) :
    take (spaces m ++ (text ++ (spaces n ++ ']' :: rest))) = .ok (.names names, rest) := by
  obtain ⟨tail, rfl, htail⟩ := takeNames_of_spells h n rest
  rw [take, skipSpaces_spaces_append, List.cons_append, skipSpaces_cons_of_ne (by decide)]
  simp only [htail]
  rfl

lemma take_of_spellsElements {step : Step} {text : List Char} (h : SpellsElements step text)
    (m n : Nat) (rest : List Char) :
    take (spaces m ++ (text ++ (spaces n ++ ']' :: rest))) = .ok (.elements step, rest) := by
  obtain ⟨c, tail, hskip, hquote, hquery⟩ := head_of_spellsElements h (spaces n ++ ']' :: rest)
  rw [take_eq_takeElements, skipSpaces_spaces_append, takeElements_of_spells h]
  · rfl
  · rw [skipSpaces_spaces_append, hskip]
    exact List.cons_ne_nil c tail
  · rw [skipSpaces_spaces_append, hskip]
    rintro d hd
    obtain rfl : c = d := Option.some.inj hd
    exact ⟨hquote, hquery⟩

lemma take_query (m n : Nat) (rest : List Char) :
    take (spaces m ++ '?' :: (spaces n ++ '(' :: rest)) = .ok (.query, rest) := by
  rw [take, skipSpaces_spaces_append, skipSpaces_cons_of_ne (by decide)]
  simp

end Indexer

/-! ## Literals -/

/-- Characters that can stand behind an operand of a query. -/
def operandEnds : List Char := [' ', ')', '&', '|', '=', '!', '<', '>']

namespace Literal

lemma takeBody_append {body : List Char} (h : IsPatternBody body) (rest : List Char) :
    takeBody (body ++ '/' :: rest) = .ok (body, rest) := by
  induction h with
  | nil => rfl
  | escaped c hbody ih =>
    rw [List.cons_append, List.cons_append, takeBody, ih]
    rfl
  | plain hslash hbackslash hbody ih =>
    rw [List.cons_append, takeBody, ih]
    · rfl
    · exact hslash
    · exact fun _ _ h => absurd h hbackslash

/-- The digits of an integer are taken to their end. -/
lemma takeDigits_append_end {digits : List Char} (hdigits : ∀ c ∈ digits, c.isDigit) {c : Char}
    (hc : c ∈ operandEnds) (rest : List Char) :
    takeDigits (digits ++ c :: rest) = (digits, c :: rest) := by
  have hends : ∀ c ∈ operandEnds, c.isDigit = false := List.forall_iff_forall_mem.1 (by decide)
  have hhead : ∀ d ∈ (c :: rest).head?, d.isDigit = false := by simpa using hends c hc
  exact takeDigits_append hdigits hhead

lemma takeInteger?_eq_some {text unsigned digits rest : List Char} {negative : Bool} {i : Int}
    {n : WordInt} (hsign : takeSign text = (negative, unsigned))
    (hdigits : takeDigits unsigned = (digits, rest)) (hne : digits ≠ [])
    (hrest : continuesNumber rest = false) (hword : signedWord? negative digits = some i)
    (hi : WordInt.ofInt? i = some n) : takeInteger? text = some (.number (.integer n), rest) := by
  simp only [takeInteger?, hsign, hdigits]
  rw [if_neg (by simp [hne, hrest]), hword, Option.bind_some, hi, Option.map_some]

lemma continuesNumber_eq_false {c : Char} (hc : c ∈ operandEnds) (rest : List Char) :
    continuesNumber (c :: rest) = false := by
  have hall : ∀ c ∈ operandEnds, continuesNumber (c :: rest) = false := by
    simp [operandEnds, continuesNumber]
  exact hall c hc

lemma takeInteger?_of_spells {n : WordInt} {i : Int} {text : List Char} (h : SpellsInteger i text)
    (hi : WordInt.ofInt? i = some n) {c : Char} (hc : c ∈ operandEnds) (rest : List Char) :
    takeInteger? (text ++ c :: rest) = some (.number (.integer n), c :: rest) := by
  have hends := continuesNumber_eq_false hc rest
  cases h with
  | unsigned hne hdigits hword =>
    exact takeInteger?_eq_some (takeSign_of_isDigit hne hdigits _)
      (takeDigits_append_end hdigits hc rest) hne hends (signedWord?_unsigned hword) hi
  | negative hne hdigits hword =>
    exact takeInteger?_eq_some rfl (takeDigits_append_end hdigits hc rest) hne hends
      (signedWord?_negative hword) hi

/-- What has neither a quote nor a slash at its front is read as a number or a word. -/
lemma take_cons_of_ne {d : Char} (hquote : d ≠ '\'') (hslash : d ≠ '/') (tail : List Char) :
    take (d :: tail) = match takeScalar? (d :: tail) with
      | some found => .ok found
      | none => .error (.unexpected .query d) := by
  unfold take
  split
  · next heq => exact absurd heq (List.cons_ne_nil d tail)
  · next heq => exact absurd (List.cons.inj heq).1 hquote
  · next heq => exact absurd (List.cons.inj heq).1 hslash
  · next heq =>
    obtain ⟨rfl, -⟩ := List.cons.inj heq
    cases takeScalar? (d :: tail) <;> rfl

lemma take_of_takeScalar? {d : Char} {tail : List Char} {found : Json × List Char}
    (hquote : d ≠ '\'') (hslash : d ≠ '/') (h : takeScalar? (d :: tail) = some found) :
    take (d :: tail) = .ok found := by
  rw [take_cons_of_ne hquote hslash, h]

/-- A number comes before a word. -/
lemma take_of_takeInteger? {d : Char} {tail : List Char} {found : Json × List Char}
    (hquote : d ≠ '\'') (hslash : d ≠ '/') (h : takeInteger? (d :: tail) = some found) :
    take (d :: tail) = .ok found := by
  refine take_of_takeScalar? hquote hslash ?_
  rw [takeScalar?, h]
  rfl

/-- A literal is read up to a character that cannot belong to any literal. -/
lemma take_of_spells {value : Json} {text : List Char} (h : SpellsLiteral value text) {c : Char}
    (hc : c ∈ operandEnds) (rest : List Char) :
    take (text ++ c :: rest) = .ok (value, c :: rest) := by
  cases h with
  | null => rfl
  | true => rfl
  | false => rfl
  | integer hn =>
    have htake := takeInteger?_of_spells hn (WordInt.ofInt?_value _) hc rest
    obtain ⟨d, tail, rfl⟩ := List.exists_cons_of_ne_nil hn.ne_nil
    have hd := hn.isIndexChar d (by simp)
    refine take_of_takeInteger? ?_ ?_ htake
    · rintro rfl
      exact absurd hd (by decide)
    · rintro rfl
      exact absurd hd (by decide)
  | @plus n digits hne hdigits hvalue hword =>
    have hi : WordInt.ofInt? (digitsValue digits) = some n := hvalue ▸ WordInt.ofInt?_value n
    have hends := continuesNumber_eq_false hc rest
    refine take_of_takeInteger? (by decide) (by decide) ?_
    exact takeInteger?_eq_some rfl (takeDigits_append_end hdigits hc rest) hne hends
      (signedWord?_unsigned (hvalue ▸ hword)) hi
  | string s =>
    rw [quoted, List.cons_append, List.cons_append, List.append_assoc, List.singleton_append]
    simp [take, Quoted.take_encode_append, Except.map]
  | @pattern body flags hbody hflags =>
    have hends : ∀ c ∈ operandEnds, isAlphabetic c = Bool.false :=
      List.forall_iff_forall_mem.1 (by decide)
    have hhead : ∀ d ∈ (c :: rest).head?, isAlphabetic d = Bool.false := by simpa using hends c hc
    rw [List.append_assoc, List.cons_append, List.cons_append]
    simp only [take, takePattern, takeBody_append hbody, Except.map,
      takeWhile_append_of_head hflags hhead, dropWhile_append_of_head hflags hhead]

end Literal

/-! ## Comparators -/

/-- The longest symbol wins, so the character behind must not make it longer. -/
lemma Comparator.take_of_mem_symbols {comparator : Comparator} {symbol : List Char}
    (h : symbol ∈ symbols comparator) {c : Char} (hequal : c ≠ '=') (hgreater : c ≠ '>')
    (rest : List Char) : Comparator.take (symbol ++ c :: rest) = .ok (comparator, c :: rest) := by
  cases comparator <;> simp only [symbols, List.mem_cons, List.not_mem_nil, or_false] at h
  case notEqual => rcases h with rfl | rfl <;> simp [Comparator.take, hequal]
  all_goals subst h; simp [Comparator.take, hequal, hgreater]

end PathQuery
