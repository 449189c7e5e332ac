/-
# Indexers

An indexer is what stands between brackets: quoted names, an index, a list of indexes, a slice, a
star, or a query.  This module reads all of them but the expression of a query, of which it reads
the opening only.  Spaces may stand around every part.
-/
import PathQuery.Path.Quoted
import PathQuery.Path.Step
import PathQuery.Number.Numeral

namespace PathQuery

/-- The text without the spaces at its front. -/
def skipSpaces (text : List Char) : List Char := text.dropWhile (· == ' ')

theorem length_skipSpaces_le (text : List Char) : (skipSpaces text).length ≤ text.length :=
  (List.dropWhile_sublist _).length_le

theorem length_of_skipSpaces_eq_cons {text rest : List Char} {c : Char}
    (after : skipSpaces text = c :: rest) : rest.length < text.length := by
  have shorter := length_skipSpaces_le text
  rwa [after] at shorter

/-- What stands between the brackets of an indexer. -/
inductive Indexer where
  /-- One name or more. -/
  | names (names : List String)
  /-- A step to elements. -/
  | elements (step : Step)
  /-- The opening of a query; its expression follows. -/
  | query

namespace Indexer

/-! ## Names -/

/-- The names from the first one on, whose opening quote has been read, to the closing bracket. -/
def takeNames (text : List Char) : Except SyntaxError (List String × List Char) :=
  match taken : Quoted.take text with
  | .error cause => .error cause
  | .ok (name, tail) =>
    match after : skipSpaces tail with
    | [] => .error .openIndexer
    | ']' :: rest => .ok ([String.ofList name], rest)
    | ',' :: more =>
      match next : skipSpaces more with
      | [] => .error .openIndexer
      | '\'' :: rest => do
        have := Quoted.length_of_take_eq_ok taken
        have := length_of_skipSpaces_eq_cons after
        have := length_of_skipSpaces_eq_cons next
        let (others, rest) ← takeNames rest
        .ok (String.ofList name :: others, rest)
      | c :: _ => .error (.unexpected .indexer c)
    | c :: _ => .error (.unexpected .indexer c)
termination_by text.length

/-! ## Indexes and slices -/

/-- Can the character stand in an index?  Minus signs are accepted anywhere here and judged with the
whole index. -/
def isIndexChar (c : Char) : Bool := c == '-' || c.isDigit

/-- The index at the front of a text, not judged yet, and the rest after it and its spaces. -/
def takeSlot (text : List Char) : List Char × List Char :=
  (text.takeWhile isIndexChar, skipSpaces (text.dropWhile isIndexChar))

theorem length_of_takeSlot_eq_cons {text rest : List Char} {c : Char}
    (after : (takeSlot text).2 = c :: rest) : rest.length < text.length :=
  Nat.lt_of_lt_of_le (length_of_skipSpaces_eq_cons after) (List.dropWhile_sublist _).length_le

/-- The index that a slot spells: an optional minus, then digits, within a signed 64-bit word. -/
def index? (slot : List Char) : Option Int :=
  let (negative, digits) := match slot with
    | '-' :: digits => (true, digits)
    | digits => (false, digits)
  if digits ≠ [] ∧ digits.all Char.isDigit then signedWord? negative digits else none

/-- The index of a slot that has to hold one. -/
def readIndex (slot : List Char) : Except SyntaxError Int :=
  if slot = [] then .error .indexExpected
  else
    match index? slot with
    | some i => .ok i
    | none => .error (.invalidIndex slot)

/-- The bound of a slot, which may be empty. -/
def readBound (slot : List Char) : Except SyntaxError (Option Int) :=
  if slot = [] then .ok none else (readIndex slot).map some

/-- The indexes of a list, from one of them on, to the closing bracket. -/
def takeIndexes (text : List Char) : Except SyntaxError (List Int × List Char) :=
  match after : (takeSlot text).2 with
  | [] => .error .openIndexer
  | ']' :: rest => do
    let i ← readIndex (takeSlot text).1
    .ok ([i], rest)
  | ',' :: rest => do
    have := length_of_takeSlot_eq_cons after
    have := length_skipSpaces_le rest
    let i ← readIndex (takeSlot text).1
    let (is, rest) ← takeIndexes (skipSpaces rest)
    .ok (i :: is, rest)
  | c :: _ => .error (.unexpected .indexer c)
termination_by text.length

/-- The stride of a slice, after its second colon, and the slice. -/
def takeStride (start stop : Option Int) (text : List Char) :
    Except SyntaxError (Step × List Char) :=
  match takeSlot text with
  | (_, []) => .error .openIndexer
  | (slot, ']' :: rest) => do
    let stride ← readBound slot
    .ok (.slice start stop stride, rest)
  | (_, c :: _) => .error (.unexpected .indexer c)

/-- What follows the first colon of a slice, and the slice. -/
def takeStop (start : Option Int) (text : List Char) : Except SyntaxError (Step × List Char) :=
  match takeSlot text with
  | (_, []) => .error .openIndexer
  | (slot, ']' :: rest) => do
    let stop ← readBound slot
    .ok (.slice start stop none, rest)
  | (slot, ':' :: rest) => do
    let stop ← readBound slot
    takeStride start stop (skipSpaces rest)
  | (_, c :: _) => .error (.unexpected .indexer c)

/-- The step of an indexer for elements. -/
def takeElements (text : List Char) : Except SyntaxError (Step × List Char) :=
  match takeSlot text with
  | (_, []) => .error .openIndexer
  | (slot, ']' :: rest) => do
    let i ← readIndex slot
    .ok (.index (some i), rest)
  | (slot, ',' :: rest) => do
    let i ← readIndex slot
    let (is, rest) ← takeIndexes (skipSpaces rest)
    .ok (.indexes (i :: is), rest)
  | (slot, ':' :: rest) => do
    let start ← readBound slot
    takeStop start (skipSpaces rest)
  | ([], '*' :: rest) =>
    match skipSpaces rest with
    | [] => .error .openIndexer
    | ']' :: rest => .ok (.index none, rest)
    | c :: _ => .error (.unexpected .indexer c)
  | (_, c :: _) => .error (.unexpected .indexer c)

/-! ## Any indexer -/

/-- The indexer whose opening bracket has been read. -/
def take (text : List Char) : Except SyntaxError (Indexer × List Char) :=
  match skipSpaces text with
  | [] => .error .openIndexer
  | '\'' :: rest => do
    let (found, rest) ← takeNames rest
    .ok (.names found, rest)
  | '?' :: rest =>
    match skipSpaces rest with
    | [] => .error .openIndexer
    | '(' :: rest => .ok (.query, rest)
    | c :: _ => .error (.unexpected .indexer c)
  | text => do
    let (step, rest) ← takeElements text
    .ok (.elements step, rest)

/-! ## Every reading leaves a shorter text -/

theorem length_of_takeNames_eq_ok {text rest : List Char} {found : List String}
    (taken : takeNames text = .ok (found, rest)) : rest.length < text.length := by
  fun_induction takeNames text generalizing found with
  | case3 text name tail quoted after same =>
    have := Quoted.length_of_take_eq_ok quoted
    have := length_of_skipSpaces_eq_cons same
    obtain ⟨-, rfl⟩ := Prod.mk.inj (Except.ok.inj taken)
    omega
  | case5 text name tail quoted more after inner next _ _ _ ih =>
    obtain ⟨⟨others, last⟩, found, same⟩ := bind_eq_ok.1 taken
    obtain ⟨-, rfl⟩ := Prod.mk.inj (Except.ok.inj same)
    have := ih found
    omega
  | _ => simp_all

theorem length_of_takeIndexes_eq_ok {text rest : List Char} {is : List Int}
    (taken : takeIndexes text = .ok (is, rest)) : rest.length < text.length := by
  fun_induction takeIndexes text generalizing is with
  | case2 text after same =>
    obtain ⟨i, -, same'⟩ := bind_eq_ok.1 taken
    obtain ⟨-, rfl⟩ := Prod.mk.inj (Except.ok.inj same')
    exact length_of_takeSlot_eq_cons same
  | case3 text after _ _ _ ih =>
    obtain ⟨i, -, same⟩ := bind_eq_ok.1 taken
    obtain ⟨⟨others, last⟩, found, same⟩ := bind_eq_ok.1 same
    obtain ⟨-, rfl⟩ := Prod.mk.inj (Except.ok.inj same)
    have := ih found
    omega
  | _ => simp_all

theorem length_of_takeStride_eq_ok {start stop : Option Int} {text rest : List Char} {step : Step}
    (taken : takeStride start stop text = .ok (step, rest)) : rest.length < text.length := by
  unfold takeStride at taken
  split at taken
  · simp at taken
  · next slot after same =>
    obtain ⟨stride, -, same'⟩ := bind_eq_ok.1 taken
    obtain ⟨-, rfl⟩ := Prod.mk.inj (Except.ok.inj same')
    exact length_of_takeSlot_eq_cons (by rw [same])
  · simp at taken

theorem length_of_takeStop_eq_ok {start : Option Int} {text rest : List Char} {step : Step}
    (taken : takeStop start text = .ok (step, rest)) : rest.length < text.length := by
  unfold takeStop at taken
  split at taken
  · simp at taken
  · next slot after same =>
    obtain ⟨stop, -, same'⟩ := bind_eq_ok.1 taken
    obtain ⟨-, rfl⟩ := Prod.mk.inj (Except.ok.inj same')
    exact length_of_takeSlot_eq_cons (by rw [same])
  · next slot after same =>
    obtain ⟨stop, -, found⟩ := bind_eq_ok.1 taken
    have := length_of_takeStride_eq_ok found
    have := length_skipSpaces_le after
    have := length_of_takeSlot_eq_cons (congrArg Prod.snd same)
    omega
  · simp at taken

theorem length_of_takeElements_eq_ok {text rest : List Char} {step : Step}
    (taken : takeElements text = .ok (step, rest)) : rest.length < text.length := by
  unfold takeElements at taken
  split at taken
  · simp at taken
  · next slot after same =>
    obtain ⟨i, -, same'⟩ := bind_eq_ok.1 taken
    obtain ⟨-, rfl⟩ := Prod.mk.inj (Except.ok.inj same')
    exact length_of_takeSlot_eq_cons (by rw [same])
  · next slot after same =>
    obtain ⟨i, -, more⟩ := bind_eq_ok.1 taken
    obtain ⟨⟨others, last⟩, found, same'⟩ := bind_eq_ok.1 more
    obtain ⟨-, rfl⟩ := Prod.mk.inj (Except.ok.inj same')
    have := length_of_takeIndexes_eq_ok found
    have := length_skipSpaces_le after
    have := length_of_takeSlot_eq_cons (congrArg Prod.snd same)
    omega
  · next slot after same =>
    obtain ⟨start, -, found⟩ := bind_eq_ok.1 taken
    have := length_of_takeStop_eq_ok found
    have := length_skipSpaces_le after
    have := length_of_takeSlot_eq_cons (congrArg Prod.snd same)
    omega
  · next after same =>
    have := length_of_takeSlot_eq_cons (congrArg Prod.snd same)
    split at taken
    · simp at taken
    · next last closed =>
      have := length_of_skipSpaces_eq_cons closed
      obtain ⟨-, rfl⟩ := Prod.mk.inj (Except.ok.inj taken)
      omega
    · simp at taken
  · simp at taken

theorem length_of_take_eq_ok {text rest : List Char} {indexer : Indexer}
    (taken : take text = .ok (indexer, rest)) : rest.length < text.length := by
  unfold take at taken
  split at taken
  · simp at taken
  · next after opened =>
    have := length_of_skipSpaces_eq_cons opened
    obtain ⟨⟨found, last⟩, read, same⟩ := bind_eq_ok.1 taken
    obtain ⟨-, rfl⟩ := Prod.mk.inj (Except.ok.inj same)
    have := length_of_takeNames_eq_ok read
    omega
  · next after opened =>
    have := length_of_skipSpaces_eq_cons opened
    split at taken
    · simp at taken
    · next last closed =>
      have := length_of_skipSpaces_eq_cons closed
      obtain ⟨-, rfl⟩ := Prod.mk.inj (Except.ok.inj taken)
      omega
    · simp at taken
  · have := length_skipSpaces_le text
    obtain ⟨⟨step, last⟩, read, same⟩ := bind_eq_ok.1 taken
    obtain ⟨-, rfl⟩ := Prod.mk.inj (Except.ok.inj same)
    have := length_of_takeElements_eq_ok read
    omega

end Indexer

end PathQuery
