/-
# Steps in an indexer for elements

Reading by moves takes an index as a whole, from the mark on.  The cursor passes over it character
by character, and judges it when it comes to what closes it.  `MarksNumber` says what the mark and
the cursor enclose, `ReadsSlot` how the text from the mark on is read.
-/
import PathQuery.Proofs.Path.Cursor.Tracking

namespace PathQuery.Path.Cursor

variable {text : String} {after tail number source : List Char} {c : Char}
  {opened : List OpenQuery} {chain : Chain} {slot : Slot}
  {read : List Char → Except SyntaxError (Step × List Char)}

/-! ## The number before the cursor -/

namespace MarksNumber

variable {start : Offset} {stop : Option Offset}

lemma after_suffix (hmark : MarksNumber text number start stop source after) :
    after <:+ source := by
  cases hmark with
  | «open» => exact List.suffix_append _ _
  | closed n => exact (List.suffix_append _ _).trans (List.suffix_append _ _)

lemma cut_eq (hmark : MarksNumber text number start stop source after)
    (h : source <:+ text.toList) :
    cut text start (stop.getD (offset text after)) = .ok number := by
  cases hmark with
  | «open» => exact cut_offset h
  | closed n => exact cut_offset h

/-- A number ends with what cannot belong to it. -/
lemma takeSlot_eq (hmark : MarksNumber text number start stop source after)
    (hnumber : ∀ c ∈ number, Indexer.isIndexChar c)
    (hend : ∀ c ∈ after.head?, c ≠ ' ' ∧ (stop = none → Indexer.isIndexChar c = false)) :
    Indexer.takeSlot source = (number, after) := by
  have hskip : skipSpaces after = after := by
    cases after with
    | nil => rfl
    | cons c tail => exact skipSpaces_cons_of_ne (hend c rfl).1 tail
  cases hmark with
  | «open» =>
    have hhead : ∀ c ∈ after.head?, Indexer.isIndexChar c = false := fun c hc => (hend c hc).2 rfl
    rw [Indexer.takeSlot, takeWhile_append_of_head hnumber hhead,
      dropWhile_append_of_head hnumber hhead, hskip]
  | closed n =>
    have hhead : ∀ c ∈ (Spelling.spaces (n + 1) ++ after).head?, Indexer.isIndexChar c = false := by
      rintro c ⟨⟩
      decide
    rw [Indexer.takeSlot, takeWhile_append_of_head hnumber hhead,
      dropWhile_append_of_head hnumber hhead, skipSpaces_spaces_append, hskip]

/-- The first space behind a number closes it. -/
lemma space (hmark : MarksNumber text number start stop source (' ' :: tail)) :
    MarksNumber text number start (some (offset text (' ' :: tail))) source (skipSpaces tail) := by
  cases hmark with
  | «open» =>
    obtain ⟨n, hn⟩ := exists_eq_spaces_append tail
    have hsplit : ' ' :: tail = Spelling.spaces (n + 1) ++ skipSpaces tail := congrArg _ hn
    have hhead : ∀ c ∈ (skipSpaces tail).head?, c ≠ ' ' := by
      intro c hc
      obtain ⟨gap, hgap⟩ := List.head?_eq_some_iff.1 hc
      exact ne_space_of_skipSpaces hgap
    rw [hsplit]
    exact .closed n hhead
  | closed n hafter => exact absurd rfl (hafter ' ' rfl)

/-- A character of a number that is not closed belongs to it. -/
lemma char (hmark : MarksNumber text number start none source (c :: tail)) :
    MarksNumber text (number ++ [c]) start none source tail := by
  cases hmark
  have hsplit : number ++ c :: tail = number ++ [c] ++ tail := List.append_cons number c tail
  rw [hsplit]
  exact .open tail

end MarksNumber

/-! ## What a number is read as -/

/-- What the reading of a number and a separator gives: the next slot, from which the text behind
them is read with the same result, or a refusal. -/
inductive ReadsOn (source : List Char) :
    Except Halt Slot → Except SyntaxError (Step × List Char) → Prop
  | slot (slot : Slot) {read : List Char → Except SyntaxError (Step × List Char)}
      (hread : ReadsSlot slot.indexes slot.bounds slot.colons read) :
      ReadsOn source (.ok slot) (read source)
  | refused (cause : SyntaxError) : ReadsOn source (.error (.rejected cause)) (.error cause)

namespace ReadsSlot

variable {indexes : Option (List Int)} {bounds : Vector (Option Int) 3} {colons : Nat}

lemma colons_lt (hread : ReadsSlot indexes bounds colons read) : colons < 3 := by
  cases hread <;> decide

/-- The next bound has not been written. -/
lemma bounds_colons (hread : ReadsSlot indexes bounds colons read) (hlt : colons < 3) :
    bounds[colons] = none := by
  cases hread <;> rfl

lemma read_nil (hread : ReadsSlot indexes bounds colons read)
    (hslot : Indexer.takeSlot source = (number, [])) : read source = .error .openIndexer := by
  cases hread with
  | first => rw [Indexer.takeElements, hslot]
  | list =>
    simp only [takeMoreIndexes, Indexer.takeIndexes_eq, hslot]
    rfl
  | stop => rw [Indexer.takeStop, hslot]
  | stride => rw [Indexer.takeStride, hslot]

/-- An empty slot leaves out a bound, which has not been written. -/
lemma setBound_eq (hread : ReadsSlot slot.indexes slot.bounds slot.colons read)
    (number : List Char) :
    slot.setBound number = judge ((Indexer.readBound number).map fun bound =>
      { slot with bounds := slot.bounds.set slot.colons bound hread.colons_lt }) := by
  have hlt := hread.colons_lt
  have hset : slot.bounds.set slot.colons none hlt = slot.bounds := by
    rw [← hread.bounds_colons hlt, Vector.set_getElem_self]
  unfold Slot.setBound Indexer.readBound
  simp only [dif_pos hlt]
  split
  · simp only [Except.map, judge, hset]
  · rcases Indexer.readIndex number with cause | i <;> rfl

/-- Both make the same step of the number, or refuse it for the same cause. -/
lemma close_eq (hread : ReadsSlot slot.indexes slot.bounds slot.colons read)
    (hslot : Indexer.takeSlot source = (number, ']' :: tail)) :
    ∃ result : Except SyntaxError Step, slot.close number = judge result ∧
      read source = result.map fun step => (step, tail) := by
  have hbound := hread.setBound_eq number
  obtain ⟨start, stop, indexes, bounds, colons⟩ := slot
  cases hread with
  | first =>
    refine ⟨(Indexer.readIndex number).map fun i => .index (some i), ?_, ?_⟩
    · rcases h : Indexer.readIndex number with cause | i <;>
        simp [Slot.close, h, judge, Except.map]
    · simp only [Indexer.takeElements, hslot]
      rcases Indexer.readIndex number with cause | i <;> rfl
  | list indexes =>
    refine ⟨(Indexer.readIndex number).map fun i => .indexes (indexes ++ [i]), ?_, ?_⟩
    · rcases h : Indexer.readIndex number with cause | i <;>
        simp [Slot.close, h, judge, Except.map]
    · simp only [takeMoreIndexes, Indexer.takeIndexes_eq, hslot]
      rcases Indexer.readIndex number with cause | i <;> rfl
  | stop first =>
    refine ⟨(Indexer.readBound number).map fun last => .slice first last none, ?_, ?_⟩
    · simp only [Slot.close, Nat.zero_lt_one, if_true, hbound]
      rcases Indexer.readBound number with cause | last <;> rfl
    · simp only [Indexer.takeStop, hslot]
      rcases Indexer.readBound number with cause | last <;> rfl
  | stride first last =>
    refine ⟨(Indexer.readBound number).map fun stride => .slice first last stride, ?_, ?_⟩
    · simp only [Slot.close, Nat.zero_lt_two, if_true, hbound]
      rcases Indexer.readBound number with cause | stride <;> rfl
    · simp only [Indexer.takeStride, hslot]
      rcases Indexer.readBound number with cause | stride <;> rfl

/-- A comma makes a list of the indexes before it. -/
lemma addIndex (hread : ReadsSlot slot.indexes slot.bounds slot.colons read)
    (hcolons : slot.colons = 0) (hslot : Indexer.takeSlot source = (number, ',' :: tail)) :
    ReadsOn (skipSpaces tail) (slot.addIndex number) (read source) := by
  -- behind the comma a list is read, in front of which the indexes before it are put
  have hlist : read source = (Indexer.readIndex number).bind fun i =>
      takeMoreIndexes (slot.indexes.getD [] ++ [i]) (skipSpaces tail) := by
    obtain ⟨start, stop, indexes, bounds, colons⟩ := slot
    cases hread with
    | first =>
      simp only [Indexer.takeElements, hslot]
      rcases Indexer.readIndex number with cause | i
      · rfl
      · rcases hmore : Indexer.takeIndexes (skipSpaces tail) with cause | found <;>
          simp [takeMoreIndexes, hmore, Except.map, Except.bind]
    | list indexes =>
      simp only [takeMoreIndexes, Indexer.takeIndexes_eq source, hslot]
      rcases Indexer.readIndex number with cause | i
      · rfl
      · rcases Indexer.takeIndexes (skipSpaces tail) with cause | found <;>
          simp [Except.map, Except.bind]
    | stop | stride => exact absurd hcolons (Nat.succ_ne_zero _)
  rw [hlist, Slot.addIndex]
  rcases Indexer.readIndex number with cause | i
  · exact .refused cause
  · obtain ⟨start, stop, indexes, bounds, colons⟩ := slot
    obtain rfl : colons = 0 := hcolons
    cases hread <;> exact .slot ⟨start, stop, _, _, 0⟩ (.list _)

/-- A colon makes the number before it a bound. -/
lemma addBound (hread : ReadsSlot slot.indexes slot.bounds slot.colons read)
    (hlist : slot.indexes = none) (hcolons : slot.colons < 2)
    (hslot : Indexer.takeSlot source = (number, ':' :: tail)) :
    ReadsOn (skipSpaces tail) (slot.addBound number) (read source) := by
  have hset := hread.setBound_eq number
  rw [Slot.addBound, hset]
  obtain ⟨start, stop, indexes, bounds, colons⟩ := slot
  cases hread with
  | first =>
    simp only [Indexer.takeElements, hslot]
    rcases Indexer.readBound number with cause | bound
    · exact .refused cause
    · exact .slot ⟨start, stop, _, _, 1⟩ (.stop bound)
  | list => exact absurd hlist (Option.some_ne_none _)
  | stop first =>
    simp only [Indexer.takeStop, hslot]
    rcases Indexer.readBound number with cause | bound
    · exact .refused cause
    · exact .slot ⟨start, stop, _, _, 2⟩ (.stride first bound)
  | stride => exact absurd hcolons (Nat.lt_irrefl 2)

/-- A star by itself is all of an indexer. -/
lemma star_eq (hread : ReadsSlot none bounds 0 read)
    (hslot : Indexer.takeSlot source = ([], '*' :: tail)) (chain : Chain)
    (opened : List OpenQuery) :
    elementsAnswer chain opened (read source)
      = closeAnswer (chain.addElements (.index none)) opened tail := by
  cases hread
  simp only [elementsAnswer, closeAnswer, Indexer.takeElements, hslot]
  rcases skipSpaces tail with _ | ⟨d, gap⟩
  · rfl
  · by_cases hclosed : d = ']'
    · subst hclosed
      rfl
    · simp only
      rfl

/-- Nothing else may stand behind a number. -/
lemma unexpected_eq (hread : ReadsSlot indexes bounds colons read)
    (hslot : Indexer.takeSlot source = (number, c :: tail)) (hclosed : c ≠ ']')
    (hcomma : ¬(c = ',' ∧ colons = 0)) (hcolon : ¬(c = ':' ∧ indexes = none ∧ colons < 2))
    (hstar : ¬(c = '*' ∧ indexes = none ∧ colons = 0 ∧ number = [])) :
    read source = .error (.unexpected .indexer c) := by
  cases hread with
  | first =>
    rw [Indexer.takeElements, hslot]
    split <;> simp_all
  | list indexes =>
    simp only [takeMoreIndexes, Indexer.takeIndexes_eq source, hslot]
    split <;> simp_all [Except.map]
  | stop start =>
    rw [Indexer.takeStop, hslot]
    split <;> simp_all
  | stride start stop =>
    rw [Indexer.takeStride, hslot]
    split <;> simp_all

end ReadsSlot

/-! ## Steps -/

section Steps

variable (h : c :: tail <:+ text.toList)
include h

lemma follows_nextSlot {slot : Except Halt Slot} {slot' : Slot}
    {taken : Except SyntaxError (Step × List Char)} (hread : ReadsOn (skipSpaces tail) slot taken) :
    Follows text ⟨offset text (c :: tail), .elements chain slot', opened⟩
      (elementsAnswer chain opened taken)
      (do nextSlot text (offset text (c :: tail)) opened chain (← slot)) := by
  have htail := (List.suffix_cons c tail).trans h
  cases hread with
  | refused cause => exact follows_rejected rfl
  | slot slot hread =>
    rw [ok_bind, nextSlot, bump_offset_cons h, ok_bind, skip_offset htail]
    exact follows_ok
      (.elements (slot.next (offset text (skipSpaces tail)))
        ((skipSpaces_suffix tail).trans htail) (.nil _ _) (List.forall_mem_nil _) hread chain
        opened)
      (forward_cons h (skipSpaces_suffix tail)) rfl

/-- What closes a number is read as reading by moves does behind it. -/
lemma follows_closer (hread : ReadsSlot slot.indexes slot.bounds slot.colons read)
    (hslot : Indexer.takeSlot source = (number, c :: tail))
    (hcut : cut text slot.start (slot.stop.getD (offset text (c :: tail))) = .ok number)
    (hspace : c ≠ ' ') (hindex : ¬(Indexer.isIndexChar c ∧ slot.stop = none)) :
    Follows text ⟨offset text (c :: tail), .elements chain slot, opened⟩
      (elementsAnswer chain opened (read source))
      (stepElements text (offset text (c :: tail)) opened chain slot) := by
  have htail := (List.suffix_cons c tail).trans h
  simp only [stepElements, peek_offset h, ok_bind, List.head?_cons, hcut, bump_offset_cons h,
    if_neg hspace, if_neg hindex]
  by_cases hclosed : c = ']'
  · subst hclosed
    obtain ⟨result, hclose, hanswer⟩ := hread.close_eq hslot
    rw [if_pos rfl, hclose, hanswer]
    cases result with
    | error cause => exact follows_rejected rfl
    | ok step =>
      exact follows_ok (.chain htail (.fresh tail))
        (forward_cons h List.suffix_rfl) rfl
  rw [if_neg hclosed]
  by_cases hcomma : c = ',' ∧ slot.colons = 0
  · rw [if_pos hcomma]
    obtain ⟨rfl, hcolons⟩ := hcomma
    exact follows_nextSlot h (hread.addIndex hcolons hslot)
  rw [if_neg hcomma]
  by_cases hcolon : c = ':' ∧ slot.indexes = none ∧ slot.colons < 2
  · rw [if_pos hcolon]
    obtain ⟨rfl, hlist, hcolons⟩ := hcolon
    exact follows_nextSlot h (hread.addBound hlist hcolons hslot)
  rw [if_neg hcolon]
  by_cases hstar : c = '*' ∧ slot.indexes = none ∧ slot.colons = 0 ∧ number = []
  · rw [if_pos hstar]
    obtain ⟨rfl, hlist, hcolons, rfl⟩ := hstar
    rw [hlist, hcolons] at hread
    rw [hread.star_eq hslot]
    exact follows_closeIndexer htail (offset_le h (List.suffix_cons _ _)) rfl _
  · rw [if_neg hstar, hread.unexpected_eq hslot hclosed hcomma hcolon hstar]
    exact follows_rejected rfl

end Steps

lemma follows_stepElements (h : source <:+ text.toList)
    (hmark : MarksNumber text number slot.start slot.stop source after)
    (hnumber : ∀ c ∈ number, Indexer.isIndexChar c)
    (hread : ReadsSlot slot.indexes slot.bounds slot.colons read)
    (chain : Chain) (opened : List OpenQuery) :
    Follows text ⟨offset text after, .elements chain slot, opened⟩
      (elementsAnswer chain opened (read source))
      (stepElements text (offset text after) opened chain slot) := by
  have hafter := hmark.after_suffix.trans h
  cases after with
  | nil =>
    have hslot := hmark.takeSlot_eq hnumber (by simp)
    rw [stepElements, peek_offset hafter, hread.read_nil hslot]
    exact follows_rejected rfl
  | cons c tail =>
    by_cases hspace : c = ' '
    · subst hspace
      have hskip : skipSpaces (' ' :: tail) = skipSpaces tail := rfl
      simp only [stepElements, peek_offset hafter, ok_bind, List.head?_cons, hmark.cut_eq h,
        if_true, skip_offset hafter, hskip]
      exact follows_ok
        (.elements { slot with stop := some (offset text (' ' :: tail)) } h hmark.space
          hnumber hread chain opened)
        (forward_cons hafter (skipSpaces_suffix tail)) rfl
    by_cases hindex : Indexer.isIndexChar c ∧ slot.stop = none
    · -- none of the characters that close a number can stand in it
      obtain ⟨hc, hstop⟩ := hindex
      have hne : c ≠ ']' ∧ c ≠ ',' ∧ c ≠ ':' ∧ c ≠ '*' := by
        refine ⟨?_, ?_, ?_, ?_⟩ <;>
        · rintro rfl
          exact absurd hc (by decide)
      have hcut := hmark.cut_eq h
      obtain ⟨start, stop, indexes, bounds, colons⟩ := slot
      obtain rfl : stop = none := hstop
      simp only [stepElements, peek_offset hafter, ok_bind, List.head?_cons, hcut,
        bump_offset_cons hafter, hspace, hne, hc, if_false, if_true, false_and, and_self]
      refine follows_ok (.elements _ h hmark.char ?_ hread chain opened)
        (forward_cons hafter List.suffix_rfl) rfl
      simpa [or_imp, forall_and] using ⟨hnumber, hc⟩
    · -- the number ends here, for it has been closed or the character cannot belong to it
      have hslot : Indexer.takeSlot source = (number, c :: tail) := by
        refine hmark.takeSlot_eq hnumber ?_
        rintro d ⟨⟩
        exact ⟨hspace, fun hstop => by simpa [hstop] using hindex⟩
      exact follows_closer hafter hread hslot (hmark.cut_eq h) hspace hindex

end PathQuery.Path.Cursor
