/-
# Indexers of elements, exactly

An indexer that is neither quoted names nor a query is a star, an index, a list of indexes or a
slice, with spaces around its parts.  That every such text is read is one half of the grammar
(`Indexer.take_of_spellsElements`).  This module has the other half: whatever is read as a step to
elements spells that step, up to the bracket that closes it.  Both halves together say which texts
between two brackets are paths (`Path.read_bracketed_iff`).
-/
import PathQuery.Proofs.Path.RoundTrip

namespace PathQuery

open Spelling

/-! ## Slots -/

lemma exists_eq_spaces_append (text : List Char) : ∃ n, text = spaces n ++ skipSpaces text := by
  have hspaces : ∀ c ∈ text.takeWhile (· == ' '), c = ' ' := by
    intro c hc
    simpa using List.mem_takeWhile_imp hc
  refine ⟨(text.takeWhile (· == ' ')).length, ?_⟩
  rw [spaces, ← List.eq_replicate_of_mem hspaces]
  exact List.takeWhile_append_dropWhile.symm

namespace Indexer

lemma exists_eq_of_takeSlot {text slot rest : List Char} (h : takeSlot text = (slot, rest)) :
    ∃ n, text = slot ++ (spaces n ++ rest) := by
  obtain ⟨rfl, rfl⟩ := Prod.mk.inj h
  obtain ⟨n, hn⟩ := exists_eq_spaces_append (text.dropWhile isIndexChar)
  refine ⟨n, ?_⟩
  rw [← hn]
  exact List.takeWhile_append_dropWhile.symm

/-- A slot that denotes an index spells it: a minus at most, digits, and no more than a word. -/
lemma spellsInteger_of_index? {slot : List Char} {i : Int} (h : index? slot = some i) :
    SpellsInteger i slot := by
  unfold index? at h
  split at h
  next negative digits hsign =>
  obtain ⟨⟨hne, hdigits⟩, h⟩ := Option.ite_none_right_eq_some.1 h
  obtain ⟨hword, hi⟩ := Option.ite_none_right_eq_some.1 h
  rw [List.all_eq_true] at hdigits
  split at hsign
  · obtain ⟨rfl, rfl⟩ := Prod.mk.inj hsign
    obtain rfl := Option.some.inj hi
    exact .negative hne hdigits hword
  · obtain ⟨rfl, rfl⟩ := Prod.mk.inj hsign
    obtain rfl := Option.some.inj hi
    exact .unsigned hne hdigits hword

lemma spellsInteger_of_readIndex {slot : List Char} {i : Int} (h : readIndex slot = .ok i) :
    SpellsInteger i slot := by
  unfold readIndex at h
  split at h
  · simp at h
  · split at h
    · next hi =>
      obtain rfl := Except.ok.inj h
      exact spellsInteger_of_index? hi
    · simp at h

lemma spellsBound_of_readBound {slot : List Char} {bound : Option Int}
    (h : readBound slot = .ok bound) : SpellsBound bound slot := by
  unfold readBound at h
  split at h
  · next hempty =>
    subst hempty
    obtain rfl := Except.ok.inj h
    exact .absent
  · obtain ⟨i, hi, rfl⟩ := map_eq_ok.1 h
    exact .present (spellsInteger_of_readIndex hi)

/-! ## Steps to elements -/

/-- A list of indexes is spelled by what is read, spaces in front aside. -/
lemma exists_spells_of_takeIndexes {text rest : List Char} {is : List Int}
    (h : takeIndexes text = .ok (is, rest)) :
    ∃ inner n, SpellsIntegers is inner ∧ text = inner ++ (spaces n ++ ']' :: rest) := by
  fun_induction takeIndexes text generalizing is rest with
  | case2 text rest hafter =>
    obtain ⟨i, hi, hsame⟩ := bind_eq_ok.1 h
    obtain ⟨rfl, rfl⟩ := Prod.mk.inj (Except.ok.inj hsame)
    have hslot : takeSlot text = (_, ']' :: rest) := Prod.ext rfl hafter
    obtain ⟨n, htext⟩ := exists_eq_of_takeSlot hslot
    exact ⟨_, n, .single (spellsInteger_of_readIndex hi), htext⟩
  | case3 text after hafter _ _ ih =>
    obtain ⟨i, hi, h⟩ := bind_eq_ok.1 h
    obtain ⟨⟨others, last⟩, hothers, hsame⟩ := bind_eq_ok.1 h
    obtain ⟨rfl, rfl⟩ := Prod.mk.inj (Except.ok.inj hsame)
    have hslot : takeSlot text = (_, ',' :: after) := Prod.ext rfl hafter
    obtain ⟨k, htext⟩ := exists_eq_of_takeSlot hslot
    obtain ⟨l, hspaces⟩ := exists_eq_spaces_append after
    obtain ⟨inner, n, hinner, hmore⟩ := ih hothers
    refine ⟨_, n, .cons k l (spellsInteger_of_readIndex hi) hinner, ?_⟩
    rw [hspaces, hmore] at htext
    simpa using htext
  | _ => simp_all

/-- The stride ends a slice whose bounds have been read. -/
lemma exists_spells_of_takeStride {start stop : Option Int} {lead mid text rest : List Char}
    {step : Step} (hstart : SpellsBound start lead) (hstop : SpellsBound stop mid) (k l m n : Nat)
    (h : takeStride start stop text = .ok (step, rest)) :
    ∃ inner o, SpellsElements step inner ∧
      lead ++ spaces k ++ ':' :: spaces l ++ mid ++ spaces m ++ ':' :: spaces n ++ text
        = inner ++ (spaces o ++ ']' :: rest) := by
  unfold takeStride at h
  split at h
  · simp at h
  · next slot after hslot =>
    obtain ⟨stride, hstride, hsame⟩ := bind_eq_ok.1 h
    obtain ⟨rfl, rfl⟩ := Prod.mk.inj (Except.ok.inj hsame)
    obtain ⟨o, rfl⟩ := exists_eq_of_takeSlot hslot
    exact ⟨_, o, .slices k l m n hstart hstop (spellsBound_of_readBound hstride), by simp⟩
  · simp at h

/-- What follows the first colon ends a slice whose first bound has been read. -/
lemma exists_spells_of_takeStop {start : Option Int} {lead text rest : List Char} {step : Step}
    (hstart : SpellsBound start lead) (k l : Nat) (h : takeStop start text = .ok (step, rest)) :
    ∃ inner o, SpellsElements step inner ∧
      lead ++ spaces k ++ ':' :: spaces l ++ text = inner ++ (spaces o ++ ']' :: rest) := by
  unfold takeStop at h
  split at h
  · simp at h
  · next slot after hslot =>
    obtain ⟨stop, hstop, hsame⟩ := bind_eq_ok.1 h
    obtain ⟨rfl, rfl⟩ := Prod.mk.inj (Except.ok.inj hsame)
    obtain ⟨o, rfl⟩ := exists_eq_of_takeSlot hslot
    exact ⟨_, o, .slice k l hstart (spellsBound_of_readBound hstop), by simp⟩
  · next slot after hslot =>
    obtain ⟨stop, hstop, h⟩ := bind_eq_ok.1 h
    obtain ⟨m, rfl⟩ := exists_eq_of_takeSlot hslot
    obtain ⟨n, hspaces⟩ := exists_eq_spaces_append after
    obtain ⟨inner, o, hinner, htext⟩ :=
      exists_spells_of_takeStride hstart (spellsBound_of_readBound hstop) k l m n h
    refine ⟨inner, o, hinner, ?_⟩
    rw [← htext]
    nth_rewrite 1 [hspaces]
    simp
  · simp at h

/-- Whatever is read as a step to elements spells it, up to the closing bracket. -/
lemma exists_spells_of_takeElements {text rest : List Char} {step : Step}
    (h : takeElements text = .ok (step, rest)) :
    ∃ m inner n, SpellsElements step inner ∧
      text = spaces m ++ (inner ++ (spaces n ++ ']' :: rest)) := by
  unfold takeElements at h
  split at h
  · simp at h
  · next slot after hslot =>
    obtain ⟨i, hi, hsame⟩ := bind_eq_ok.1 h
    obtain ⟨rfl, rfl⟩ := Prod.mk.inj (Except.ok.inj hsame)
    obtain ⟨n, htext⟩ := exists_eq_of_takeSlot hslot
    exact ⟨0, slot, n, .index (spellsInteger_of_readIndex hi), htext⟩
  · next slot after hslot =>
    obtain ⟨i, hi, h⟩ := bind_eq_ok.1 h
    obtain ⟨⟨others, last⟩, hothers, hsame⟩ := bind_eq_ok.1 h
    obtain ⟨rfl, rfl⟩ := Prod.mk.inj (Except.ok.inj hsame)
    obtain ⟨k, rfl⟩ := exists_eq_of_takeSlot hslot
    obtain ⟨l, hspaces⟩ := exists_eq_spaces_append after
    obtain ⟨inner, n, hinner, hmore⟩ := exists_spells_of_takeIndexes hothers
    -- the list behind the comma has an index at least
    have hlength : 2 ≤ (i :: others).length := by
      cases hinner <;> simp
    refine ⟨0, _, n, .indexes hlength (.cons k l (spellsInteger_of_readIndex hi) hinner), ?_⟩
    rw [hspaces, hmore]
    simp [spaces]
  · next slot after hslot =>
    obtain ⟨start, hstart, h⟩ := bind_eq_ok.1 h
    obtain ⟨k, rfl⟩ := exists_eq_of_takeSlot hslot
    obtain ⟨l, hspaces⟩ := exists_eq_spaces_append after
    obtain ⟨inner, n, hinner, htext⟩ :=
      exists_spells_of_takeStop (spellsBound_of_readBound hstart) k l h
    refine ⟨0, inner, n, hinner, ?_⟩
    rw [← htext]
    nth_rewrite 1 [hspaces]
    simp [spaces]
  · next after hslot =>
    obtain ⟨m, rfl⟩ := exists_eq_of_takeSlot hslot
    obtain ⟨n, hspaces⟩ := exists_eq_spaces_append after
    split at h
    · simp at h
    · next last hclosed =>
      obtain ⟨rfl, rfl⟩ := Prod.mk.inj (Except.ok.inj h)
      refine ⟨m, ['*'], n, .all, ?_⟩
      rw [hspaces, hclosed]
      simp
    · simp at h
  · simp at h

/-- An indexer is read as a step to elements exactly if it spells one. -/
lemma take_eq_elements_iff {text rest : List Char} {step : Step} :
    take text = .ok (.elements step, rest)
      ↔ ∃ m inner n, SpellsElements step inner ∧
          text = spaces m ++ (inner ++ (spaces n ++ ']' :: rest)) := by
  constructor
  · intro h
    obtain ⟨k, htext⟩ := exists_eq_spaces_append text
    unfold take at h
    split at h
    · simp at h
    · obtain ⟨⟨names, after⟩, -, hsame⟩ := bind_eq_ok.1 h
      simp at hsame
    · split at h <;> simp at h
    · obtain ⟨⟨found, after⟩, helements, hsame⟩ := bind_eq_ok.1 h
      simp only [Except.ok.injEq, Prod.mk.injEq, elements.injEq] at hsame
      obtain ⟨rfl, rfl⟩ := hsame
      obtain ⟨m, inner, n, hinner, hskip⟩ := exists_spells_of_takeElements helements
      refine ⟨k + m, inner, n, hinner, ?_⟩
      rw [htext, hskip]
      simp [spaces, ← List.append_assoc]
  · rintro ⟨m, inner, n, hinner, rfl⟩
    exact take_of_spellsElements hinner m n rest

end Indexer

/-! ## Between two brackets -/

namespace Path

/-- The text spells a step to elements, with spaces around it. -/
def SpellsContent (step : Step) (content : List Char) : Prop :=
  ∃ m inner n, SpellsElements step inner ∧ content = spaces m ++ inner ++ spaces n

/-- A text between two brackets is read by its indexer, and nothing may stand behind it. -/
lemma read_bracketed (content : List Char) :
    read (String.ofList ('[' :: content ++ [']']))
      = Indexer.take (content ++ [']']) >>= fun
        | (.names names, rest) =>
          Progress.run (.steps ((Chain.start []).addNames names) []) rest
        | (.elements step, rest) =>
          Progress.run (.steps ((Chain.start []).addElements step) []) rest
        | (.query, rest) => Progress.run (.operand (.start (.start [])) []) rest := by
  have htrim : trimBlanks ('[' :: content ++ [']']) = '[' :: (content ++ [']']) := by
    have hbracket : ∀ c ∈ ('[' :: content ++ [']']).getLast?, isBlank c = false := by
      intro c hc
      rw [List.getLast?_concat] at hc
      obtain rfl : ']' = c := Option.some.inj hc
      decide
    simpa using trimBlanks_append (List.forall_mem_nil _) (List.forall_mem_nil _)
      (fun c hc => by obtain rfl : '[' = c := Option.some.inj hc; decide) hbracket
      (List.cons_ne_nil '[' _)
  rw [read, String.toList_ofList, htrim]
  exact Progress.run_bracket (.start []) [] (content ++ [']'])

lemma skipSpaces_concat (content : List Char) {c : Char} (hc : c ≠ ' ') :
    skipSpaces (content ++ [c]) = skipSpaces content ++ [c] := by
  rw [skipSpaces, List.dropWhile_append]
  split
  · next hempty =>
    rw [skipSpaces, List.isEmpty_iff.1 hempty]
    exact skipSpaces_cons_of_ne hc []
  · rfl

/-- What is neither quoted names nor a query is read as a step to elements, or not at all. -/
lemma read_bracketed_eq_ok_iff {content : List Char} (hclosed : ']' ∉ content)
    (hhead : ∀ c ∈ (skipSpaces content).head?, c ≠ '\'' ∧ c ≠ '?') (path : Path) :
    read (String.ofList ('[' :: content ++ [']'])) = .ok path
      ↔ ∃ step, path = [step] ∧ SpellsContent step content := by
  have hfinish (step : Step) :
      Progress.run (.steps ((Chain.start []).addElements step) []) [] = .ok [step] := by
    rw [Progress.run_nil]
    rfl
  rw [read_bracketed, bind_eq_ok]
  constructor
  · rintro ⟨⟨indexer, rest⟩, htake, hrun⟩
    have hskip := skipSpaces_concat content (c := ']') (by decide)
    have hne : skipSpaces (content ++ [']']) ≠ [] := by
      rw [hskip]
      exact List.append_ne_nil_of_right_ne_nil _ (List.cons_ne_nil _ _)
    have hfront : ∀ c ∈ (skipSpaces (content ++ [']'])).head?, c ≠ '\'' ∧ c ≠ '?' := by
      rw [hskip]
      cases hcontent : skipSpaces content with
      | nil => simp
      | cons d tail =>
        rw [hcontent] at hhead
        exact hhead
    have helements := htake
    rw [Indexer.take_eq_takeElements hne hfront] at helements
    obtain ⟨⟨step, after⟩, -, hsame⟩ := map_eq_ok.1 helements
    obtain ⟨rfl, rfl⟩ := Prod.mk.inj hsame
    obtain ⟨m, inner, n, hinner, htext⟩ := Indexer.take_eq_elements_iff.1 htake
    -- the bracket that closes the indexer is the only one there is
    rw [← List.append_assoc, ← List.append_assoc,
      List.append_cons_inj_of_notMem hclosed List.not_mem_nil] at htext
    obtain ⟨hcontent, -, rfl⟩ := htext
    have hpath := Except.ok.inj ((hfinish step).symm.trans hrun)
    exact ⟨step, hpath.symm, m, inner, n, hinner, hcontent⟩
  · rintro ⟨step, rfl, m, inner, n, hinner, rfl⟩
    have htake : Indexer.take (spaces m ++ inner ++ spaces n ++ [']']) = .ok (.elements step, []) :=
      Indexer.take_eq_elements_iff.2 ⟨m, inner, n, hinner, by simp⟩
    exact ⟨(.elements step, []), htake, hfinish step⟩

/-- **Indexers of elements are accepted exactly.**  Between two brackets, and but for quoted names
and queries, a text is a path if and only if it is a star, an integer, two or more integers with
commas between them, or two or three slots with colons between them, spaces around each part aside.
The path is the one step that the text spells, with the integers as they are written; every other
text is a syntax error. -/
theorem read_bracketed_iff {content : List Char} (hclosed : ']' ∉ content)
    (hhead : ∀ c ∈ (skipSpaces content).head?, c ≠ '\'' ∧ c ≠ '?') :
    (∀ path, read (String.ofList ('[' :: content ++ [']'])) = .ok path
        ↔ ∃ step, path = [step] ∧ SpellsContent step content) ∧
      ((∃ cause : SyntaxError, read (String.ofList ('[' :: content ++ [']'])) = .error cause)
        ↔ ∀ step, ¬SpellsContent step content) := by
  have haccepted := read_bracketed_eq_ok_iff hclosed hhead
  refine ⟨haccepted, ?_⟩
  rcases hread : read (String.ofList ('[' :: content ++ [']'])) with cause | path
  · refine ⟨fun _ step hstep => ?_, fun _ => ⟨cause, rfl⟩⟩
    have hok := (haccepted [step]).2 ⟨step, rfl, hstep⟩
    rw [hread] at hok
    exact nomatch hok
  · obtain ⟨step, -, hstep⟩ := (haccepted path).1 hread
    refine ⟨?_, fun hnone => absurd hstep (hnone step)⟩
    rintro ⟨cause, herror⟩
    exact nomatch herror

/-- Three slots, the first and the last integer of a word and an empty one between them. -/
theorem read_bracketed_iff_slice :
    let content := " -9223372036854775808 : :007 ".toList
    (']' ∉ content ∧ ∀ c ∈ (skipSpaces content).head?, c ≠ '\'' ∧ c ≠ '?') ∧
      read (String.ofList ('[' :: content ++ [']']))
        = .ok [.slice (some (-9223372036854775808)) none (some 7)] := by
  intro content
  have hclosed : ']' ∉ content := by decide
  have hhead : ∀ c ∈ (skipSpaces content).head?, c ≠ '\'' ∧ c ≠ '?' := by
    intro c hc
    obtain rfl : '-' = c := Option.some.inj hc
    decide
  have hstart : SpellsInteger (-9223372036854775808) "-9223372036854775808".toList :=
    Indexer.spellsInteger_of_index? rfl
  have hstride : SpellsInteger 7 "007".toList := Indexer.spellsInteger_of_index? rfl
  have hslice := SpellsElements.slices 1 1 0 0 (.present hstart) .absent (.present hstride)
  have hread := ((read_bracketed_iff hclosed hhead).1 [_]).2 ⟨_, rfl, 1, _, 1, hslice, rfl⟩
  exact ⟨⟨hclosed, hhead⟩, hread⟩

end Path

end PathQuery
