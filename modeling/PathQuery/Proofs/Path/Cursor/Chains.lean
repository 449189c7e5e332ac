/-
# Steps in a chain

A move of the reading takes a name as a whole and adds it to the chain.  The cursor passes over it
and leaves a mark, and the name is added where the next part begins or the chain ends.  With the
steps of a chain there is one for every state: each keeps the answer or halts with it.
-/
import PathQuery.Proofs.Path.RoundTrip
import PathQuery.Proofs.Path.Cursor.Quotes
import PathQuery.Proofs.Path.Cursor.Elements
import PathQuery.Proofs.Path.Cursor.Queries

namespace PathQuery.Path.Cursor

variable {text : String} {after tail : List Char} {c : Char} {opened : List OpenQuery}
  {chain marked : Chain} {start : Offset} {inQuery : Bool}

/-! ## The name before the cursor -/

namespace MarksName

lemma closeName_eq (hmark : MarksName text inQuery chain start after marked) :
    closeName text (offset text after) chain start = .ok marked := by
  cases hmark with
  | fresh => exact if_neg (Nat.lt_irrefl _)
  | word hword hne hend =>
    rw [closeName, if_pos (offset_lt_append hword hne), cut_offset hword]
    rfl

/-- A chain ends with a dot if no name has been read behind it. -/
lemma place_eq_dot_iff (hmark : MarksName text inQuery chain start after marked) :
    ¬start < offset text after ∧ chain.place = .dot ↔ marked.place = .dot := by
  cases hmark with
  | fresh => exact and_iff_right (Nat.lt_irrefl _)
  | word hword hne hend => simp [offset_lt_append hword hne, Chain.addName]

/-- Before a character of a name no name has ended. -/
lemma eq_of_isNameChar (hmark : MarksName text inQuery chain start (c :: tail) marked)
    (hc : isNameChar inQuery c) : marked = chain ∧ start = offset text (c :: tail) := by
  cases hmark with
  | fresh => exact ⟨rfl, rfl⟩
  | word hword hne hend => exact absurd hc (by simp [hend c rfl])

lemma ofName (h : c :: tail <:+ text.toList) (chain : Chain) (inQuery : Bool) :
    MarksName text inQuery chain (offset text (c :: tail)) (tail.dropWhile (isNameChar inQuery))
      (chain.addName (c :: tail.takeWhile (isNameChar inQuery))) := by
  have hsplit : c :: tail = c :: tail.takeWhile (isNameChar inQuery)
      ++ tail.dropWhile (isNameChar inQuery) := by
    rw [List.cons_append, List.takeWhile_append_dropWhile]
  rw [hsplit]
  refine .word (hsplit ▸ h) (List.cons_ne_nil _ _) ?_
  intro d hd
  have hnot := List.head?_dropWhile_not (isNameChar inQuery) tail
  rw [hd] at hnot
  simpa using hnot

end MarksName

/-! ## Into an indexer -/

lemma follows_openIndexer {phase : Phase} (h : '[' :: tail <:+ text.toList) (chain : Chain) :
    Follows text ⟨offset text ('[' :: tail), phase, opened⟩
      ((Progress.steps chain opened).run ('[' :: tail))
      (openIndexer text (offset text ('[' :: tail)) opened chain) := by
  have htail := (List.suffix_cons '[' tail).trans h
  rw [openIndexer, bump_offset_cons h, ok_bind, Progress.run_bracket]
  refine follows_current_skip htail (fun hgap => by rw [Indexer.take, hgap]; rfl)
    fun c gap hgap hskip => ?_
  have hgap' := (List.suffix_cons c gap).trans hskip
  by_cases hquote : c = '\''
  · subst hquote
    refine follows_ok (.names (hskip.trans htail) _ _ _) (forward_cons h hskip) ?_
    rw [Indexer.take, hgap]
    show ((Indexer.takeNames gap).bind _).bind _ = (Indexer.takeNames gap).bind _
    rcases Indexer.takeNames gap with cause | found <;> rfl
  by_cases hquery : c = '?'
  · subst hquery
    simp only [bump_offset_cons (hskip.trans htail), ok_bind, Indexer.take, hgap]
    refine follows_skip (hgap'.trans htail) (fun hnext => by rw [hnext]; rfl)
      fun d last hnext hskip' => ?_
    have hlast := (List.suffix_cons d last).trans (hskip'.trans hgap')
    rw [hnext, bump_offset_cons ((hskip'.trans hgap').trans htail)]
    by_cases hparen : d = '('
    · subst hparen
      exact follows_ok (.side (hlast.trans htail) _ _) (forward_cons h hlast) rfl
    · simp only
      exact follows_rejected rfl
  · -- the first index starts at the cursor
    rw [Indexer.take_eq_takeElements (by simp [hgap]) (by simp [hgap, hquote, hquery]), hgap]
    simp only
    refine follows_ok (.elements _ (hskip.trans htail) (.nil _ _) (List.forall_mem_nil _) .first
      chain opened) (forward_cons h hskip) ?_
    rw [elementsAnswer]
    rcases Indexer.takeElements (c :: gap) with cause | found <;> rfl

/-! ## Out of a chain -/

lemma follows_endChain_nil (hmark : MarksName text (!opened.isEmpty) chain start [] marked) :
    Follows text ⟨offset text [], .chain chain start, opened⟩
      ((Progress.steps marked opened).run [])
      (endChain text (offset text []) opened chain start) := by
  have hended : text.rawEndPos ≤ offset text [] :=
    (rawEndPos_le_offset_iff List.nil_suffix).2 rfl
  rw [endChain, Progress.run_nil, Progress.finish, hmark.closeName_eq, ok_bind]
  simp only [hended, decide_true, true_or, and_true, hmark.place_eq_dot_iff]
  split
  · exact follows_rejected rfl
  · cases opened with
    | nil => rfl
    | cons query opened => exact follows_rejected rfl

/-- The text goes on behind spaces. -/
lemma skipSpaces_ne_nil (hlast : text.toList.getLast? ≠ some ' ') (h : after <:+ text.toList)
    (hne : after ≠ []) : skipSpaces after ≠ [] := by
  intro hgap
  have hspaces : ∀ c ∈ after, c = ' ' := by
    simpa [skipSpaces, List.dropWhile_eq_nil_iff] using hgap
  obtain ⟨front, hfront⟩ := h
  refine hlast ?_
  rw [← hfront, List.getLast?_append_of_ne_nil _ hne, List.getLast?_eq_some_getLast hne,
    hspaces _ (List.getLast_mem hne)]

lemma follows_endChain_cons (hlast : text.toList.getLast? ≠ some ' ')
    (h : c :: tail <:+ text.toList)
    (hmark : MarksName text (!opened.isEmpty) chain start (c :: tail) marked)
    (hc : endsChain (!opened.isEmpty) c) :
    Follows text ⟨offset text (c :: tail), .chain chain start, opened⟩
      ((Progress.steps marked opened).run (c :: tail))
      (endChain text (offset text (c :: tail)) opened chain start) := by
  have hended : ¬text.rawEndPos ≤ offset text (c :: tail) := by
    simp [rawEndPos_le_offset_iff h]
  rw [endChain, Progress.run_cons, hmark.closeName_eq, ok_bind]
  simp only [hended, decide_false, Bool.false_eq_true, false_or, if_false, ← and_assoc,
    hmark.place_eq_dot_iff]
  cases opened with
  | nil =>
    -- the text does not end behind spaces, so what ends the chain is unexpected
    have hgap : ¬text.rawEndPos ≤ offset text (skipSpaces (c :: tail)) := by
      rw [rawEndPos_le_offset_iff ((skipSpaces_suffix _).trans h)]
      exact skipSpaces_ne_nil hlast h (List.cons_ne_nil c tail)
    simp only [ne_eq, not_true_eq_false, and_false, if_false, peek_offset h, skip_offset h,
      ok_bind, hgap, decide_false, List.head?_cons]
    refine follows_rejected ?_
    rw [Progress.advance, if_pos (show endsChain false c from hc)]
    rfl
  | cons query opened =>
    -- the chain is a side of a comparison, and the move at its end is the move behind the side
    have hcompare : Progress.resume (Progress.compare (.path marked.steps) query opened c tail)
        = (Progress.operandRead (.path marked.steps) query opened).run (c :: tail) := by
      rw [Progress.run_cons, Progress.advance]
    simp only [ne_eq, reduceCtorEq, not_false_eq_true, and_true, Progress.advance]
    rw [if_pos (show endsChain true c from hc)]
    split
    · exact follows_rejected rfl
    · exact follows_ok (.sideRead h _ _ _) (.leave _ _ _ _ _ _) hcompare

/-! ## On a chain -/

lemma advance_dot (chain : Chain) (opened : List OpenQuery) (rest : List Char) :
    (Progress.steps chain opened).advance '.' rest = Progress.extend chain opened '.' rest :=
  Progress.advance_steps (by cases opened <;> rfl) chain rest

lemma run_two_dots (chain : Chain) (opened : List OpenQuery) (rest : List Char) :
    (Progress.steps chain opened).run ('.' :: '.' :: rest)
      = (Progress.steps (chain.addDots true) opened).run rest := by
  rw [Progress.run_cons, advance_dot]
  rfl

lemma run_dot (h : tail.head? ≠ some '.') (chain : Chain) (opened : List OpenQuery) :
    (Progress.steps chain opened).run ('.' :: tail)
      = (Progress.steps (chain.addDots false) opened).run tail := by
  rw [Progress.run_cons, advance_dot]
  unfold Progress.extend
  rw [if_neg (by decide), if_pos rfl]
  split
  · exact absurd rfl h
  · rfl

lemma follows_stepChain (hlast : text.toList.getLast? ≠ some ' ') (h : after <:+ text.toList)
    (hmark : MarksName text (!opened.isEmpty) chain start after marked) :
    Follows text ⟨offset text after, .chain chain start, opened⟩
      ((Progress.steps marked opened).run after)
      (stepChain text (offset text after) opened chain start) := by
  cases after with
  | nil =>
    rw [stepChain, peek_offset h]
    exact follows_endChain_nil hmark
  | cons c tail =>
    have htail := (List.suffix_cons c tail).trans h
    simp only [stepChain, peek_offset h, ok_bind, List.head?_cons, hmark.closeName_eq]
    by_cases hbracket : c = '['
    · subst hbracket
      exact follows_openIndexer h marked
    rw [if_neg hbracket]
    by_cases hdot : c = '.'
    · subst hdot
      simp only [if_true, bump_offset_cons h, ok_bind, peek_offset htail]
      by_cases htwo : tail.head? = some '.'
      · obtain ⟨rest, rfl⟩ := List.head?_eq_some_iff.1 htwo
        have hrest := List.suffix_cons '.' rest
        simp only [List.head?_cons, if_true, bump_offset_cons htail]
        exact follows_ok (.chain (hrest.trans htail) (.fresh rest)) (forward_cons h hrest)
          (run_two_dots marked opened rest)
      · rw [if_neg htwo]
        exact follows_ok (.chain htail (.fresh tail)) (forward_cons h List.suffix_rfl)
          (run_dot htwo marked opened)
    rw [if_neg hdot]
    by_cases hends : endsChain (!opened.isEmpty) c
    · rw [if_pos hends]
      exact follows_endChain_cons hlast h hmark hends
    have hname : isNameChar (!opened.isEmpty) c := by simp [isNameChar, hbracket, hdot, hends]
    obtain ⟨rfl, rfl⟩ := hmark.eq_of_isNameChar hname
    rw [if_neg hends, Progress.run_cons, Progress.advance_steps (by simpa using hends)]
    unfold Progress.extend
    rw [if_neg hbracket, if_neg hdot]
    split
    · exact follows_rejected rfl
    · have hlater : tail.dropWhile (isNameChar (!opened.isEmpty)) <:+ tail :=
        List.dropWhile_suffix _
      have hlength : (tail.dropWhile (isNameChar (!opened.isEmpty))).length < (c :: tail).length :=
        Nat.lt_succ_of_le hlater.length_le
      rw [rest_offset h, ok_bind, List.dropWhile_cons_of_pos hname]
      simp only [hlength, if_true, before_eq (hlater.trans htail), ok_bind]
      exact follows_ok (.chain (hlater.trans htail) (.ofName h _ _)) (forward_cons h hlater)
        rfl

/-! ## Over the root -/

lemma dropAnchor_of_not_head {source : List Char} (hroot : source ≠ ['$'])
    (h : ¬(source.head? = some '$' ∧ (source[1]? = some '.' ∨ source[1]? = some '['))) :
    dropAnchor source = source := by
  unfold dropAnchor
  split <;> simp_all

lemma follows_stepAnchor :
    Follows text .start (Progress.run (.steps (.start []) []) (dropAnchor text.toList))
      (stepAnchor text 0) := by
  have h : text.toList <:+ text.toList := List.suffix_rfl
  unfold stepAnchor
  split
  · next hroot =>
    have hdrop : dropAnchor text.toList = [] := by rcases hroot with rfl | rfl <;> simp [dropAnchor]
    rw [hdrop, Progress.run_nil]
    rfl
  · next hroot =>
    rw [← offset_toList text, rest_offset h, ok_bind]
    split
    · next hhead =>
      obtain ⟨hdollar, hnext⟩ := hhead
      obtain ⟨tail, htail⟩ := List.head?_eq_some_iff.1 hdollar
      have hsource : '$' :: tail <:+ text.toList := ⟨[], htail.symm⟩
      have hdrop : dropAnchor ('$' :: tail) = tail := by
        refine dropAnchor_of_head fun c hc => ?_
        simpa [htail, ← List.head?_eq_getElem?, Option.mem_def.1 hc] using hnext
      rw [htail, hdrop, bump_offset_cons hsource]
      exact follows_ok (.chain ((List.suffix_cons _ _).trans hsource) (.fresh _)) (.enter _ _ _) rfl
    · next hhead =>
      have hdrop : dropAnchor text.toList = text.toList :=
        dropAnchor_of_not_head (fun hsame => hroot (.inr (String.toList_injective hsame))) hhead
      rw [hdrop]
      exact follows_ok (.chain h (.fresh _)) (.enter _ _ _) rfl

/-! ## Every step -/

/-- Every step keeps the answer, or it halts with it. -/
theorem Tracks.follows {state : State} {answer : Except SyntaxError Path}
    (hlast : text.toList.getLast? ≠ some ' ') (h : Tracks text state answer) :
    Follows text state answer (step text state) := by
  cases h with
  | anchor => exact follows_stepAnchor
  | chain h hmark => exact follows_stepChain hlast h hmark
  | names h => exact follows_stepNames h _ _ _
  | quoted h => exact follows_stepQuoted h _ _ _
  | elements slot h hmark hnumber hread => exact follows_stepElements h hmark hnumber hread _ _
  | side h => exact follows_stepSide h _ _
  | sideRead h => exact follows_stepSideRead h _ _ _
  | pattern h hbody => exact follows_stepPattern h hbody _ _
  | closing h =>
    rw [run_closing]
    exact follows_closeIndexer h (offset_le h List.suffix_rfl) rfl _

end PathQuery.Path.Cursor
