/-
# What a move can be

A reading goes on by moves.  The relation `Progress.Move` lists them: from where a move starts, the
text that it takes, and where it leads.  It holds exactly of the moves that succeed
(`advance_eq_ok_iff`), so what all moves have in common is shown by looking at each of them once.
-/
import PathQuery.Proofs.Path.QueryMoves

namespace PathQuery.Path.Progress

/-! ## The moves -/

/-- The comparison that an operand completes: the one whose left side is pending, or a test of
existence. -/
def completed (side : Operand) (query : OpenQuery) : Expression :=
  match query.pending with
  | some (left, comparator) => .comparison comparator left (some side)
  | none => .comparison .exists side none

/-- The moves behind an operand. -/
inductive OperandMove (side : Operand) (query : OpenQuery) (opened : List OpenQuery) :
    List Char → Progress → List Char → Prop
  | space (rest : List Char) :
      OperandMove side query opened (' ' :: rest) (.operandRead side query opened) rest
  | comparator {c : Char} {rest after : List Char} {comparator : Comparator}
      (hc : c ∉ [' ', ')', '|', '&']) (hpending : query.pending = none)
      (htake : Comparator.take (c :: rest) = .ok (comparator, after)) :
      OperandMove side query opened (c :: rest)
        (.operand { query with pending := some (side, comparator) } opened) after
  | close (rest : List Char) :
      OperandMove side query opened (')' :: rest)
        (.closing (query.close (completed side query)) query.chain opened) rest
  | and (rest : List Char) :
      OperandMove side query opened ('&' :: '&' :: rest)
        (.operand (query.joinAnd (completed side query)) opened) rest
  | or (rest : List Char) :
      OperandMove side query opened ('|' :: '|' :: rest)
        (.operand (query.joinOr (completed side query)) opened) rest

/-- The moves of a reading. -/
inductive Move : Progress → List Char → Progress → List Char → Prop
  | names {chain : Chain} {opened : List OpenQuery} {rest after : List Char} {names : List String}
      (htake : Indexer.take rest = .ok (.names names, after)) :
      Move (.steps chain opened) ('[' :: rest) (.steps (chain.addNames names) opened) after
  | elements {chain : Chain} {opened : List OpenQuery} {rest after : List Char} {step : Step}
      (htake : Indexer.take rest = .ok (.elements step, after)) :
      Move (.steps chain opened) ('[' :: rest) (.steps (chain.addElements step) opened) after
  | query {chain : Chain} {opened : List OpenQuery} {rest after : List Char}
      (htake : Indexer.take rest = .ok (.query, after)) :
      Move (.steps chain opened) ('[' :: rest) (.operand (.start chain) opened) after
  | dots (chain : Chain) (opened : List OpenQuery) (rest : List Char) :
      Move (.steps chain opened) ('.' :: '.' :: rest) (.steps (chain.addDots true) opened) rest
  | dot (chain : Chain) (opened : List OpenQuery) {rest : List Char}
      (hrest : ∀ c ∈ rest.head?, c ≠ '.') :
      Move (.steps chain opened) ('.' :: rest) (.steps (chain.addDots false) opened) rest
  | word {chain : Chain} {opened : List OpenQuery} {c : Char} {tail rest : List Char}
      (hplace : chain.place ≠ .indexer) (hword : ∀ d ∈ c :: tail, isNameChar (!opened.isEmpty) d)
      (hrest : ∀ d ∈ rest.head?, isNameChar (!opened.isEmpty) d = false) :
      Move (.steps chain opened) (c :: (tail ++ rest)) (.steps (chain.addName (c :: tail)) opened)
        rest
  | pathEnd {chain : Chain} {query : OpenQuery} {opened : List OpenQuery} {c : Char}
      {rest after : List Char} {next : Progress} (hc : endsChain true c)
      (hplace : chain.place ≠ .dot)
      (hmove : OperandMove (.path chain.steps) query opened (c :: rest) next after) :
      Move (.steps chain (query :: opened)) (c :: rest) next after
  | space (query : OpenQuery) (opened : List OpenQuery) (rest : List Char) :
      Move (.operand query opened) (' ' :: rest) (.operand query opened) rest
  | root (query : OpenQuery) (opened : List OpenQuery) (rest : List Char) :
      Move (.operand query opened) ('$' :: rest) (.steps (.start [.root]) (query :: opened)) rest
  | node (query : OpenQuery) (opened : List OpenQuery) (rest : List Char) :
      Move (.operand query opened) ('@' :: rest) (.steps (.start []) (query :: opened)) rest
  | literal {query : OpenQuery} {opened : List OpenQuery} {c : Char} {rest after : List Char}
      {value : Json} (hc : c ∉ [' ', '$', '@'])
      (htake : Literal.take (c :: rest) = .ok (value, after)) :
      Move (.operand query opened) (c :: rest) (.operandRead (.literal value) query opened) after
  | operandEnd {side : Operand} {query : OpenQuery} {opened : List OpenQuery}
      {text after : List Char} {next : Progress}
      (hmove : OperandMove side query opened text next after) :
      Move (.operandRead side query opened) text next after
  | closingSpace (filter : Expression) (chain : Chain) (opened : List OpenQuery)
      (rest : List Char) :
      Move (.closing filter chain opened) (' ' :: rest) (.closing filter chain opened) rest
  | close (filter : Expression) (chain : Chain) (opened : List OpenQuery) (rest : List Char) :
      Move (.closing filter chain opened) (']' :: rest) (.steps (chain.addQuery filter) opened)
        rest

/-! ## Every successful move is one of them -/

variable {c : Char} {rest after : List Char} {next : Progress} {opened : List OpenQuery}

lemma operandMove_of_compare {side : Operand} {query : OpenQuery}
    (h : compare side query opened c rest = .ok (next, after)) :
    OperandMove side query opened (c :: rest) next after := by
  -- a comparison that is complete is concluded in the same way, whatever was pending
  have hconclude (h : conclude (completed side query) query opened c rest = .ok (next, after)) :
      OperandMove side query opened (c :: rest) next after := by
    unfold conclude at h
    split at h
    all_goals simp only [Except.ok.injEq, Prod.mk.injEq, reduceCtorEq] at h
    all_goals obtain ⟨rfl, rfl⟩ := h
    · exact .close _
    · exact .and _
    · exact .or _
  unfold compare at h
  split at h
  · next hspace =>
    subst hspace
    obtain ⟨rfl, rfl⟩ := Prod.mk.inj (Except.ok.inj h)
    exact .space rest
  · next hspace =>
    split at h
    · next left comparator hpending =>
      refine hconclude ?_
      rwa [completed, hpending]
    · next hpending =>
      split at h
      · refine hconclude ?_
        rwa [completed, hpending]
      · next hends =>
        obtain ⟨⟨comparator, last⟩, htake, hsame⟩ := bind_eq_ok.1 h
        obtain ⟨rfl, rfl⟩ := Prod.mk.inj (Except.ok.inj hsame)
        exact .comparator (by simpa [hspace] using hends) hpending htake

lemma move_of_extend {chain : Chain} (hc : endsChain (!opened.isEmpty) c = false)
    (h : extend chain opened c rest = .ok (next, after)) :
    Move (.steps chain opened) (c :: rest) next after := by
  unfold extend at h
  split at h
  · next hbracket =>
    subst hbracket
    obtain ⟨⟨indexer, last⟩, htake, hsame⟩ := bind_eq_ok.1 h
    cases indexer <;> obtain ⟨rfl, rfl⟩ := Prod.mk.inj (Except.ok.inj hsame)
    · exact .names htake
    · exact .elements htake
    · exact .query htake
  · next hbracket =>
    split at h
    · next hdot =>
      subst hdot
      split at h <;> obtain ⟨rfl, rfl⟩ := Prod.mk.inj (Except.ok.inj h)
      · exact .dots chain opened _
      · next hrest =>
        refine .dot chain opened fun d hd hdot => ?_
        subst hdot
        obtain ⟨tail, rfl⟩ := List.head?_eq_some_iff.1 hd
        exact hrest tail rfl
    · next hdot =>
      split at h
      · simp at h
      · next hplace =>
        obtain ⟨rfl, rfl⟩ := Prod.mk.inj (Except.ok.inj h)
        have hchar : isNameChar (!opened.isEmpty) c := by
          simp [isNameChar, hbracket, hdot, hc]
        have hword : ∀ d ∈ c :: rest.takeWhile (isNameChar (!opened.isEmpty)),
            isNameChar (!opened.isEmpty) d := by
          rintro d (_ | ⟨_, hd⟩)
          · exact hchar
          · exact List.mem_takeWhile_imp hd
        have hrest : ∀ d ∈ (rest.dropWhile (isNameChar (!opened.isEmpty))).head?,
            isNameChar (!opened.isEmpty) d = false := by
          intro d hd
          have hnot := List.head?_dropWhile_not (isNameChar (!opened.isEmpty)) rest
          rwa [hd] at hnot
        have hmove := Move.word hplace hword hrest
        rwa [List.takeWhile_append_dropWhile] at hmove

lemma move_of_advance {progress : Progress} (h : progress.advance c rest = .ok (next, after)) :
    Move progress (c :: rest) next after := by
  unfold advance at h
  split at h
  · next chain =>
    split at h
    · simp at h
    · next hc => exact move_of_extend (by simpa using hc) h
  · next chain query opened =>
    split at h
    · next hc =>
      split at h
      · simp at h
      · next hplace => exact .pathEnd hc hplace (operandMove_of_compare h)
    · next hc => exact move_of_extend (by simpa using hc) h
  · next query opened =>
    split at h
    · next hc =>
      subst hc
      obtain ⟨rfl, rfl⟩ := Prod.mk.inj (Except.ok.inj h)
      exact .space query opened rest
    · next hspace =>
      split at h
      · next hc =>
        subst hc
        obtain ⟨rfl, rfl⟩ := Prod.mk.inj (Except.ok.inj h)
        exact .root query opened rest
      · next hroot =>
        split at h
        · next hc =>
          subst hc
          obtain ⟨rfl, rfl⟩ := Prod.mk.inj (Except.ok.inj h)
          exact .node query opened rest
        · next hnode =>
          obtain ⟨⟨value, last⟩, htake, hsame⟩ := bind_eq_ok.1 h
          obtain ⟨rfl, rfl⟩ := Prod.mk.inj (Except.ok.inj hsame)
          exact .literal (by simp [hspace, hroot, hnode]) htake
  · exact .operandEnd (operandMove_of_compare h)
  · next filter chain opened =>
    split at h
    · next hc =>
      subst hc
      obtain ⟨rfl, rfl⟩ := Prod.mk.inj (Except.ok.inj h)
      exact .closingSpace filter chain opened rest
    · split at h
      · next hc =>
        subst hc
        obtain ⟨rfl, rfl⟩ := Prod.mk.inj (Except.ok.inj h)
        exact .close filter chain opened rest
      · simp at h

/-! ## Every one of them is a successful move -/

/-- A comparison that ends here is concluded in the same way, whatever was pending. -/
lemma compare_eq_conclude (hc : c ∈ comparisonEnds) (side : Operand) (query : OpenQuery) :
    compare side query opened c rest = conclude (completed side query) query opened c rest := by
  unfold completed
  split
  · next left comparator hpending => exact compare_of_pending hc hpending side opened rest
  · next hpending => exact compare_of_pending_eq_none hc hpending side opened rest

lemma OperandMove.compare_eq {side : Operand} {query : OpenQuery}
    (h : OperandMove side query opened (c :: rest) next after) :
    compare side query opened c rest = .ok (next, after) := by
  cases h with
  | space => rfl
  | comparator hc hpending htake =>
    simp only [List.mem_cons, List.not_mem_nil, or_false, not_or] at hc
    unfold compare
    rw [if_neg hc.1]
    simp only [hpending]
    rw [if_neg (by simp [hc]), htake]
    rfl
  | close => exact compare_eq_conclude (by decide) side query
  | and => exact compare_eq_conclude (by decide) side query
  | or => exact compare_eq_conclude (by decide) side query

lemma endsChain_of_isNameChar {inQuery : Bool} (hc : isNameChar inQuery c) :
    c ≠ '[' ∧ c ≠ '.' ∧ endsChain inQuery c = false := by
  have hnot : ¬(c = '.' ∨ c = '[') ∧ endsChain inQuery c = false := by
    simpa [isNameChar] using hc
  exact ⟨fun h => hnot.1 (Or.inr h), fun h => hnot.1 (Or.inl h), hnot.2⟩

lemma Move.advance_eq {progress : Progress} (h : Move progress (c :: rest) next after) :
    progress.advance c rest = .ok (next, after) := by
  have hbracket (opened : List OpenQuery) : endsChain (!opened.isEmpty) '[' = false := by
    cases opened <;> rfl
  have hdot (opened : List OpenQuery) : endsChain (!opened.isEmpty) '.' = false := by
    cases opened <;> rfl
  cases h with
  | names htake | elements htake | query htake =>
    rw [advance_steps (hbracket _)]
    unfold extend
    rw [if_pos rfl, htake]
    rfl
  | dots chain opened => exact advance_steps (hdot opened) chain _
  | dot chain opened hrest =>
    rw [advance_steps (hdot opened)]
    unfold extend
    rw [if_neg (by decide), if_pos rfl]
    split
    · next tail => exact absurd rfl (hrest '.' rfl)
    · rfl
  | word hplace hword hrest =>
    obtain ⟨hbracket, hdot, hends⟩ := endsChain_of_isNameChar (hword c (by simp))
    have htail := fun d hd => hword d (List.mem_cons_of_mem c hd)
    rw [advance_steps hends]
    unfold extend
    rw [if_neg hbracket, if_neg hdot, if_neg hplace]
    simp only [takeWhile_append_of_head htail hrest, dropWhile_append_of_head htail hrest]
  | pathEnd hc hplace hmove =>
    rw [advance, if_pos hc, if_neg hplace, hmove.compare_eq]
  | space => rfl
  | root => rfl
  | node => rfl
  | literal hc htake =>
    simp only [List.mem_cons, List.not_mem_nil, or_false, not_or] at hc
    rw [advance, if_neg hc.1, if_neg hc.2.1, if_neg hc.2.2, htake]
    rfl
  | operandEnd hmove => exact hmove.compare_eq
  | closingSpace => rfl
  | close => rfl

/-- The moves that succeed are the ones that are listed. -/
theorem advance_eq_ok_iff {progress : Progress} :
    progress.advance c rest = .ok (next, after) ↔ Move progress (c :: rest) next after :=
  ⟨move_of_advance, Move.advance_eq⟩

/-! ## Runs -/

lemma Move.exists_eq_cons {progress : Progress} {text : List Char}
    (h : Move progress text next after) : ∃ c rest, text = c :: rest := by
  have hoperand {side : Operand} {query : OpenQuery} {opened : List OpenQuery}
      (h : OperandMove side query opened text next after) : ∃ c rest, text = c :: rest := by
    cases h <;> exact ⟨_, _, rfl⟩
  cases h with
  | operandEnd hmove => exact hoperand hmove
  | _ => exact ⟨_, _, rfl⟩

/-- After a move the reading goes on from where the move leads. -/
lemma Move.run_eq {progress : Progress} {text : List Char} (h : Move progress text next after) :
    progress.run text = next.run after := by
  obtain ⟨c, rest, rfl⟩ := h.exists_eq_cons
  rw [run_cons, advance_eq_ok_iff.2 h, resume_ok]

lemma finish_eq_ok_iff {progress : Progress} {path : Path} :
    progress.finish = .ok path
      ↔ ∃ chain, progress = .steps chain [] ∧ chain.place ≠ .dot ∧ chain.steps = path := by
  constructor
  · intro h
    unfold finish at h
    split at h
    · next chain opened =>
      split at h
      · simp at h
      · next hplace =>
        split at h
        · next hopened =>
          obtain rfl := List.isEmpty_iff.1 hopened
          exact ⟨chain, rfl, hplace, Except.ok.inj h⟩
        · simp at h
    all_goals simp at h
  · rintro ⟨chain, rfl, hplace, rfl⟩
    rw [finish, if_neg hplace]
    rfl

/-- A reading that succeeds is a row of moves to the end of the text.  What holds at the end and is
carried back over every move holds at the start. -/
theorem run_induction {path : Path} {motive : Progress → List Char → Prop}
    (finish : ∀ {chain : Chain}, chain.place ≠ .dot → chain.steps = path →
      motive (.steps chain []) [])
    (move : ∀ {progress next : Progress} {text after : List Char}, Move progress text next after →
      next.run after = .ok path → motive next after → motive progress text)
    {progress : Progress} {text : List Char} (h : progress.run text = .ok path) :
    motive progress text := by
  fun_induction run progress text with
  | case1 progress =>
    obtain ⟨chain, rfl, hplace, hsteps⟩ := finish_eq_ok_iff.1 h
    exact finish hplace hsteps
  | case2 progress c rest cause hcause => simp at h
  | case3 progress c rest next after hmove _ ih => exact move (advance_eq_ok_iff.1 hmove) h (ih h)

end PathQuery.Path.Progress
