/-
# Moves over what is spelled

A text is *read as* a piece of syntax if the moves of a reading lead over it, whatever comes behind,
and leave the piece where it belongs: steps at the end of the chain, operands at the comparison
being read, comparisons in the conjunction and conjunctions among the alternatives.  Each lemma of
this module reads one form of syntax, given that its parts are read.
-/
import PathQuery.Proofs.Path.Tokens

namespace PathQuery.Path

open Spelling

namespace Chain

/-- Nothing is left to come: the chain may end here, and a step that is added is no scan unless more
dots come. -/
structure IsReady (chain : Chain) : Prop where
  scanning : chain.scanning = false
  place : chain.place ≠ .dot

/-- The chain behind so many dots: two or more make the next step a scan. -/
def afterDots (chain : Chain) : Nat → Chain
  | 0 => chain
  | n + 1 => { chain with scanning := chain.scanning || decide (1 ≤ n), place := .dot }

@[simp] lemma steps_afterDots (chain : Chain) (n : Nat) :
    (chain.afterDots n).steps = chain.steps := by
  cases n <;> rfl

lemma IsReady.scanning_afterDots {chain : Chain} (h : chain.IsReady) (n : Nat) :
    (chain.afterDots n).scanning = decide (2 ≤ n) := by
  cases n <;> simp [afterDots, h.scanning]

lemma addDots_false (chain : Chain) : chain.addDots false = chain.afterDots 1 := rfl

lemma afterDots_addDots_true (chain : Chain) (n : Nat) :
    (chain.addDots true).afterDots n = chain.afterDots (n + 2) := by
  cases n <;> simp [addDots, afterDots]

lemma namesStep_of_length {names : List String} (h : 2 ≤ names.length) (scanning : Bool) :
    namesStep scanning names = if scanning then .scanFields names else .fields names := by
  match names, h with
  | _ :: _ :: _, _ => rfl

end Chain

namespace Progress

/-- The reading that goes on after a move. -/
def resume (moved : Except SyntaxError (Progress × List Char)) : Except SyntaxError Path :=
  moved.bind fun (next, after) => next.run after

@[simp] lemma resume_ok (next : Progress) (after : List Char) :
    resume (.ok (next, after)) = next.run after := rfl

lemma run_nil (progress : Progress) : progress.run [] = progress.finish := by
  rw [run]

lemma run_cons (progress : Progress) (c : Char) (rest : List Char) :
    progress.run (c :: rest) = resume (progress.advance c rest) := by
  rw [run]
  split
  · next cause h =>
    rw [h]
    rfl
  · next next after h =>
    simp only [h]
    rfl

/-! ## Spaces -/

lemma spaces_succ_append (n : Nat) (rest : List Char) :
    spaces (n + 1) ++ rest = ' ' :: (spaces n ++ rest) := rfl

/-- What passes over one space passes over any number of them. -/
lemma run_spaces {progress : Progress}
    (hspace : ∀ rest, progress.advance ' ' rest = .ok (progress, rest)) (n : Nat)
    (rest : List Char) : progress.run (spaces n ++ rest) = progress.run rest := by
  induction n with
  | zero => rfl
  | succ n ih => rw [spaces_succ_append, run_cons, hspace, resume_ok, ih]

lemma run_operand_spaces (query : OpenQuery) (opened : List OpenQuery) (n : Nat)
    (rest : List Char) :
    (operand query opened).run (spaces n ++ rest) = (operand query opened).run rest :=
  run_spaces (fun _ => rfl) n rest

lemma run_operandRead_spaces (side : Operand) (query : OpenQuery) (opened : List OpenQuery)
    (n : Nat) (rest : List Char) :
    (operandRead side query opened).run (spaces n ++ rest)
      = (operandRead side query opened).run rest :=
  run_spaces (fun _ => rfl) n rest

lemma run_closing_spaces (filter : Expression) (chain : Chain) (opened : List OpenQuery) (n : Nat)
    (rest : List Char) :
    (closing filter chain opened).run (spaces n ++ rest)
      = (closing filter chain opened).run rest :=
  run_spaces (fun _ => rfl) n rest

/-! ## Dots and names -/

lemma isNameChar_of_notMem {c : Char} (h : c ∉ ['.', '[', ']', ')', ' ']) :
    isNameChar false c := by
  simp only [List.mem_cons, List.not_mem_nil, or_false, not_or] at h
  simp [isNameChar, endsChain, h]

lemma advance_steps {opened : List OpenQuery} {c : Char}
    (hc : endsChain (!opened.isEmpty) c = false) (chain : Chain) (rest : List Char) :
    (steps chain opened).advance c rest = extend chain opened c rest := by
  cases opened with
  | nil => exact if_neg (by simpa using hc)
  | cons query opened => exact if_neg (by simpa using hc)

lemma run_dots {c : Char} (hc : c ≠ '.') (opened : List OpenQuery) (rest : List Char) :
    ∀ (n : Nat) (chain : Chain), (steps chain opened).run (dots n ++ c :: rest)
      = (steps (chain.afterDots n) opened).run (c :: rest)
  | 0, chain => rfl
  | 1, chain => by
    have hdot : endsChain (!opened.isEmpty) '.' = false := by cases opened <;> rfl
    show (steps chain opened).run ('.' :: c :: rest) = _
    rw [run_cons, advance_steps hdot, ← Chain.addDots_false]
    simp [extend, hc]
  | n + 2, chain => by
    -- dots are taken in pairs, and the chain remembers that there was one
    have hdot : endsChain (!opened.isEmpty) '.' = false := by cases opened <;> rfl
    show (steps chain opened).run ('.' :: '.' :: (dots n ++ c :: rest)) = _
    rw [run_cons, advance_steps hdot, ← Chain.afterDots_addDots_true, ← run_dots hc]
    rfl

/-- A word is taken as a whole if what is behind it cannot stand in a name. -/
lemma run_word {chain : Chain} {opened : List OpenQuery} {word rest : List Char}
    (hplace : chain.place ≠ .indexer) (hne : word ≠ [])
    (hword : ∀ c ∈ word, isNameChar (!opened.isEmpty) c)
    (hrest : ∀ c ∈ rest.head?, isNameChar (!opened.isEmpty) c = false) :
    (steps chain opened).run (word ++ rest) = (steps (chain.addName word) opened).run rest := by
  obtain ⟨c, tail, rfl⟩ := List.exists_cons_of_ne_nil hne
  have hc : ¬(c = '.' ∨ c = '[') ∧ endsChain (!opened.isEmpty) c = false := by
    simpa [isNameChar] using hword c (by simp)
  have htail : ∀ d ∈ tail, isNameChar (!opened.isEmpty) d := fun d hd => hword d (by simp [hd])
  rw [List.cons_append, run_cons, advance_steps hc.2]
  unfold extend
  rw [if_neg fun h => hc.1 (Or.inr h), if_neg fun h => hc.1 (Or.inl h), if_neg hplace]
  simp only [takeWhile_append_of_head htail hrest, dropWhile_append_of_head htail hrest, resume_ok]

/-- A word behind dots, or where a word may stand without dots. -/
lemma run_dots_word {chain : Chain} {opened : List OpenQuery} {n : Nat} {word rest : List Char}
    (hplace : (chain.afterDots n).place ≠ .indexer) (hne : word ≠ [])
    (hword : ∀ c ∈ word, isNameChar (!opened.isEmpty) c)
    (hrest : ∀ c ∈ rest.head?, isNameChar (!opened.isEmpty) c = false) :
    (steps chain opened).run (dots n ++ (word ++ rest))
      = (steps ((chain.afterDots n).addName word) opened).run rest := by
  obtain ⟨c, tail, rfl⟩ := List.exists_cons_of_ne_nil hne
  -- the dots end at the word, for no word starts with a dot
  have hc : c ≠ '.' := by
    rintro rfl
    exact absurd (hword '.' (by simp)) (by simp [isNameChar])
  rw [List.cons_append, run_dots hc, ← List.cons_append, run_word hplace hne hword hrest]

/-! ## Steps -/

/-- The text is read as steps at the end of a chain. -/
def ReadsSteps (inQuery : Bool) (path : List Step) (text : List Char) : Prop :=
  ∀ (chain : Chain) (opened : List OpenQuery) (rest : List Char), chain.IsReady →
    (!opened.isEmpty) = inQuery → (∀ c ∈ rest.head?, isNameChar inQuery c = false) →
    ∃ next : Chain, next.IsReady ∧ next.steps = chain.steps ++ path ∧
      (steps chain opened).run (text ++ rest) = (steps next opened).run rest

lemma readsSteps_nil (inQuery : Bool) : ReadsSteps inQuery [] [] := fun chain _ _ hready _ _ =>
  ⟨chain, hready, (List.append_nil _).symm, rfl⟩

/-- What is behind the first steps is the text of the others, or what is behind all of them. -/
lemma ReadsSteps.append {inQuery : Bool} {path path' : List Step} {text text' : List Char}
    (h : ReadsSteps inQuery path text) (h' : ReadsSteps inQuery path' text')
    (htext' : ∀ c ∈ text'.head?, isNameChar inQuery c = false) :
    ReadsSteps inQuery (path ++ path') (text ++ text') := by
  intro chain opened rest hready hopened hrest
  have hboth : ∀ c ∈ (text' ++ rest).head?, isNameChar inQuery c = false := by
    cases text' with
    | nil => exact hrest
    | cons c text' => exact htext'
  obtain ⟨mid, hmid, hsteps, hrun⟩ := h chain opened (text' ++ rest) hready hopened hboth
  obtain ⟨next, hnext, hsteps', hrun'⟩ := h' mid opened rest hmid hopened hrest
  refine ⟨next, hnext, ?_, ?_⟩
  · rw [hsteps', hsteps, List.append_assoc]
  · rw [List.append_assoc, hrun, hrun']

lemma readsSteps_word {inQuery : Bool} {n : Nat} (hdots : 1 ≤ n) {word : List Char}
    (hne : word ≠ []) (hword : ∀ c ∈ word, isNameChar inQuery c) {name : Option String}
    (hname : name = if word = ['*'] then none else some (String.ofList word)) :
    ReadsSteps inQuery [if 2 ≤ n then .scan name else .field name] (dots n ++ word) := by
  rintro chain opened rest hready rfl hrest
  refine ⟨(chain.afterDots n).addName word, ⟨rfl, by simp [Chain.addName]⟩, ?_, ?_⟩
  · simp [Chain.addName, hready.scanning_afterDots, hname]
  · have hplace : (chain.afterDots n).place ≠ .indexer := by
      obtain ⟨n, rfl⟩ := Nat.exists_eq_add_of_le' hdots
      simp [Chain.afterDots]
    rw [List.append_assoc, run_dots_word hplace hne hword hrest]

lemma bracketed_append (m : Nat) (text : List Char) (n : Nat) (rest : List Char) :
    bracketed m text n ++ rest = '[' :: (spaces m ++ (text ++ (spaces n ++ ']' :: rest))) := by
  simp [bracketed]

/-- An indexer, in which the steps depend on whether it stands behind two dots. -/
lemma readsSteps_bracketed {a b : Nat} {text : List Char} (add : Chain → Chain)
    (path : Bool → List Step)
    (hmove : ∀ (chain : Chain) (opened : List OpenQuery) (rest : List Char),
      (steps chain opened).run (bracketed a text b ++ rest) = (steps (add chain) opened).run rest)
    (hready : ∀ chain, (add chain).IsReady)
    (hsteps : ∀ chain, (add chain).steps = chain.steps ++ path chain.scanning) (inQuery : Bool)
    (n : Nat) : ReadsSteps inQuery (path (decide (2 ≤ n))) (dots n ++ bracketed a text b) := by
  intro chain opened rest hchain hopened hrest
  refine ⟨add (chain.afterDots n), hready _, ?_, ?_⟩
  · rw [hsteps, Chain.steps_afterDots, hchain.scanning_afterDots]
  · rw [List.append_assoc, bracketed_append, run_dots (by decide), ← bracketed_append, hmove]

lemma run_bracket (chain : Chain) (opened : List OpenQuery) (rest : List Char) :
    (steps chain opened).run ('[' :: rest)
      = (Indexer.take rest).bind fun
        | (.names names, rest) => (steps (chain.addNames names) opened).run rest
        | (.elements step, rest) => (steps (chain.addElements step) opened).run rest
        | (.query, rest) => (operand (.start chain) opened).run rest := by
  have hbracket : endsChain (!opened.isEmpty) '[' = false := by cases opened <;> rfl
  rw [run_cons, advance_steps hbracket]
  show resume ((Indexer.take rest).bind _) = _
  rcases Indexer.take rest with cause | ⟨indexer, rest⟩
  · rfl
  · cases indexer <;> rfl

lemma readsSteps_names {names : List String} {text : List Char} (h : SpellsNames names text)
    (inQuery : Bool) (n a b : Nat) :
    ReadsSteps inQuery [Chain.namesStep (decide (2 ≤ n)) names] (dots n ++ bracketed a text b) := by
  refine readsSteps_bracketed (fun chain => chain.addNames names)
    (fun scanning => [Chain.namesStep scanning names]) ?_ ?_ (fun _ => rfl) inQuery n
  · intro chain opened rest
    rw [bracketed_append, run_bracket, Indexer.take_of_spellsNames h]
    rfl
  · exact fun chain => ⟨rfl, by simp [Chain.addNames]⟩

lemma readsSteps_elements {step : Step} {text : List Char} (h : SpellsElements step text)
    (inQuery : Bool) (n a b : Nat) :
    ReadsSteps inQuery (if 2 ≤ n then [.scan none, step] else [step])
      (dots n ++ bracketed a text b) := by
  have hmove (chain : Chain) (opened : List OpenQuery) (rest : List Char) :
      (steps chain opened).run (bracketed a text b ++ rest)
        = (steps (chain.addElements step) opened).run rest := by
    rw [bracketed_append, run_bracket, Indexer.take_of_spellsElements h]
    rfl
  have hready (chain : Chain) : (chain.addElements step).IsReady :=
    ⟨rfl, by simp [Chain.addElements]⟩
  simpa using readsSteps_bracketed (fun chain => chain.addElements step)
    (fun scanning => if scanning then [.scan none, step] else [step]) hmove hready (fun _ => rfl)
    inQuery n

/-- The text is read as the expression of a query, up to the parenthesis. -/
def ReadsExpression (filter : Expression) (text : List Char) : Prop :=
  ∀ (chain : Chain) (opened : List OpenQuery) (rest : List Char),
    (operand (.start chain) opened).run (text ++ ')' :: rest)
      = (closing filter chain opened).run rest

lemma readsSteps_query {filter : Expression} {text : List Char} (h : ReadsExpression filter text)
    (inQuery : Bool) (n a b c : Nat) :
    ReadsSteps inQuery [if 2 ≤ n then .queryScan filter else .query filter]
      (dots n ++ bracketed a ('?' :: spaces c ++ '(' :: text ++ [')']) b) := by
  have hmove (chain : Chain) (opened : List OpenQuery) (rest : List Char) :
      (steps chain opened).run (bracketed a ('?' :: spaces c ++ '(' :: text ++ [')']) b ++ rest)
        = (steps (chain.addQuery filter) opened).run rest := by
    have htext : '?' :: spaces c ++ '(' :: text ++ [')'] ++ (spaces b ++ ']' :: rest)
        = '?' :: (spaces c ++ '(' :: (text ++ ')' :: (spaces b ++ ']' :: rest))) := by simp
    have hopen := Indexer.take_query a c (text ++ ')' :: (spaces b ++ ']' :: rest))
    rw [bracketed_append, htext, run_bracket, hopen]
    show (operand (.start chain) opened).run (text ++ ')' :: (spaces b ++ ']' :: rest)) = _
    rw [h, run_closing_spaces, run_cons]
    rfl
  have hready (chain : Chain) : (chain.addQuery filter).IsReady := ⟨rfl, by simp [Chain.addQuery]⟩
  simpa using readsSteps_bracketed (fun chain => chain.addQuery filter)
    (fun scanning => [if scanning then .queryScan filter else .query filter]) hmove hready
    (fun _ => rfl) inQuery n

end Progress

end PathQuery.Path
