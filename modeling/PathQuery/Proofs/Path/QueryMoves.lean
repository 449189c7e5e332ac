/-
# Moves over what is spelled in a query

Within a query the moves lead over operands, comparators and connectives.  A comparison comes at the
end of the conjunction before it, and a conjunction at the end of the alternatives before it.  Each
lemma of this module reads one form of operand or expression, given that its parts are read.
-/
import PathQuery.Proofs.Path.Moves

namespace PathQuery.Path.Progress

open Spelling

/-! ## Operands -/

/-- The text is read as a side of the comparison that is being read. -/
def ReadsOperand (side : Operand) (text : List Char) : Prop :=
  ∀ (query : OpenQuery) (opened : List OpenQuery) {c : Char} (_ : c ∈ operandEnds)
    (rest : List Char),
    (operand query opened).run (text ++ c :: rest) = resume (compare side query opened c rest)

/-- The first character of a literal. -/
lemma head_of_spellsLiteral {value : Json} {text : List Char} (h : SpellsLiteral value text) :
    ∃ c tail, text = c :: tail ∧ c ∉ [' ', '$', '@', '=', '>'] := by
  cases h with
  | integer hn =>
    obtain ⟨c, tail, rfl⟩ := List.exists_cons_of_ne_nil hn.ne_nil
    refine ⟨c, tail, rfl, fun hc => ?_⟩
    have hindex : ∀ c ∈ [' ', '$', '@', '=', '>'], Indexer.isIndexChar c = false :=
      List.forall_iff_forall_mem.1 (by decide)
    exact absurd (hn.isIndexChar c (by simp)) (by simp [hindex c hc])
  | _ => exact ⟨_, _, rfl, by decide⟩

lemma readsOperand_literal {value : Json} {text : List Char} (h : SpellsLiteral value text) :
    ReadsOperand (.literal value) text := by
  intro query opened c hc rest
  have htake := Literal.take_of_spells h hc rest
  obtain ⟨d, tail, rfl, hd⟩ := head_of_spellsLiteral h
  have hadvance : (operand query opened).advance d (tail ++ c :: rest)
      = .ok (operandRead (.literal value) query opened, c :: rest) := by
    simp only [List.mem_cons, not_or] at hd
    rw [advance, if_neg hd.1, if_neg hd.2.1, if_neg hd.2.2.1, ← List.cons_append, htake]
    rfl
  rw [List.cons_append, run_cons, hadvance, resume_ok, run_cons]
  rfl

/-- A path within a query ends where an operand ends. -/
lemma run_steps_of_reads {path : List Step} {text : List Char} (h : ReadsSteps true path text)
    (front : List Step) (query : OpenQuery) (opened : List OpenQuery) {c : Char}
    (hc : c ∈ operandEnds) (rest : List Char) :
    (steps (.start front) (query :: opened)).run (text ++ c :: rest)
      = resume (compare (.path (front ++ path)) query opened c rest) := by
  have hends : ∀ c ∈ operandEnds, endsChain true c = true :=
    List.forall_iff_forall_mem.1 (by decide)
  have hrest : ∀ d ∈ (c :: rest).head?, isNameChar true d = false := by
    simp [isNameChar, hends c hc]
  obtain ⟨next, hready, hsteps, hrun⟩ :=
    h (.start front) (query :: opened) (c :: rest) ⟨rfl, by simp [Chain.start]⟩ rfl hrest
  rw [hrun, run_cons, advance, if_pos (hends c hc), if_neg hready.place, hsteps]
  rfl

lemma readsOperand_relative {path : List Step} {text : List Char} (h : ReadsSteps true path text) :
    ReadsOperand (.path path) ('@' :: text) := by
  intro query opened c hc rest
  rw [List.cons_append, run_cons]
  exact run_steps_of_reads h [] query opened hc rest

lemma readsOperand_absolute {path : List Step} {text : List Char} (h : ReadsSteps true path text) :
    ReadsOperand (.path (.root :: path)) ('$' :: text) := by
  intro query opened c hc rest
  rw [List.cons_append, run_cons]
  exact run_steps_of_reads h [.root] query opened hc rest

/-- Spaces behind an operand change nothing. -/
lemma ReadsOperand.run_spaces {side : Operand} {text : List Char} (h : ReadsOperand side text)
    (query : OpenQuery) (opened : List OpenQuery) (n : Nat) {c : Char} (hc : c ∈ operandEnds)
    (rest : List Char) :
    (operand query opened).run (text ++ (spaces n ++ c :: rest))
      = resume (compare side query opened c rest) := by
  cases n with
  | zero => exact h query opened hc rest
  | succ n =>
    -- the first space ends the operand, and the others are skipped behind it
    have hspace : ' ' ∈ operandEnds := by decide
    rw [spaces_succ_append, h query opened hspace]
    show (operandRead side query opened).run (spaces n ++ c :: rest) = _
    rw [run_operandRead_spaces, run_cons]
    rfl

/-! ## Comparisons -/

/-- Characters that stand behind a comparison. -/
def comparisonEnds : List Char := [')', '&', '|']

/-- The text is read as a comparison of the conjunction that is being read. -/
def ReadsComparison (comparison : Expression) (text : List Char) : Prop :=
  ∀ (query : OpenQuery) (opened : List OpenQuery) {c : Char} (_ : query.pending = none)
    (_ : c ∈ comparisonEnds) (rest : List Char),
    (operand query opened).run (text ++ c :: rest)
      = resume (conclude comparison query opened c rest)

/-- What is pending is forgotten with the comparison. -/
lemma conclude_pending (comparison : Expression) (query : OpenQuery)
    (pending : Option (Operand × Comparator)) (opened : List OpenQuery) (c : Char)
    (rest : List Char) :
    conclude comparison { query with pending } opened c rest
      = conclude comparison query opened c rest := by
  unfold conclude
  split <;> rfl

lemma ne_space_of_mem_comparisonEnds {c : Char} (hc : c ∈ comparisonEnds) : c ≠ ' ' := by
  have hall : ∀ c ∈ comparisonEnds, c ≠ ' ' := List.forall_iff_forall_mem.1 (by decide)
  exact hall c hc

/-- At the end of a comparison the operand is its right side. -/
lemma compare_of_pending {c : Char} (hc : c ∈ comparisonEnds) {query : OpenQuery} {left : Operand}
    {comparator : Comparator} (hpending : query.pending = some (left, comparator)) (side : Operand)
    (opened : List OpenQuery) (rest : List Char) :
    compare side query opened c rest
      = conclude (.comparison comparator left (some side)) query opened c rest := by
  simp only [compare, if_neg (ne_space_of_mem_comparisonEnds hc), hpending]

/-- At the end of a comparison with no comparator the operand is all of it. -/
lemma compare_of_pending_eq_none {c : Char} (hc : c ∈ comparisonEnds) {query : OpenQuery}
    (hpending : query.pending = none) (side : Operand) (opened : List OpenQuery)
    (rest : List Char) :
    compare side query opened c rest
      = conclude (.comparison .exists side none) query opened c rest := by
  have hends : ∀ c ∈ comparisonEnds, c = ')' ∨ c = '|' ∨ c = '&' :=
    List.forall_iff_forall_mem.1 (by decide)
  simp only [compare, if_neg (ne_space_of_mem_comparisonEnds hc), hpending, if_pos (hends c hc)]

lemma mem_operandEnds {c : Char} (hc : c ∈ comparisonEnds) : c ∈ operandEnds := by
  have hall : ∀ c ∈ comparisonEnds, c ∈ operandEnds := List.forall_iff_forall_mem.1 (by decide)
  exact hall c hc

lemma readsComparison_exists {left : Operand} {text : List Char} (h : ReadsOperand left text)
    (a b : Nat) :
    ReadsComparison (.comparison .exists left none) (spaces a ++ text ++ spaces b) := by
  intro query opened c hpending hc rest
  rw [List.append_assoc, List.append_assoc, run_operand_spaces,
    h.run_spaces query opened b (mem_operandEnds hc), compare_of_pending_eq_none hc hpending]

/-- The first character of an operand. -/
lemma head_of_spellsOperand {side : Operand} {text : List Char} (h : SpellsOperand side text) :
    ∃ c tail, text = c :: tail ∧ c ≠ '=' ∧ c ≠ '>' := by
  cases h with
  | literal hvalue =>
    obtain ⟨c, tail, rfl, hc⟩ := head_of_spellsLiteral hvalue
    simp only [List.mem_cons, not_or] at hc
    exact ⟨c, tail, rfl, hc.2.2.2.1, hc.2.2.2.2.1⟩
  | relative => exact ⟨_, _, rfl, by decide, by decide⟩
  | absolute => exact ⟨_, _, rfl, by decide, by decide⟩

/-- The first character of a symbol; it ends an operand and is none of the ends of a comparison. -/
lemma head_of_mem_symbols {comparator : Comparator} {symbol : List Char}
    (h : symbol ∈ symbols comparator) :
    ∃ c tail, symbol = c :: tail ∧ c ∈ operandEnds ∧ c ≠ ' ' ∧ ¬(c = ')' ∨ c = '|' ∨ c = '&') := by
  cases comparator <;> simp only [symbols, List.mem_cons, List.not_mem_nil, or_false] at h
  case notEqual => rcases h with rfl | rfl <;> exact ⟨_, _, rfl, by decide⟩
  all_goals subst h; exact ⟨_, _, rfl, by decide⟩

/-- A comparator leads from the left side to the right side. -/
lemma run_comparator {left : Operand} {text : List Char} (h : ReadsOperand left text)
    {comparator : Comparator} {symbol : List Char} (hsymbol : symbol ∈ symbols comparator)
    {c : Char} (hequal : c ≠ '=') (hgreater : c ≠ '>') (query : OpenQuery)
    (hpending : query.pending = none) (opened : List OpenQuery) (b : Nat) (rest : List Char) :
    (operand query opened).run (text ++ (spaces b ++ (symbol ++ c :: rest)))
      = (operand { query with pending := some (left, comparator) } opened).run (c :: rest) := by
  have htake := Comparator.take_of_mem_symbols hsymbol hequal hgreater rest
  obtain ⟨d, tail, rfl, hends, hspace, hconclude⟩ := head_of_mem_symbols hsymbol
  rw [List.cons_append, h.run_spaces query opened b hends, compare, if_neg hspace]
  simp only [hpending, if_neg hconclude]
  rw [← List.cons_append, htake]
  rfl

lemma readsComparison_pair {comparator : Comparator} {left right : Operand}
    {text symbol text' : List Char} (hleft : ReadsOperand left text)
    (hsymbol : symbol ∈ symbols comparator) (hspells : SpellsOperand right text')
    (hright : ReadsOperand right text') (a b c d : Nat) :
    ReadsComparison (.comparison comparator left (some right))
      (spaces a ++ text ++ spaces b ++ symbol ++ spaces c ++ text' ++ spaces d) := by
  intro query opened e hpending he rest
  -- the symbol is taken whole, whether a space or the right side comes behind it
  obtain ⟨f, tail, hnext, hequal, hgreater⟩ : ∃ f tail,
      spaces c ++ (text' ++ (spaces d ++ e :: rest)) = f :: tail ∧ f ≠ '=' ∧ f ≠ '>' := by
    cases c with
    | zero =>
      obtain ⟨f, tail, rfl, hf⟩ := head_of_spellsOperand hspells
      exact ⟨f, tail ++ (spaces d ++ e :: rest), rfl, hf⟩
    | succ c => exact ⟨' ', _, rfl, by decide, by decide⟩
  have htext : spaces a ++ text ++ spaces b ++ symbol ++ spaces c ++ text' ++ spaces d ++ e :: rest
      = spaces a ++ (text ++ (spaces b ++ (symbol ++
          (spaces c ++ (text' ++ (spaces d ++ e :: rest)))))) := by simp
  rw [htext, run_operand_spaces, hnext,
    run_comparator hleft hsymbol hequal hgreater query hpending opened, ← hnext, run_operand_spaces,
    hright.run_spaces _ opened d (mem_operandEnds he), compare_of_pending he rfl]
  exact congrArg resume (conclude_pending _ query _ opened e rest)

/-! ## Conjunctions -/

/-- The text is read as the rest of a conjunction, up to the end of the query or the next
alternative. -/
def ReadsComparisons (parts : List Expression) (text : List Char) : Prop :=
  ∀ (chain : Chain) (alternatives conjunction : List Expression) (opened : List OpenQuery)
    (rest : List Char),
    (operand ⟨chain, alternatives, conjunction, none⟩ opened).run (text ++ ')' :: rest)
        = (closing (combine .or (alternatives ++ [combine .and (conjunction ++ parts)])) chain
            opened).run rest ∧
      (operand ⟨chain, alternatives, conjunction, none⟩ opened).run (text ++ '|' :: '|' :: rest)
        = (operand ⟨chain, alternatives ++ [combine .and (conjunction ++ parts)], [], none⟩
            opened).run rest

lemma ReadsComparison.single {part : Expression} {text : List Char}
    (h : ReadsComparison part text) : ReadsComparisons [part] text := by
  intro chain alternatives conjunction opened rest
  constructor
  · rw [h _ opened rfl (by decide)]
    rfl
  · rw [h _ opened rfl (by decide)]
    rfl

lemma ReadsComparisons.cons {part : Expression} {parts : List Expression} {text text' : List Char}
    (h : ReadsComparison part text) (h' : ReadsComparisons parts text') :
    ReadsComparisons (part :: parts) (text ++ '&' :: '&' :: text') := by
  intro chain alternatives conjunction opened rest
  -- whatever ends the conjunction, its first comparison joins those before it
  have hand (tail : List Char) :
      (operand ⟨chain, alternatives, conjunction, none⟩ opened).run
          (text ++ '&' :: '&' :: text' ++ tail)
        = (operand ⟨chain, alternatives, conjunction ++ [part], none⟩ opened).run
          (text' ++ tail) := by
    rw [List.append_assoc, List.cons_append, List.cons_append, h _ opened rfl (by decide)]
    rfl
  obtain ⟨hclose, hor⟩ := h' chain alternatives (conjunction ++ [part]) opened rest
  rw [List.append_assoc, List.singleton_append] at hclose hor
  exact ⟨(hand _).trans hclose, (hand _).trans hor⟩

/-- The text is read as an alternative, up to the end of the query or the next alternative. -/
def ReadsConjunction (part : Expression) (text : List Char) : Prop :=
  ∀ (chain : Chain) (alternatives : List Expression) (opened : List OpenQuery) (rest : List Char),
    (operand ⟨chain, alternatives, [], none⟩ opened).run (text ++ ')' :: rest)
        = (closing (combine .or (alternatives ++ [part])) chain opened).run rest ∧
      (operand ⟨chain, alternatives, [], none⟩ opened).run (text ++ '|' :: '|' :: rest)
        = (operand ⟨chain, alternatives ++ [part], [], none⟩ opened).run rest

lemma combine_of_length {parts : List Expression} (h : 2 ≤ parts.length) (connective : Connective) :
    combine connective parts = .composite connective parts := by
  match parts, h with
  | _ :: _ :: _, _ => rfl

lemma ReadsComparison.conjunction {part : Expression} {text : List Char}
    (h : ReadsComparison part text) : ReadsConjunction part text :=
  fun chain alternatives opened rest => h.single chain alternatives [] opened rest

lemma ReadsComparisons.conjunction {parts : List Expression} {text : List Char}
    (h : ReadsComparisons parts text) (hlength : 2 ≤ parts.length) :
    ReadsConjunction (.composite .and parts) text := by
  intro chain alternatives opened rest
  rw [← combine_of_length hlength]
  exact h chain alternatives [] opened rest

/-! ## Expressions -/

/-- The text is read as the rest of the alternatives. -/
def ReadsConjunctions (parts : List Expression) (text : List Char) : Prop :=
  ∀ (chain : Chain) (alternatives : List Expression) (opened : List OpenQuery) (rest : List Char),
    (operand ⟨chain, alternatives, [], none⟩ opened).run (text ++ ')' :: rest)
      = (closing (combine .or (alternatives ++ parts)) chain opened).run rest

lemma ReadsConjunction.single {part : Expression} {text : List Char}
    (h : ReadsConjunction part text) : ReadsConjunctions [part] text :=
  fun chain alternatives opened rest => (h chain alternatives opened rest).1

lemma ReadsConjunctions.cons {part : Expression} {parts : List Expression} {text text' : List Char}
    (h : ReadsConjunction part text) (h' : ReadsConjunctions parts text') :
    ReadsConjunctions (part :: parts) (text ++ '|' :: '|' :: text') := by
  intro chain alternatives opened rest
  rw [List.append_assoc, List.cons_append, List.cons_append, (h chain alternatives opened _).2,
    h' chain (alternatives ++ [part]) opened rest, List.append_assoc, List.singleton_append]

lemma ReadsConjunction.expression {part : Expression} {text : List Char}
    (h : ReadsConjunction part text) : ReadsExpression part text :=
  fun chain opened rest => (h chain [] opened rest).1

lemma ReadsConjunctions.expression {parts : List Expression} {text : List Char}
    (h : ReadsConjunctions parts text) (hlength : 2 ≤ parts.length) :
    ReadsExpression (.composite .or parts) text := by
  intro chain opened rest
  rw [← combine_of_length hlength]
  exact h chain [] opened rest

end PathQuery.Path.Progress
