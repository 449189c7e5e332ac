/-
# Rearranging expressions

The boolean reading of a connective knows only which expressions are among its parts.  So parts may
change places, be repeated or left out if they are repeated, and a part that has the same connective
may be replaced by its own parts.  All this may be done anywhere in an expression: in a part, or in
a query in the path of an operand.

That the values of such an operand stay the same is where faults matter: tests of two expressions
with one reading agree on every candidate only where they do not fail.
-/
import PathQuery.Proofs.Evaluation.Denotation

namespace PathQuery

/-! ## Rearrangements -/

mutual

/-- The second step is the first one with its query rearranged. -/
inductive Step.Rearranged : Step → Step → Prop
  | query {filter other : Expression} (h : Expression.Rearranged filter other) :
      Step.Rearranged (.query filter) (.query other)
  | queryScan {filter other : Expression} (h : Expression.Rearranged filter other) :
      Step.Rearranged (.queryScan filter) (.queryScan other)

/-- The second operand is the first one with a query of its path rearranged. -/
inductive Operand.Rearranged : Operand → Operand → Prop
  | path {before after : List Step} {step other : Step} (h : Step.Rearranged step other) :
      Operand.Rearranged (.path (before ++ step :: after)) (.path (before ++ other :: after))

/-- The second expression is the first one after connectives in it have been rearranged. -/
inductive Expression.Rearranged : Expression → Expression → Prop
  | refl (expression : Expression) : Expression.Rearranged expression expression
  | symm {expression other : Expression} (h : Expression.Rearranged expression other) :
      Expression.Rearranged other expression
  | trans {expression other last : Expression} (h : Expression.Rearranged expression other)
      (h' : Expression.Rearranged other last) : Expression.Rearranged expression last
  /-- The same parts, in another order or more or less often. -/
  | members (connective : Connective) {parts others : List Expression}
      (h : ∀ part, part ∈ parts ↔ part ∈ others) :
      Expression.Rearranged (.composite connective parts) (.composite connective others)
  /-- The parts of a part in its place. -/
  | regroup (connective : Connective) (before inner after : List Expression) :
      Expression.Rearranged
        (.composite connective (before ++ .composite connective inner :: after))
        (.composite connective (before ++ inner ++ after))
  | part (connective : Connective) (before after : List Expression) {part other : Expression}
      (h : Expression.Rearranged part other) :
      Expression.Rearranged (.composite connective (before ++ part :: after))
        (.composite connective (before ++ other :: after))
  | left (comparator : Comparator) {left other : Operand} (right : Option Operand)
      (h : Operand.Rearranged left other) :
      Expression.Rearranged (.comparison comparator left right) (.comparison comparator other right)
  | right (comparator : Comparator) (left : Operand) {right other : Operand}
      (h : Operand.Rearranged right other) :
      Expression.Rearranged (.comparison comparator left (some right))
        (.comparison comparator left (some other))

end

/-! ## Faults -/

mutual

lemma Step.Rearranged.faultless_iff {step other : Step} :
    step.Rearranged other → (step.Faultless ↔ other.Faultless)
  | .query h => by
    rw [Step.faultless_query_iff, Step.faultless_query_iff]
    exact h.faultless_iff
  | .queryScan h => by
    rw [Step.faultless_queryScan_iff, Step.faultless_queryScan_iff]
    exact h.faultless_iff

lemma Operand.Rearranged.faultless_iff {operand other : Operand} :
    operand.Rearranged other → (operand.Faultless ↔ other.Faultless)
  | .path h => by
    simp only [Operand.faultless_path_iff, List.forall_mem_append, List.forall_mem_cons,
      h.faultless_iff]

lemma Expression.Rearranged.faultless_iff {expression other : Expression} :
    expression.Rearranged other → (expression.Faultless ↔ other.Faultless)
  | .refl _ => Iff.rfl
  | .symm h => h.faultless_iff.symm
  | .trans h h' => h.faultless_iff.trans h'.faultless_iff
  | .members _ h => by simp only [Expression.faultless_composite_iff, h]
  | .regroup .. => by
    simp only [Expression.faultless_composite_iff, List.forall_mem_append, List.forall_mem_cons,
      and_assoc]
  | .part _ _ _ h => by
    simp only [Expression.faultless_composite_iff, List.forall_mem_append, List.forall_mem_cons,
      h.faultless_iff]
  | .left _ _ h => by simp only [Expression.faultless_comparison_iff, h.faultless_iff]
  | .right _ _ h => by
    simp only [Expression.faultless_comparison_iff, Option.mem_some_iff, forall_eq',
      h.faultless_iff]

end

/-! ## The reading -/

variable {root : Json}

/-- Expressions without faults that have one reading give one answer. -/
lemma Expression.matches_eq_of_holds_iff {expression other : Expression} (hroot : root.Legible)
    {node : Json} (hnode : node.Legible) (h : expression.Faultless) (hother : other.Faultless)
    (hholds : expression.Holds root node ↔ other.Holds root node) :
    other.matches root node = expression.matches root node := by
  obtain ⟨result, hmatches, hresult⟩ := matches_of_decides (expression.decides_test hroot hnode h)
  obtain ⟨result', hmatches', hresult'⟩ :=
    matches_of_decides (other.decides_test hroot hnode hother)
  have hsame : result' = result :=
    Bool.eq_iff_iff.2 (hresult'.trans (hholds.symm.trans hresult.symm))
  rw [hmatches, hmatches', hsame]

namespace Run

lemma chain_congr {next next' : Json → Run} {nodes : List Json}
    (h : ∀ node ∈ nodes, next node = next' node) (last : Run) :
    chain next last nodes = chain next' last nodes := by
  induction nodes with
  | nil => rfl
  | cons node rest ih =>
    obtain ⟨hnode, hrest⟩ := List.forall_mem_cons.1 h
    rw [chain, chain, hnode, ih hrest]

lemma bind_keep_congr {candidates : Json → List Json}
    {holds holds' : Json → Except EvaluationError Bool} {r : Run}
    (h : ∀ node ∈ r.nodes, ∀ candidate ∈ candidates node, holds candidate = holds' candidate) :
    (r.bind fun node => chain (fun node => keep node (holds node)) none (candidates node))
      = r.bind fun node => chain (fun node => keep node (holds' node)) none (candidates node) := by
  refine chain_congr (fun node hnode => ?_) _
  exact chain_congr
    (fun candidate hcandidate => congrArg (keep candidate) (h node hnode candidate hcandidate)) _

/-- Expressions that agree on the legible nodes filter in the same way. -/
lemma filterFrom_congr {filter other : Expression} {candidates : Json → List Json} {r : Run}
    (hnodes : ∀ node ∈ r.nodes, node.Legible)
    (hcandidates : ∀ node : Json, node.Legible → ∀ candidate ∈ candidates node, candidate.Legible)
    (hsame : ∀ node : Json, node.Legible → other.matches root node = filter.matches root node) :
    r.filterFrom candidates (other.test root) = r.filterFrom candidates (filter.test root) := by
  have htest (filter : Expression) (node : Json) := filter.map_fst_test root node
  rw [filterFrom_eq_bind (htest other), filterFrom_eq_bind (htest filter)]
  refine bind_keep_congr fun node hnode candidate hcandidate => ?_
  exact hsame candidate (hcandidates node (hnodes node hnode) candidate hcandidate)

end Run

mutual

lemma Step.Rearranged.apply_eq (hroot : root.Legible) {step other : Step} {r : Run}
    (hr : ∀ node ∈ r.nodes, node.Legible) :
    step.Rearranged other → step.Faultless →
      other.apply root false r = step.apply root false r
  | .query h, hstep => by
    have hfilter := Step.faultless_query_iff.1 hstep
    refine Run.filterFrom_congr hr Json.hereditary_legible fun node hnode => ?_
    exact Expression.matches_eq_of_holds_iff hroot hnode hfilter (h.faultless_iff.1 hfilter)
      (h.holds_iff hroot hnode hfilter)
  | .queryScan h, hstep => by
    have hfilter := Step.faultless_queryScan_iff.1 hstep
    refine Run.filterFrom_congr hr Json.hereditary_legible.forall_mem_map_scan fun node hnode => ?_
    exact Expression.matches_eq_of_holds_iff hroot hnode hfilter (h.faultless_iff.1 hfilter)
      (h.holds_iff hroot hnode hfilter)

lemma Operand.Rearranged.values_eq (hroot : root.Legible) {node : Json} (hnode : node.Legible)
    {operand other : Operand} : operand.Rearranged other → operand.Faultless →
      other.values root node = operand.values root node
  | @Operand.Rearranged.path before after step other h, hoperand => by
    -- up to the step with the query the paths are the same, and so is the run that it is given
    have hstep := Operand.faultless_path_iff.1 hoperand step (by simp)
    have hlegible : ∀ x ∈ (Path.evaluateFrom before false root node).nodes, x.Legible :=
      Path.forall_mem_evaluateFrom Json.hereditary_legible (fun _ => hroot) hnode false
    have hsame := h.apply_eq hroot hlegible hstep
    show (Path.evaluateFrom (before ++ other :: after) false root node).nodes
      = (Path.evaluateFrom (before ++ step :: after) false root node).nodes
    rw [Path.evaluateFrom_append, Path.evaluateFrom_append, Step.applyAll, Step.applyAll, hsame]

lemma Expression.Rearranged.holds_iff (hroot : root.Legible) {node : Json} (hnode : node.Legible)
    {expression other : Expression} : expression.Rearranged other → expression.Faultless →
      (expression.Holds root node ↔ other.Holds root node)
  | .refl _, _ => Iff.rfl
  | .symm h, hother => (h.holds_iff hroot hnode (h.faultless_iff.2 hother)).symm
  | .trans h h', hfirst => by
    -- faults are only excluded from the first expression; a rearrangement brings none in
    have hsecond := h.faultless_iff.1 hfirst
    exact (h.holds_iff hroot hnode hfirst).trans (h'.holds_iff hroot hnode hsecond)
  | .members .and h, _ => by simp only [Expression.holds_and_iff, h]
  | .members .or h, _ => by simp only [Expression.holds_or_iff, h]
  | .regroup .and .., _ => by
    simp only [Expression.holds_and_iff, List.forall_mem_append, List.forall_mem_cons, and_assoc]
  | .regroup .or .., _ => by
    simp only [Expression.holds_or_iff, List.mem_append, List.mem_cons, or_and_right, exists_or,
      exists_eq_left, or_assoc]
  | .part connective before after h, hparts => by
    have hpart := h.holds_iff hroot hnode
      (Expression.faultless_composite_iff.1 hparts _ (by simp))
    cases connective with
    | and =>
      simp only [Expression.holds_and_iff, List.forall_mem_append, List.forall_mem_cons, hpart]
    | or =>
      simp only [Expression.holds_or_iff, List.mem_append, List.mem_cons, or_and_right, exists_or,
        exists_eq_left, hpart]
  | .left _ _ h, hcomparison => by
    have hleft := (Expression.faultless_comparison_iff.1 hcomparison).1
    rw [Expression.holds_comparison_iff, Expression.holds_comparison_iff,
      h.values_eq hroot hnode hleft]
  | .right _ _ h, hcomparison => by
    have hright := (Expression.faultless_comparison_iff.1 hcomparison).2 _ rfl
    simp only [Expression.holds_comparison_iff, Operand.resolveOption, Operand.nodes_resolve,
      h.values_eq hroot hnode hright]

end

/-! ## Tests and the reading -/

namespace Expression

/-- **An expression means what its boolean reading says.**  If no slice has a step of zero, and no
string that is a literal or in a document is an unreadable pattern, then a test gives an answer, and
the answer is whether the expression holds.  The values of its operands are then all that their
paths give.  So no rearrangement of its connectives changes the answer. -/
theorem matches_denotation {expression : Expression} {root node : Json}
    (hstride : ∀ start stop, .step (.slice start stop (some 0)) ∉ expression.parts)
    (hcompiles : ∀ s, .string s ∈ expression.literals ∨ root.Contains (.string s) ∨
      node.Contains (.string s) → ∃ compiled, Pattern.compile s = .ok compiled) :
    (∃ result, expression.matches root node = .ok result ∧
        (result = true ↔ expression.Holds root node)) ∧
      (∀ operand ∈ expression.operands,
        (operand.resolve root node).all = .ok (operand.values root node)) ∧
      ∀ other, expression.Rearranged other →
        other.matches root node = expression.matches root node := by
  have hroot : root.Legible := by
    rintro _ hbelow s rfl
    exact hcompiles s (Or.inr (Or.inl hbelow))
  have hnode : node.Legible := by
    rintro _ hbelow s rfl
    exact hcompiles s (Or.inr (Or.inr hbelow))
  have hfaultless : expression.Faultless := by
    refine ⟨hstride, ?_⟩
    rintro _ hliteral s rfl
    exact hcompiles s (Or.inl hliteral)
  refine ⟨matches_of_decides (expression.decides_test hroot hnode hfaultless), ?_, ?_⟩
  · intro operand hoperand
    exact Operand.all_resolve hroot hnode
      (expression.faultless_of_mem_operands hfaultless operand hoperand)
  · intro other h
    exact matches_eq_of_holds_iff hroot hnode hfaultless (h.faultless_iff.1 hfaultless)
      (h.holds_iff hroot hnode hfaultless)

/-- Only the second word matches, and only the last pattern; the parts change places, and one of
them comes twice and in a conjunction of its own. -/
theorem matches_denotation_words :
    let words : Expression := .comparison .matchesPattern
      (.path [.field (some "words"), .index none])
      (some (.path [.root, .field (some "patterns"), .index none]))
    let plain : Expression := .comparison .notEqual
      (.path [.field (some "words"), .index none]) (some (.literal (.string "/b/")))
    let expression : Expression := .composite .and [words, plain]
    let root : Json := .object [("words", .array [.string "a", .string "ab"]),
      ("patterns", .array [.string "/c/", .string "b", .string "/b/"])]
    (∀ start stop, .step (.slice start stop (some 0)) ∉ expression.parts) ∧
      (∀ s, .string s ∈ expression.literals ∨ root.Contains (.string s) ∨
        root.Contains (.string s) → ∃ compiled, Pattern.compile s = .ok compiled) ∧
      expression.Holds root root ∧
      Expression.matches (.composite .and [plain, .composite .and [words, plain]]) root root
        = .ok true := by
  intro words plain expression root
  have hstride : ∀ start stop, .step (.slice start stop (some 0)) ∉ expression.parts := by
    have hparts : expression.parts = [.comparator .matchesPattern,
        .step (.field (some "words")), .step (.index none), .step .root,
        .step (.field (some "patterns")), .step (.index none), .comparator .notEqual,
        .step (.field (some "words")), .step (.index none)] := rfl
    simp [hparts]
  have hbelow : ∀ s, root.Contains (.string s) → ∃ compiled, Pattern.compile s = .ok compiled := by
    -- the text of a string is the string itself; that of a container is no pattern
    have htexts : ∀ location ∈ root.locations, ∀ node ∈ root.descendant? location,
        (Pattern.compile node.plainText).isOk := by decide +kernel
    rintro s ⟨location, hlocation⟩
    have hmem : location ∈ root.locations := Json.mem_locations_iff.2 ⟨_, hlocation⟩
    exact exists_eq_ok_of_isOk (htexts location hmem _ hlocation)
  have hcompiles : ∀ s, .string s ∈ expression.literals ∨ root.Contains (.string s) ∨
      root.Contains (.string s) → ∃ compiled, Pattern.compile s = .ok compiled := by
    rintro s (hliteral | hroot | hnode)
    · have hliterals : expression.literals = [.string "/b/"] := rfl
      rw [hliterals, List.mem_singleton] at hliteral
      rw [Json.string.inj hliteral]
      exact exists_eq_ok_of_isOk (by decide +kernel)
    · exact hbelow s hroot
    · exact hbelow s hnode
  have hrearranged : expression.Rearranged
      (.composite .and [plain, .composite .and [words, plain]]) := by
    have hmembers : expression.Rearranged (.composite .and [plain, words, plain]) :=
      .members .and (by simp [or_comm])
    exact hmembers.trans (.symm (.regroup .and [plain] [words, plain] []))
  obtain ⟨⟨result, hresult, hholds⟩, -, hother⟩ := matches_denotation hstride hcompiles
  have htrue : expression.matches root root = .ok true := by
    have hanswer : (expression.matches root root).toOption = some true := by decide +kernel
    rw [hresult] at hanswer ⊢
    rw [Option.some.inj hanswer]
  refine ⟨hstride, hcompiles, ?_, (hother _ hrearranged).trans htrue⟩
  exact hholds.1 (Except.ok.inj (hresult.symm.trans htrue))

end Expression

end PathQuery
