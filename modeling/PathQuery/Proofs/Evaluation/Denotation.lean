/-
# What an expression means

An expression has a boolean reading, `Expression.Holds`.  A conjunction holds if all its parts do, a
disjunction if one of them does.  A comparison holds if it holds between some value of the left
side and some value of the right side, where the values of a path are all nodes that it gives; only
whether there is anything is asked of the left side alone.

A test comes to its answer in another way: it stops at the first part that settles it, and asks for
the right side only once the left side has given a node.  The two agree where nothing can fail.  An
expression is `Faultless` if it has no slice with a step of zero and no literal that is an
unreadable pattern, and a document is `Legible` if no string in it is one.  The nodes of a path are
taken from the root and the node under test, so they are legible again, and both properties reach
the expressions that stand in the paths of operands.
-/
import PathQuery.Evaluation.Selection
import PathQuery.Proofs.Evaluation.Filtering
import PathQuery.Proofs.Evaluation.Locality

namespace PathQuery

open Pattern (Cache)

/-! ## The reading of an expression -/

/-- The value is a string, and a piece of it matches the other one, which is a pattern. -/
def Json.MatchesPattern : Json → Json → Prop
  | .string input, .string pattern =>
    ∃ compiled, Pattern.compile pattern = .ok compiled ∧ Pattern.found compiled input
  | _, _ => False

/-- The comparator holds between two values.  Of a container it only holds that it is, and that it
differs. -/
def Comparator.Relates (comparator : Comparator) (left right : Json) : Prop :=
  if left.isContainer ∨ right.isContainer then comparator = .exists ∨ comparator = .notEqual
  else if comparator = .matchesPattern then left.MatchesPattern right
  else comparator.holds left right

/-- The values of an operand for a node under test: the literal, or all nodes that the path gives
without strict mode. -/
def Operand.values (root node : Json) : Operand → List Json
  | .literal value => [value]
  | .path steps => (Path.evaluateFrom steps false root node).nodes

/-- The boolean reading of an expression. -/
inductive Expression.Holds (root node : Json) : Expression → Prop
  | exists {left : Operand} {right : Option Operand} (h : left.values root node ≠ []) :
      Holds root node (.comparison .exists left right)
  | pair {comparator : Comparator} {left right : Operand} {x y : Json}
      (hcomparator : comparator ≠ .exists) (hleft : x ∈ left.values root node)
      (hright : y ∈ right.values root node) (h : comparator.Relates x y) :
      Holds root node (.comparison comparator left (some right))
  | and {parts : List Expression} (h : ∀ part ∈ parts, Holds root node part) :
      Holds root node (.composite .and parts)
  | or {parts : List Expression} {part : Expression} (hpart : part ∈ parts)
      (h : Holds root node part) : Holds root node (.composite .or parts)

lemma Operand.nodes_resolve (root node : Json) (operand : Operand) :
    (operand.resolve root node).nodes = operand.values root node := by
  cases operand <;> rfl

namespace Expression

variable {root node : Json}

lemma holds_comparison_iff {comparator : Comparator} {left : Operand} {right : Option Operand} :
    (comparison comparator left right).Holds root node ↔
      if comparator = .exists then left.values root node ≠ []
      else ∃ x ∈ left.values root node, ∃ y ∈ (Operand.resolveOption root node right).nodes,
        comparator.Relates x y := by
  split
  · next hcomparator =>
    subst hcomparator
    refine ⟨fun h => ?_, .exists⟩
    cases h with
    | «exists» h => exact h
    | pair hcomparator => exact absurd rfl hcomparator
  · next hcomparator =>
    constructor
    · intro h
      cases h with
      | «exists» => exact absurd rfl hcomparator
      | @pair _ _ right x y _ hleft hright h =>
        rw [← right.nodes_resolve] at hright
        exact ⟨x, hleft, y, hright, h⟩
    · rintro ⟨x, hleft, y, hright, h⟩
      cases right with
      | none => exact absurd hright (List.not_mem_nil)
      | some right =>
        rw [Operand.resolveOption, right.nodes_resolve] at hright
        exact .pair hcomparator hleft hright h

lemma holds_and_iff {parts : List Expression} :
    (composite .and parts).Holds root node ↔ ∀ part ∈ parts, part.Holds root node := by
  refine ⟨fun h => ?_, .and⟩
  cases h with
  | and h => exact h

lemma holds_or_iff {parts : List Expression} :
    (composite .or parts).Holds root node ↔ ∃ part ∈ parts, part.Holds root node := by
  constructor
  · intro h
    cases h with
    | or hpart h => exact ⟨_, hpart, h⟩
  · rintro ⟨part, hpart, h⟩
    exact .or hpart h

end Expression

/-! ## Strings that can be used as patterns -/

namespace Json

/-- If the value is a string, it can be used as a pattern. -/
def Compiles (value : Json) : Prop :=
  ∀ s, value = .string s → ∃ compiled, Pattern.compile s = .ok compiled

/-- The value and whatever lies below it can be used as patterns. -/
def Legible (value : Json) : Prop := ∀ node, value.Contains node → node.Compiles

lemma Legible.compiles {value : Json} (h : value.Legible) : value.Compiles := h value ⟨[], rfl⟩

lemma hereditary_legible : Hereditary Legible :=
  fun _ h _ hchild node hnode => h node (hnode.of_child hchild)

end Json

/-! ## Literals and faults -/

mutual

/-- The literals in the query of a step, at any depth. -/
def Step.literals : Step → List Json
  | .query filter | .queryScan filter => filter.literals
  | _ => []
termination_by structural step => step

/-- The literals in all steps of a list. -/
def Step.literalsAll : List Step → List Json
  | [] => []
  | step :: rest => step.literals ++ Step.literalsAll rest
termination_by structural steps => steps

/-- The operand, if it is a literal, or the literals in its path. -/
def Operand.literals : Operand → List Json
  | .literal value => [value]
  | .path steps => Step.literalsAll steps
termination_by structural operand => operand

/-- The literals of a right side, which may be absent. -/
def Operand.literalsOption : Option Operand → List Json
  | none => []
  | some operand => operand.literals
termination_by structural operand => operand

/-- The literals in the operands of an expression, at any depth. -/
def Expression.literals : Expression → List Json
  | .comparison _ left right => left.literals ++ Operand.literalsOption right
  | .composite _ parts => Expression.literalsAll parts
termination_by structural expression => expression

/-- The literals in all expressions of a list. -/
def Expression.literalsAll : List Expression → List Json
  | [] => []
  | part :: rest => part.literals ++ Expression.literalsAll rest
termination_by structural parts => parts

end

/-- No slice with a step of zero is among the parts, and every literal that is a string can be used
as a pattern. -/
structure Faultless (parts : List Part) (literals : List Json) : Prop where
  stride : ∀ start stop, .step (.slice start stop (some 0)) ∉ parts
  compiles : ∀ value ∈ literals, value.Compiles

lemma faultless_nil : Faultless [] [] :=
  ⟨fun _ _ => List.not_mem_nil, List.forall_mem_nil _⟩

lemma faultless_append_iff {parts parts' : List Part} {literals literals' : List Json} :
    Faultless (parts ++ parts') (literals ++ literals') ↔
      Faultless parts literals ∧ Faultless parts' literals' := by
  constructor
  · rintro ⟨hstride, hcompiles⟩
    obtain ⟨hleft, hright⟩ := List.forall_mem_append.1 hcompiles
    exact ⟨⟨fun start stop h => hstride start stop (List.mem_append_left _ h), hleft⟩,
      fun start stop h => hstride start stop (List.mem_append_right _ h), hright⟩
  · rintro ⟨hleft, hright⟩
    refine ⟨fun start stop h => ?_, List.forall_mem_append.2 ⟨hleft.compiles, hright.compiles⟩⟩
    exact (List.mem_append.1 h).elim (hleft.stride start stop) (hright.stride start stop)

/-- A part that is no slice makes no difference. -/
lemma faultless_cons_iff {part : Part} (hpart : ∀ start stop stride,
    part ≠ .step (.slice start stop stride)) {parts : List Part} {literals : List Json} :
    Faultless (part :: parts) literals ↔ Faultless parts literals := by
  constructor
  · rintro ⟨hstride, hcompiles⟩
    exact ⟨fun start stop h => hstride start stop (List.mem_cons_of_mem _ h), hcompiles⟩
  · rintro ⟨hstride, hcompiles⟩
    refine ⟨fun start stop h => ?_, hcompiles⟩
    exact (List.mem_cons.1 h).elim (fun h => hpart _ _ _ h.symm) (hstride start stop)

/-- The step has no faults. -/
def Step.Faultless (step : Step) : Prop := PathQuery.Faultless step.parts step.literals

/-- The operand has no faults. -/
def Operand.Faultless (operand : Operand) : Prop :=
  PathQuery.Faultless operand.parts operand.literals

/-- The expression has no faults. -/
def Expression.Faultless (expression : Expression) : Prop :=
  PathQuery.Faultless expression.parts expression.literals

lemma Step.faultless_query_iff {filter : Expression} :
    (query filter).Faultless ↔ filter.Faultless := faultless_cons_iff (by simp)

lemma Step.faultless_queryScan_iff {filter : Expression} :
    (queryScan filter).Faultless ↔ filter.Faultless := faultless_cons_iff (by simp)

lemma Operand.faultless_path_iff {steps : List Step} :
    (path steps).Faultless ↔ ∀ step ∈ steps, step.Faultless := by
  induction steps with
  | nil => exact iff_of_true faultless_nil (List.forall_mem_nil _)
  | cons step rest ih => rw [List.forall_mem_cons, ← ih]; exact faultless_append_iff

namespace Expression

lemma faultless_comparison_iff {comparator : Comparator} {left : Operand}
    {right : Option Operand} :
    (comparison comparator left right).Faultless ↔
      left.Faultless ∧ ∀ operand ∈ right, operand.Faultless := by
  refine (faultless_cons_iff (by simp)).trans (faultless_append_iff.trans (and_congr_right' ?_))
  cases right with
  | none => exact iff_of_true faultless_nil (by simp)
  | some right => simp only [Option.mem_some_iff, forall_eq']; rfl

lemma faultless_composite_iff {connective : Connective} {parts : List Expression} :
    (composite connective parts).Faultless ↔ ∀ part ∈ parts, part.Faultless := by
  induction parts with
  | nil => exact iff_of_true faultless_nil (List.forall_mem_nil _)
  | cons part rest ih => rw [List.forall_mem_cons, ← ih]; exact faultless_append_iff

end Expression

/-! ## Tests that decide -/

/-- Whatever its cache, the test gives an answer, and the answer is whether the proposition
holds. -/
def Decides (x : Cached Bool) (P : Prop) : Prop :=
  ∀ cache, ∃ result after, x cache = .ok (result, after) ∧ (result = true ↔ P)

namespace Decides

variable {x : Cached Bool} {P Q : Prop}

lemma ok {result : Bool} (h : result = true ↔ P) : Decides (fun cache => .ok (result, cache)) P :=
  fun cache => ⟨result, cache, rfl, h⟩

lemma congr (hx : Decides x P) (h : P ↔ Q) : Decides x Q := propext h ▸ hx

/-- What follows a test may depend on its answer, and so on whether the proposition holds. -/
lemma bind {next : Bool × Cache → Except EvaluationError (Bool × Cache)} (hx : Decides x P)
    (htrue : P → Decides (fun cache => next (true, cache)) Q)
    (hfalse : ¬P → Decides (fun cache => next (false, cache)) Q) :
    Decides (fun cache => x cache >>= next) Q := by
  intro cache
  obtain ⟨result, after, hresult, hP⟩ := hx cache
  simp only [hresult]
  cases result with
  | true => exact htrue (hP.1 rfl) after
  | false => exact hfalse (fun h => Bool.false_ne_true (hP.2 h)) after

end Decides

namespace Comparator

variable (comparator : Comparator)

lemma decides_testPattern (left : Json) {right : Json} (h : right.Compiles) :
    Decides (testPattern left right) (left.MatchesPattern right) := by
  intro cache
  unfold testPattern Json.MatchesPattern
  split
  · next input pattern =>
    obtain ⟨compiled, hcompiled⟩ := h pattern rfl
    -- if the cache holds the expression already, it is the one that is made anew
    have hcache := cache.map_fst_compile pattern
    rw [hcompiled] at hcache
    rcases hlookup : cache.compile pattern with cause | ⟨found, after⟩ <;> rw [hlookup] at hcache
    · cases hcache
    · obtain rfl := Except.ok.inj hcache
      refine ⟨_, after, rfl, fun hfound => ⟨found, hcompiled, hfound⟩, ?_⟩
      rintro ⟨other, hother, hfound⟩
      obtain rfl := Except.ok.inj (hcompiled.symm.trans hother)
      exact hfound
  · exact ⟨false, cache, rfl, by simp⟩

/-- The right value has to be a pattern only where it is taken as one. -/
lemma decides_testPair (left : Json) {right : Json}
    (h : comparator = .matchesPattern → right.Compiles) :
    Decides (comparator.testPair left right) (comparator.Relates left right) := by
  intro cache
  unfold testPair Relates
  split
  · exact ⟨_, cache, rfl, by simp⟩
  · split
    · next hpattern => exact decides_testPattern left (h hpattern) cache
    · exact ⟨_, cache, rfl, Iff.rfl⟩

lemma decides_testRights (left : Json) {rights : List Json}
    (h : ∀ right ∈ rights, comparator = .matchesPattern → right.Compiles) :
    Decides (comparator.testRights left rights)
      (∃ right ∈ rights, comparator.Relates left right) := by
  induction rights with
  | nil => exact .ok (by simp)
  | cons right rest ih =>
    obtain ⟨hright, hrest⟩ := List.forall_mem_cons.1 h
    rw [List.exists_mem_cons_iff]
    refine (comparator.decides_testPair left hright).bind (fun hpair => ?_) fun hpair => ?_
    · exact .ok (iff_of_true rfl (Or.inl hpair))
    · exact (ih hrest).congr (or_iff_right hpair).symm

lemma decides_testLefts {rights : List Json}
    (h : ∀ right ∈ rights, comparator = .matchesPattern → right.Compiles) (lefts : List Json) :
    Decides (comparator.testLefts rights lefts)
      (∃ left ∈ lefts, ∃ right ∈ rights, comparator.Relates left right) := by
  induction lefts with
  | nil => exact .ok (by simp)
  | cons left rest ih =>
    rw [List.exists_mem_cons_iff]
    refine (comparator.decides_testRights left h).bind (fun hleft => ?_) fun hleft => ?_
    · exact .ok (iff_of_true rfl (Or.inl hleft))
    · exact ih.congr (or_iff_right hleft).symm

/-- The right side does not have to be looked at if the left side gives nothing or if nothing but
its presence is asked for. -/
lemma decides_testRuns {left right : Run} (hleft : left.failure = none)
    (hright : right.failure = none)
    (h : ∀ value ∈ right.nodes, comparator = .matchesPattern → value.Compiles) :
    Decides (comparator.testRuns left right)
      (if comparator = .exists then left.nodes ≠ []
        else ∃ x ∈ left.nodes, ∃ y ∈ right.nodes, comparator.Relates x y) := by
  obtain ⟨lefts, _⟩ := left
  obtain rfl : _ = none := hleft
  obtain ⟨rights, _⟩ := right
  obtain rfl : _ = none := hright
  cases lefts with
  | nil => exact .ok (by simp)
  | cons first rest =>
    by_cases hcomparator : comparator = .exists
    · rw [if_pos hcomparator]
      intro cache
      exact ⟨true, cache, if_pos hcomparator, by simp⟩
    · -- no failure is left to come behind the nodes, so the pairs alone settle it
      rw [if_neg hcomparator]
      intro cache
      simp only [testRuns, if_neg hcomparator]
      refine (comparator.decides_testLefts h (first :: rest)).bind (fun hlefts => ?_)
        (fun hlefts => ?_) cache
      · exact .ok (iff_of_true rfl hlefts)
      · exact .ok (iff_of_false Bool.false_ne_true hlefts)

end Comparator

lemma Expression.matches_of_decides {expression : Expression} {root node : Json} {P : Prop}
    (h : Decides (expression.test root node) P) :
    ∃ result, expression.matches root node = .ok result ∧ (result = true ↔ P) := by
  obtain ⟨result, after, htest, hresult⟩ := h .empty
  refine ⟨result, ?_, hresult⟩
  rw [Expression.matches, htest]
  rfl

/-! ## Expressions without faults -/

/-- The run does not fail. -/
def Run.Complete (r : Run) : Prop := r.FailsOnly fun _ => False

lemma Run.Complete.failure_eq_none {r : Run} (h : r.Complete) : r.failure = .none := by
  rcases hfailure : r.failure with _ | cause
  · rfl
  · exact (h cause hfailure).elim

namespace Step

variable {root : Json}

/-- A step without a query fails without strict mode only by a stride of zero. -/
lemma complete_apply_of_parts {step : Step} (hparts : step.parts = [.step step])
    (h : step.Faultless) {r : Run} (hr : r.Complete) : (step.apply root false r).Complete := by
  refine failsOnly_apply root false hr step ?_ fun hstrict => absurd hstrict Bool.false_ne_true
  intro cause hcause
  cases hcause with
  | @zeroStep start stop hmem => exact h.stride start stop hmem
  | invalidPattern cause hmem =>
    rw [hparts] at hmem
    simp at hmem

lemma legible_apply (hroot : root.Legible) (step : Step) {r : Run}
    (hr : ∀ node ∈ r.nodes, node.Legible) :
    ∀ node ∈ (step.apply root false r).nodes, node.Legible :=
  forall_mem_apply Json.hereditary_legible (fun _ => hroot) false hr

end Step

lemma Operand.compiles_of_mem_values {root node : Json} (hroot : root.Legible)
    (hnode : node.Legible) {operand : Operand} (h : operand.Faultless) :
    ∀ value ∈ operand.values root node, value.Compiles := by
  cases operand with
  | literal value => exact h.compiles
  | path steps =>
    intro value hvalue
    have hlegible := Path.forall_mem_evaluateFrom Json.hereditary_legible (fun _ => hroot) hnode
      false value hvalue
    exact hlegible.compiles

/-- A run of candidates that are tested by themselves is complete if all tests give an answer. -/
lemma Run.Complete.keep {holds : Json → Except EvaluationError Bool} {candidates : List Json}
    (h : ∀ candidate ∈ candidates, ∃ result, holds candidate = .ok result) :
    (Run.chain (fun node => Run.keep node (holds node)) .none candidates).Complete := by
  rw [Run.chain_keep_of_ok h]
  exact .of_eq_none rfl

variable {root : Json}

/-- A filter that gives an answer for every legible node keeps a run of legible nodes complete. -/
lemma Run.Complete.filterFrom {filter : Expression} {candidates : Json → List Json} {r : Run}
    (hr : r.Complete) (hnodes : ∀ node ∈ r.nodes, node.Legible)
    (hcandidates : ∀ node : Json, node.Legible → ∀ candidate ∈ candidates node, candidate.Legible)
    (hfilter : ∀ node : Json, node.Legible → ∃ result, filter.matches root node = .ok result) :
    (r.filterFrom candidates (filter.test root)).Complete := by
  have htest (node : Json) := filter.map_fst_test root node
  rw [filterFrom_eq_bind htest]
  refine hr.bind fun node hnode => Run.Complete.keep fun candidate hcandidate => ?_
  exact hfilter candidate (hcandidates node (hnodes node hnode) candidate hcandidate)

-- By induction on the syntax.  A path hands legible nodes from step to step; a query in it tests
-- legible nodes and so decides; and what a comparison is given for its right side is legible too.
mutual

lemma Step.complete_apply (hroot : root.Legible) {r : Run} (hr : r.Complete)
    (hnodes : ∀ node ∈ r.nodes, node.Legible) :
    (step : Step) → step.Faultless → (step.apply root false r).Complete
  | .root, h | .field _, h | .fields _, h | .index _, h | .indexes _, h | .slice _ _ _, h
  | .scan _, h | .scanFields _, h => Step.complete_apply_of_parts rfl h hr
  | .query filter, h => by
    refine hr.filterFrom hnodes Json.hereditary_legible fun node hnode => ?_
    have htest := filter.decides_test hroot hnode (Step.faultless_query_iff.1 h)
    exact (Expression.matches_of_decides htest).imp fun _ => And.left
  | .queryScan filter, h => by
    refine hr.filterFrom hnodes Json.hereditary_legible.forall_mem_map_scan fun node hnode => ?_
    have htest := filter.decides_test hroot hnode (Step.faultless_queryScan_iff.1 h)
    exact (Expression.matches_of_decides htest).imp fun _ => And.left

lemma Step.complete_applyAll (hroot : root.Legible) :
    (steps : List Step) → (∀ step ∈ steps, step.Faultless) → {r : Run} → r.Complete →
      (∀ node ∈ r.nodes, node.Legible) → (Step.applyAll root false steps r).Complete
  | [], _, _, hr, _ => hr
  | step :: rest, h, _, hr, hnodes => by
    obtain ⟨hstep, hrest⟩ := List.forall_mem_cons.1 h
    exact Step.complete_applyAll hroot rest hrest (step.complete_apply hroot hr hnodes hstep)
      (step.legible_apply hroot hnodes)

lemma Operand.complete_resolve (hroot : root.Legible) {node : Json} (hnode : node.Legible) :
    (operand : Operand) → operand.Faultless → (operand.resolve root node).Complete
  | .literal _, _ => .of_eq_none rfl
  | .path steps, h => Step.complete_applyAll hroot steps (Operand.faultless_path_iff.1 h)
      (.of_eq_none rfl) (List.forall_mem_singleton.2 hnode)

lemma Operand.complete_resolveOption (hroot : root.Legible) {node : Json} (hnode : node.Legible) :
    (operand : Option Operand) → (∀ side ∈ operand, side.Faultless) →
      (Operand.resolveOption root node operand).Complete
  | none, _ => .of_eq_none rfl
  | some operand, h => operand.complete_resolve hroot hnode (h operand rfl)

lemma Expression.decides_test (hroot : root.Legible) {node : Json} (hnode : node.Legible) :
    (expression : Expression) → expression.Faultless →
      Decides (expression.test root node) (expression.Holds root node)
  | .comparison comparator left right, h => by
    obtain ⟨hleft, hright⟩ := Expression.faultless_comparison_iff.1 h
    rw [Expression.holds_comparison_iff, ← left.nodes_resolve]
    refine comparator.decides_testRuns (left.complete_resolve hroot hnode hleft).failure_eq_none
      (Operand.complete_resolveOption hroot hnode right hright).failure_eq_none ?_
    cases right with
    | none => exact List.forall_mem_nil _
    | some right =>
      rw [Operand.resolveOption, right.nodes_resolve]
      intro value hvalue _
      exact Operand.compiles_of_mem_values hroot hnode (hright right rfl) value hvalue
  | .composite .and parts, h => by
    rw [Expression.holds_and_iff]
    exact Expression.decides_testAll hroot hnode parts (Expression.faultless_composite_iff.1 h)
  | .composite .or parts, h => by
    rw [Expression.holds_or_iff]
    exact Expression.decides_testAny hroot hnode parts (Expression.faultless_composite_iff.1 h)

lemma Expression.decides_testAll (hroot : root.Legible) {node : Json} (hnode : node.Legible) :
    (parts : List Expression) → (∀ part ∈ parts, part.Faultless) →
      Decides (Expression.testAll root node parts) (∀ part ∈ parts, part.Holds root node)
  | [], _ => .ok (by simp)
  | part :: rest, h => by
    obtain ⟨hpart, hrest⟩ := List.forall_mem_cons.1 h
    rw [List.forall_mem_cons]
    refine (part.decides_test hroot hnode hpart).bind (fun hholds => ?_) fun hholds => ?_
    · exact (Expression.decides_testAll hroot hnode rest hrest).congr (and_iff_right hholds).symm
    · exact .ok (iff_of_false Bool.false_ne_true fun h => hholds h.1)

lemma Expression.decides_testAny (hroot : root.Legible) {node : Json} (hnode : node.Legible) :
    (parts : List Expression) → (∀ part ∈ parts, part.Faultless) →
      Decides (Expression.testAny root node parts) (∃ part ∈ parts, part.Holds root node)
  | [], _ => .ok (by simp)
  | part :: rest, h => by
    obtain ⟨hpart, hrest⟩ := List.forall_mem_cons.1 h
    rw [List.exists_mem_cons_iff]
    refine (part.decides_test hroot hnode hpart).bind (fun hholds => ?_) fun hholds => ?_
    · exact .ok (iff_of_true rfl (Or.inl hholds))
    · exact (Expression.decides_testAny hroot hnode rest hrest).congr (or_iff_right hholds).symm

end

/-! ## Operands without faults -/

mutual

lemma Expression.faultless_of_mem_operands : (expression : Expression) → expression.Faultless →
    ∀ operand ∈ expression.operands, operand.Faultless
  | .comparison _ left right, h => by
    obtain ⟨hleft, hright⟩ := Expression.faultless_comparison_iff.1 h
    refine List.forall_mem_cons.2 ⟨hleft, fun operand hoperand => hright operand ?_⟩
    exact Option.mem_toList.1 hoperand
  | .composite _ parts, h =>
    Expression.faultless_of_mem_operandsAll parts (Expression.faultless_composite_iff.1 h)

lemma Expression.faultless_of_mem_operandsAll : (parts : List Expression) →
    (∀ part ∈ parts, part.Faultless) →
      ∀ operand ∈ Expression.operandsAll parts, operand.Faultless
  | [], _ => List.forall_mem_nil _
  | part :: rest, h => by
    obtain ⟨hpart, hrest⟩ := List.forall_mem_cons.1 h
    exact List.forall_mem_append.2 ⟨part.faultless_of_mem_operands hpart,
      Expression.faultless_of_mem_operandsAll rest hrest⟩

end

/-- The values of an operand are all that there are: its run does not fail. -/
lemma Operand.all_resolve (hroot : root.Legible) {node : Json} (hnode : node.Legible)
    {operand : Operand} (h : operand.Faultless) :
    (operand.resolve root node).all = .ok (operand.values root node) := by
  rw [Run.all, (operand.complete_resolve hroot hnode h).failure_eq_none, operand.nodes_resolve]

end PathQuery
