/-
# Where failures come from

Without strict mode only two things can fail, wherever they stand in a path: a slice with a step of
zero, and a comparison with a pattern.  Strict mode adds the steps of the path itself that cannot be
taken from some node; operands are evaluated without it, so their steps add nothing.

What can fail is found by one predicate, `FailsOnly`, on runs and on tests.  It is closed under
joining, continuing and filtering, so it passes from the parts of a path to the whole by induction
on the syntax.
-/
import Mathlib.Data.List.Induction
import PathQuery.Proofs.Evaluation.Steps

namespace PathQuery

/-! ## Parts -/

/-- A part of a path at any depth: a step, or the comparator of a comparison. -/
inductive Part where
  | step (step : Step)
  | comparator (comparator : Comparator)

mutual

/-- The step and the parts of its query. -/
def Step.parts : Step → List Part
  | .query filter => .step (.query filter) :: filter.parts
  | .queryScan filter => .step (.queryScan filter) :: filter.parts
  | step => [.step step]
termination_by structural step => step

/-- The parts of all steps of a list. -/
def Step.partsAll : List Step → List Part
  | [] => []
  | step :: rest => step.parts ++ Step.partsAll rest
termination_by structural steps => steps

/-- The parts of the path of an operand. -/
def Operand.parts : Operand → List Part
  | .literal _ => []
  | .path steps => Step.partsAll steps
termination_by structural operand => operand

/-- The parts of a right side, which may be absent. -/
def Operand.partsOption : Option Operand → List Part
  | none => []
  | some operand => operand.parts
termination_by structural operand => operand

/-- The comparators of an expression and the parts of its operands. -/
def Expression.parts : Expression → List Part
  | .comparison comparator left right =>
    .comparator comparator :: (left.parts ++ Operand.partsOption right)
  | .composite _ parts => Expression.partsAll parts
termination_by structural expression => expression

/-- The parts of all expressions of a list. -/
def Expression.partsAll : List Expression → List Part
  | [] => []
  | part :: rest => part.parts ++ Expression.partsAll rest
termination_by structural parts => parts

end

/-- All parts of a path. -/
def Path.parts (path : Path) : List Part := Step.partsAll path

lemma Path.parts_append (p q : Path) : Path.parts (p ++ q) = Path.parts p ++ Path.parts q := by
  induction p with
  | nil => rfl
  | cons step rest ih =>
    show step.parts ++ Path.parts (rest ++ q) = step.parts ++ Path.parts rest ++ Path.parts q
    rw [ih, List.append_assoc]

/-! ## Causes -/

/-- The failure can be traced to one of the parts. -/
inductive EvaluationError.IsRaisedBy (parts : List Part) : EvaluationError → Prop
  | zeroStep {start stop : Option Int} (h : .step (.slice start stop (some 0)) ∈ parts) :
      IsRaisedBy parts .zeroStep
  | invalidPattern (cause : Regex.Error) (h : .comparator .matchesPattern ∈ parts) :
      IsRaisedBy parts (.invalidPattern cause)

lemma EvaluationError.IsRaisedBy.mono {parts others : List Part} {cause : EvaluationError}
    (h : cause.IsRaisedBy parts) (hsub : parts ⊆ others) : cause.IsRaisedBy others := by
  cases h with
  | zeroStep h => exact .zeroStep (hsub h)
  | invalidPattern cause h => exact .invalidPattern cause (hsub h)

/-- The step cannot be taken from the node, for the given reason. -/
inductive Step.Unresolved : Step → Json → EvaluationError → Prop
  | noProperty {name : Option String} {node : Json} (hkind : node.kind ≠ .object) :
      Unresolved (.field name) node (.noProperty name node.kind)
  | missingProperty {name : String} {members : List (String × Json)}
      (hmissing : Json.member? members name = none) :
      Unresolved (.field (some name)) (.object members) (.missingProperty name)
  | noProperties {names : List String} {node : Json} (hkind : node.kind ≠ .object) :
      Unresolved (.fields names) node (.noProperties names node.kind)
  | oneOfFields {names : List String} {name : String} {node : Json} {cause : EvaluationError}
      (hname : name ∈ names) (h : Unresolved (.field (some name)) node cause) :
      Unresolved (.fields names) node cause
  | noIndex {i : Option Int} {node : Json} (hkind : node.kind ≠ .array) :
      Unresolved (.index i) node (.noIndex i node.kind)
  | outOfBounds {i : Int} {elements : List Json}
      (hbounds : ¬(0 ≤ i ∧ i < elements.length)) :
      Unresolved (.index (some i)) (.array elements) (.outOfBounds i)
  | oneOfIndexes {is : List Int} {i : Int} {node : Json} {cause : EvaluationError} (hi : i ∈ is)
      (h : Unresolved (.index (some i)) node cause) : Unresolved (.indexes is) node cause
  | noSlice {start stop stride : Option Int} {node : Json} (hkind : node.kind ≠ .array) :
      Unresolved (.slice start stop stride) node (.noSlice node.kind)
  | emptySlice {start stop stride : Option Int} {elements : List Json}
      (hempty : Slice.indexes ⟨start, stop, stride.getD 1⟩ elements.length = []) :
      Unresolved (.slice start stop stride) (.array elements) (.emptySlice start stop)

/-! ## Runs and tests that fail for given reasons only -/

variable {P Q : EvaluationError → Prop}

namespace Run

/-- The run has no failure but one of a given kind. -/
def FailsOnly (P : EvaluationError → Prop) (r : Run) : Prop :=
  ∀ cause, r.failure = some cause → P cause

namespace FailsOnly

variable {r s : Run}

lemma mono (h : r.FailsOnly P) (hsub : ∀ cause, P cause → Q cause) : r.FailsOnly Q :=
  fun cause hcause => hsub cause (h cause hcause)

lemma of_eq_none (h : r.failure = Option.none) : r.FailsOnly P := by
  intro cause hcause
  rw [h] at hcause
  exact absurd hcause (by simp)

lemma fail {cause : EvaluationError} (h : P cause) : (Run.fail cause).FailsOnly P := by
  rintro _ hcause
  obtain rfl := Option.some.inj hcause
  exact h

lemma append (hr : r.FailsOnly P) (hs : s.FailsOnly P) : (r ++ s).FailsOnly P := by
  rcases h : r.failure with _ | cause
  · rw [append_of_failure_eq_none h]
    exact hs
  · rw [append_of_failure h]
    exact hr

lemma chain {next : Json → Run} {nodes : List Json}
    (hnext : ∀ node ∈ nodes, (next node).FailsOnly P) (hr : r.FailsOnly P) :
    (Run.chain next r nodes).FailsOnly P := by
  induction nodes with
  | nil => exact hr
  | cons node rest ih =>
    rw [List.forall_mem_cons] at hnext
    exact hnext.1.append (ih hnext.2)

lemma bind {next : Json → Run} (hr : r.FailsOnly P)
    (hnext : ∀ node ∈ r.nodes, (next node).FailsOnly P) : (r.bind next).FailsOnly P :=
  chain hnext hr

end FailsOnly

end Run

/-- The test has no failure but one of a given kind, whatever its cache. -/
def TestFailsOnly {α : Type} (P : EvaluationError → Prop) (x : Cached α) : Prop :=
  ∀ cache cause, x cache = .error cause → P cause

namespace TestFailsOnly

variable {α β : Type}

lemma ok (a : α) : TestFailsOnly P fun cache => .ok (a, cache) := fun _ _ h => nomatch h

lemma error {cause : EvaluationError} (h : P cause) :
    TestFailsOnly (α := α) P fun _ => .error cause := by
  intro cache other hother
  obtain rfl := Except.error.inj hother
  exact h

lemma bind {x : Cached α} {next : α × Pattern.Cache → Except EvaluationError (β × Pattern.Cache)}
    (hx : TestFailsOnly P x) (hnext : ∀ a, TestFailsOnly P fun cache => next (a, cache)) :
    TestFailsOnly P fun cache => x cache >>= next := by
  intro cache cause h
  have h : x cache >>= next = .error cause := h
  rcases hresult : x cache with first | ⟨a, after⟩ <;> rw [hresult] at h
  · obtain rfl := Except.error.inj h
    exact hx cache _ hresult
  · exact hnext a after cause h

end TestFailsOnly

lemma Run.FailsOnly.filter {test : Json → Cached Bool} (htest : ∀ node, TestFailsOnly P (test node))
    (cache : Pattern.Cache) (candidates : List Json) :
    (Run.filter test cache candidates).FailsOnly P := by
  induction candidates generalizing cache with
  | nil => exact .of_eq_none rfl
  | cons candidate rest ih =>
    unfold Run.filter
    split
    · next cause hcause => exact .fail (htest candidate cache cause hcause)
    · exact (of_eq_none rfl).append (ih _)
    · exact ih _

lemma Run.FailsOnly.filterFrom {r : Run} {test : Json → Cached Bool} (hr : r.FailsOnly P)
    (htest : ∀ node, TestFailsOnly P (test node)) (candidates : Json → List Json) :
    (r.filterFrom candidates test).FailsOnly P :=
  (filter htest .empty (r.nodes.flatMap candidates)).append hr

/-! ## Selecting from one node -/

lemma Run.FailsOnly.unresolved {strict : Bool} {cause : EvaluationError}
    (h : strict = true → P cause) : (Run.unresolved strict cause).FailsOnly P := by
  cases strict with
  | true => exact .fail (h rfl)
  | false => exact .of_eq_none rfl

namespace Json

open Run (FailsOnly)

lemma kind_ne_object {node : Json} (h : ∀ members, node ≠ .object members) :
    node.kind ≠ .object := by
  cases node with
  | object members => exact absurd rfl (h members)
  | bool value => cases value <;> exact Kind.noConfusion
  | _ => exact Kind.noConfusion

lemma kind_ne_array {node : Json} (h : ∀ elements, node ≠ .array elements) :
    node.kind ≠ .array := by
  cases node with
  | array elements => exact absurd rfl (h elements)
  | bool value => cases value <;> exact Kind.noConfusion
  | _ => exact Kind.noConfusion

variable (strict : Bool) (node : Json)

lemma failsOnly_selectField (name : Option String) :
    (node.selectField strict name).FailsOnly
      fun cause => strict = true ∧ (Step.field name).Unresolved node cause := by
  unfold selectField
  split
  · split
    · split
      · exact .of_eq_none rfl
      · next hmissing => exact .unresolved fun hstrict => ⟨hstrict, .missingProperty hmissing⟩
    · exact .of_eq_none rfl
  · next hobject => exact .unresolved fun hstrict => ⟨hstrict, .noProperty (kind_ne_object hobject)⟩

lemma failsOnly_selectFields_go (members : List (String × Json)) {names : List String}
    (h : ∀ name ∈ names, ((object members).selectField strict (some name)).FailsOnly P) :
    (selectFields.go strict members names).FailsOnly P := by
  induction names with
  | nil => exact .of_eq_none rfl
  | cons name rest ih =>
    rw [List.forall_mem_cons] at h
    exact h.1.append (ih h.2)

lemma failsOnly_selectFields (names : List String) :
    (node.selectFields strict names).FailsOnly
      fun cause => strict = true ∧ (Step.fields names).Unresolved node cause := by
  unfold selectFields
  split
  · next members =>
    refine failsOnly_selectFields_go strict members fun name hname => ?_
    exact (failsOnly_selectField strict (object members) (some name)).mono
      fun cause hcause => ⟨hcause.1, .oneOfFields hname hcause.2⟩
  · next hobject =>
    exact .unresolved fun hstrict => ⟨hstrict, .noProperties (kind_ne_object hobject)⟩

lemma failsOnly_selectIndex (i : Option Int) :
    (node.selectIndex strict i).FailsOnly
      fun cause => strict = true ∧ (Step.index i).Unresolved node cause := by
  unfold selectIndex
  split
  · split
    · split
      · exact .of_eq_none rfl
      · next hmissing =>
        refine .unresolved fun hstrict => ⟨hstrict, .outOfBounds ?_⟩
        rintro ⟨hpos, hlength⟩
        rw [if_pos hpos, List.getElem?_eq_none_iff] at hmissing
        omega
    · exact .of_eq_none rfl
  · next harray => exact .unresolved fun hstrict => ⟨hstrict, .noIndex (kind_ne_array harray)⟩

lemma failsOnly_selectIndexes_of_forall {is : List Int}
    (h : ∀ i ∈ is, (node.selectIndex strict (some i)).FailsOnly P) :
    (node.selectIndexes strict is).FailsOnly P := by
  induction is with
  | nil => exact .of_eq_none rfl
  | cons i rest ih =>
    rw [List.forall_mem_cons] at h
    exact h.1.append (ih h.2)

lemma failsOnly_selectIndexes (is : List Int) :
    (node.selectIndexes strict is).FailsOnly
      fun cause => strict = true ∧ (Step.indexes is).Unresolved node cause := by
  refine failsOnly_selectIndexes_of_forall strict node fun i hi => ?_
  exact (failsOnly_selectIndex strict node (some i)).mono
    fun cause hcause => ⟨hcause.1, .oneOfIndexes hi hcause.2⟩

lemma failsOnly_selectSlice (start stop stride : Option Int) :
    (node.selectSlice strict ⟨start, stop, stride.getD 1⟩).FailsOnly
      fun cause => strict = true ∧ (Step.slice start stop stride).Unresolved node cause := by
  unfold selectSlice
  split
  · split
    · next hcount =>
      refine .unresolved fun hstrict => ⟨hstrict, .emptySlice ?_⟩
      rw [Slice.indexes, hcount]
      rfl
    · exact .of_eq_none rfl
  · next harray => exact .unresolved fun hstrict => ⟨hstrict, .noSlice (kind_ne_array harray)⟩

end Json

/-! ## Comparing the nodes of two runs -/

namespace Comparator

variable {comparator : Comparator}

/-- Only a comparison with a pattern can fail. -/
lemma failsOnly_testPair
    (h : comparator = .matchesPattern → ∀ cause, P (.invalidPattern cause)) (left right : Json) :
    TestFailsOnly P (comparator.testPair left right) := by
  intro cache cause hcause
  unfold testPair at hcause
  split at hcause
  · simp at hcause
  · split at hcause
    · next hpattern =>
      unfold testPattern at hcause
      split at hcause
      · split at hcause
        · simp at hcause
        · obtain rfl := Except.error.inj hcause
          exact h hpattern _
      · simp at hcause
    · simp at hcause

lemma failsOnly_testRights
    (h : comparator = .matchesPattern → ∀ cause, P (.invalidPattern cause)) (left : Json)
    (rights : List Json) : TestFailsOnly P (comparator.testRights left rights) := by
  induction rights with
  | nil => exact .ok false
  | cons right rest ih =>
    refine (failsOnly_testPair h left right).bind fun holds => ?_
    cases holds with
    | true => exact .ok true
    | false => exact ih

lemma failsOnly_testLefts
    (h : comparator = .matchesPattern → ∀ cause, P (.invalidPattern cause))
    (rights lefts : List Json) : TestFailsOnly P (comparator.testLefts rights lefts) := by
  induction lefts with
  | nil => exact .ok false
  | cons left rest ih =>
    refine (failsOnly_testRights h left rights).bind fun holds => ?_
    cases holds with
    | true => exact .ok true
    | false => exact ih

lemma failsOnly_testRuns
    (h : comparator = .matchesPattern → ∀ cause, P (.invalidPattern cause)) {left right : Run}
    (hleft : left.FailsOnly P) (hright : right.FailsOnly P) :
    TestFailsOnly P (comparator.testRuns left right) := by
  intro cache cause hcause
  unfold testRuns at hcause
  split at hcause
  · next hfailure =>
    obtain rfl := Except.error.inj hcause
    exact hleft _ hfailure
  · simp at hcause
  · split at hcause
    · simp at hcause
    · split at hcause
      · next hfailure =>
        obtain rfl := Except.error.inj hcause
        exact hright _ hfailure
      · refine (failsOnly_testLefts h right.nodes left.nodes).bind (fun holds => ?_)
          cache cause hcause
        cases holds with
        | true => exact .ok true
        | false =>
          rcases hfailure : left.failure with _ | last
          · exact .ok false
          · exact .error (hleft last hfailure)

end Comparator

/-! ## Steps, operands and expressions -/

open EvaluationError (IsRaisedBy)

/-- A step that selects from one node after the other adds the failures of those from which it
cannot be taken. -/
lemma Run.FailsOnly.bind_select {step : Step} {strict : Bool} {r : Run} {select : Json → Run}
    (hr : r.FailsOnly P)
    (hselect : ∀ node, (select node).FailsOnly
      fun cause => strict = true ∧ step.Unresolved node cause)
    (hunresolved : strict = true → ∀ node ∈ r.nodes, ∀ cause, step.Unresolved node cause →
      P cause) : (r.bind select).FailsOnly P := by
  refine hr.bind fun node hnode => (hselect node).mono ?_
  rintro cause ⟨hstrict, hcause⟩
  exact hunresolved hstrict node hnode cause hcause

mutual

lemma Step.failsOnly_apply (root : Json) (strict : Bool) {r : Run} (hr : r.FailsOnly P) :
    (step : Step) → (∀ cause, IsRaisedBy step.parts cause → P cause) →
      (strict = true → ∀ node ∈ r.nodes, ∀ cause, step.Unresolved node cause → P cause) →
      (step.apply root strict r).FailsOnly P
  | .root, _, _ => .of_eq_none rfl
  | .field name, _, hunresolved =>
    hr.bind_select (fun node => node.failsOnly_selectField strict name) hunresolved
  | .fields names, _, hunresolved =>
    hr.bind_select (fun node => node.failsOnly_selectFields strict names) hunresolved
  | .index i, _, hunresolved =>
    hr.bind_select (fun node => node.failsOnly_selectIndex strict i) hunresolved
  | .indexes is, _, hunresolved =>
    hr.bind_select (fun node => node.failsOnly_selectIndexes strict is) hunresolved
  | .slice start stop stride, hraised, hunresolved => by
    by_cases hstride : stride = some 0
    · subst hstride
      exact .fail (hraised .zeroStep (.zeroStep (List.mem_singleton_self _)))
    · unfold Step.apply
      rw [if_neg hstride]
      exact hr.bind_select (fun node => node.failsOnly_selectSlice strict start stop stride)
        hunresolved
  | .scan name, _, _ => hr.bind fun _ _ => .of_eq_none rfl
  | .scanFields names, _, _ => hr.bind fun _ _ => .of_eq_none rfl
  | .query filter, hraised, _ =>
    hr.filterFrom (fun node => filter.failsOnly_test root node fun cause hcause =>
      hraised cause (hcause.mono (List.subset_cons_self _ _))) Json.children
  | .queryScan filter, hraised, _ =>
    hr.filterFrom (fun node => filter.failsOnly_test root node fun cause hcause =>
      hraised cause (hcause.mono (List.subset_cons_self _ _))) _

lemma Step.failsOnly_applyAll (root : Json) : (steps : List Step) →
    (∀ cause, IsRaisedBy (Step.partsAll steps) cause → P cause) → {r : Run} → r.FailsOnly P →
      (Step.applyAll root false steps r).FailsOnly P
  | [], _, _, hr => hr
  | step :: rest, hraised, _, hr => by
    refine Step.failsOnly_applyAll root rest (fun cause hcause => hraised cause ?_) ?_
    · exact hcause.mono (List.subset_append_right _ _)
    · refine Step.failsOnly_apply root false hr step (fun cause hcause => hraised cause ?_) ?_
      · exact hcause.mono (List.subset_append_left _ _)
      · exact fun hstrict => absurd hstrict Bool.false_ne_true

lemma Operand.failsOnly_resolve (root node : Json) : (operand : Operand) →
    (∀ cause, IsRaisedBy operand.parts cause → P cause) → (operand.resolve root node).FailsOnly P
  | .literal _, _ => .of_eq_none rfl
  | .path steps, hraised => Step.failsOnly_applyAll root steps hraised (.of_eq_none rfl)

lemma Operand.failsOnly_resolveOption (root node : Json) : (operand : Option Operand) →
    (∀ cause, IsRaisedBy (Operand.partsOption operand) cause → P cause) →
      (Operand.resolveOption root node operand).FailsOnly P
  | none, _ => .of_eq_none rfl
  | some operand, hraised => operand.failsOnly_resolve root node hraised

lemma Expression.failsOnly_test (root node : Json) : (expression : Expression) →
    (∀ cause, IsRaisedBy expression.parts cause → P cause) →
      TestFailsOnly P (expression.test root node)
  | .comparison comparator left right, hraised => by
    refine Comparator.failsOnly_testRuns ?_ ?_ ?_
    · rintro rfl cause
      exact hraised _ (.invalidPattern cause (List.mem_cons_self ..))
    · refine left.failsOnly_resolve root node fun cause hcause => hraised cause (hcause.mono ?_)
      exact List.subset_cons_of_subset _ (List.subset_append_left _ _)
    · refine Operand.failsOnly_resolveOption root node right fun cause hcause =>
        hraised cause (hcause.mono ?_)
      exact List.subset_cons_of_subset _ (List.subset_append_right _ _)
  | .composite .and parts, hraised => Expression.failsOnly_testAll root node parts hraised
  | .composite .or parts, hraised => Expression.failsOnly_testAny root node parts hraised

lemma Expression.failsOnly_testAll (root node : Json) : (parts : List Expression) →
    (∀ cause, IsRaisedBy (Expression.partsAll parts) cause → P cause) →
      TestFailsOnly P (Expression.testAll root node parts)
  | [], _ => .ok true
  | part :: rest, hraised => by
    refine (part.failsOnly_test root node fun cause hcause => hraised cause ?_).bind fun holds => ?_
    · exact hcause.mono (List.subset_append_left _ _)
    · cases holds with
      | true =>
        refine Expression.failsOnly_testAll root node rest fun cause hcause => hraised cause ?_
        exact hcause.mono (List.subset_append_right _ _)
      | false => exact .ok false

lemma Expression.failsOnly_testAny (root node : Json) : (parts : List Expression) →
    (∀ cause, IsRaisedBy (Expression.partsAll parts) cause → P cause) →
      TestFailsOnly P (Expression.testAny root node parts)
  | [], _ => .ok false
  | part :: rest, hraised => by
    refine (part.failsOnly_test root node fun cause hcause => hraised cause ?_).bind fun holds => ?_
    · exact hcause.mono (List.subset_append_left _ _)
    · cases holds with
      | true => exact .ok true
      | false =>
        refine Expression.failsOnly_testAny root node rest fun cause hcause => hraised cause ?_
        exact hcause.mono (List.subset_append_right _ _)

end

/-! ## Messages -/

/-- The message tells of a slice with a step of zero or of a comparison with a pattern, and there is
one among the parts. -/
def Traced (parts : List Part) (message : String) : Prop :=
  (message = "Step cannot be zero." ∧ ∃ start stop, .step (.slice start stop (some 0)) ∈ parts) ∨
    (∃ reason, message = "Invalid regex pattern: " ++ reason) ∧ .comparator .matchesPattern ∈ parts

lemma EvaluationError.IsRaisedBy.traced {parts : List Part} {cause : EvaluationError}
    (h : cause.IsRaisedBy parts) : Traced parts cause.message := by
  cases h with
  | @zeroStep start stop h => exact Or.inl ⟨rfl, start, stop, h⟩
  | invalidPattern cause h => exact Or.inr ⟨⟨cause.message, rfl⟩, h⟩

lemma Expression.traced_of_matches {expression : Expression} {root node : Json}
    {cause : EvaluationError} (h : expression.matches root node = .error cause) :
    Traced expression.parts cause.message := by
  rcases htest : expression.test root node .empty with first | ⟨holds, after⟩
  · rw [Expression.matches, htest] at h
    obtain rfl := Except.error.inj h
    exact (expression.failsOnly_test root node (fun _ => id) .empty first htest).traced
  · rw [Expression.matches, htest] at h
    exact nomatch h

/-! ## Paths -/

/-- The step can be taken from every node: it is to the root, a scan or a query. -/
def Step.IsTotal : Step → Prop
  | .root | .scan _ | .scanFields _ | .query _ | .queryScan _ => True
  | _ => False

lemma Step.IsTotal.not_unresolved {step : Step} (h : step.IsTotal) (node : Json)
    (cause : EvaluationError) : ¬step.Unresolved node cause := by
  intro hunresolved
  cases hunresolved <;> exact h

namespace Path

/-- Some step of the path cannot be taken from a node that the steps before it give. -/
def Unresolved (path : Path) (root start : Json) (cause : EvaluationError) : Prop :=
  ∃ before step after node, path = before ++ step :: after ∧
    .ok node ∈ (Path.evaluateFrom before true root start).items ∧ step.Unresolved node cause

lemma Unresolved.append {path : Path} {root start : Json} {cause : EvaluationError}
    (h : path.Unresolved root start cause) (more : Path) :
    Path.Unresolved (path ++ more) root start cause := by
  obtain ⟨before, step, after, node, rfl, hnode, hstep⟩ := h
  exact ⟨before, step, after ++ more, node, by simp, hnode, hstep⟩

lemma failsOnly_evaluateFrom (path : Path) (strict : Bool) (root start : Json) :
    (path.evaluateFrom strict root start).FailsOnly fun cause =>
      cause.IsRaisedBy path.parts ∨ strict = true ∧ path.Unresolved root start cause := by
  induction path using List.reverseRecOn with
  | nil => exact .of_eq_none rfl
  | append_singleton init step ih =>
    rw [Path.evaluateFrom_append]
    refine step.failsOnly_apply root strict (ih.mono ?_) ?_ ?_
    · rintro cause (hraised | ⟨hstrict, hunresolved⟩)
      · refine Or.inl (hraised.mono ?_)
        rw [Path.parts_append]
        exact List.subset_append_left _ _
      · exact Or.inr ⟨hstrict, hunresolved.append [step]⟩
    · intro cause hraised
      refine Or.inl (hraised.mono ?_)
      rw [Path.parts_append]
      exact fun part hpart => List.mem_append_right _ (List.mem_append_left _ hpart)
    · rintro rfl node hnode cause hunresolved
      exact Or.inr ⟨rfl, init, step, [], node, rfl, Run.ok_mem_items_iff.2 hnode, hunresolved⟩

/-- **Where failures come from.**  Without strict mode a path fails, and an expression at any time,
only by a slice with a step of zero or by a comparison with a pattern that it contains.  In strict
mode a path may also fail by one of its own steps that cannot be taken, but not by a step of an
operand.  So a path of scans and queries that contains neither never fails. -/
theorem failure_origin (path : Path) (root start : Json) :
    (∀ cause, .error cause ∈ (path.evaluateFrom false root start).items →
        Traced path.parts cause.message) ∧
      (∀ (expression : Expression) (node : Json) (cause : EvaluationError),
        expression.matches root node = .error cause → Traced expression.parts cause.message) ∧
      (∀ cause, .error cause ∈ (path.evaluateFrom true root start).items →
        Traced path.parts cause.message ∨ path.Unresolved root start cause) ∧
      ((∀ step ∈ path, step.IsTotal) →
        (∀ start stop, .step (.slice start stop (some 0)) ∉ path.parts) →
        .comparator .matchesPattern ∉ path.parts →
        ∀ strict cause, .error cause ∉ (path.evaluateFrom strict root start).items) := by
  have horigin {strict : Bool} {cause : EvaluationError}
      (h : .error cause ∈ (path.evaluateFrom strict root start).items) :
      Traced path.parts cause.message ∨ strict = true ∧ path.Unresolved root start cause :=
    (path.failsOnly_evaluateFrom strict root start cause (Run.error_mem_items_iff.1 h)).imp_left
      fun hraised => hraised.traced
  refine ⟨?_, fun _ _ _ => Expression.traced_of_matches, ?_, ?_⟩
  · intro cause h
    exact (horigin h).resolve_right fun hstrict => Bool.false_ne_true hstrict.1
  · intro cause h
    exact (horigin h).imp_right fun hstrict => hstrict.2
  · intro htotal hslice hpattern strict cause h
    rcases horigin h with (⟨-, start, stop, hzero⟩ | ⟨-, hmatches⟩) | ⟨-, hunresolved⟩
    · exact hslice start stop hzero
    · exact hpattern hmatches
    · obtain ⟨before, step, after, node, rfl, -, hstep⟩ := hunresolved
      exact (htotal step (by simp)).not_unresolved node cause hstep

/-- The four ways at once: a slice in an operand, in a path and by itself; a member that is missing
in strict mode; and a scan with a query that cannot fail. -/
theorem failure_origin_samples :
    let slice : Expression := .comparison .exists (.path [.slice none none (some 0)]) none
    let names : Expression := .comparison .exists (.path [.field (some "a")]) none
    let document : Json := .array [.null]
    (.error .zeroStep ∈ (Path.evaluateFrom [.query slice] false document document).items ∧
        Traced (Path.parts [.query slice]) EvaluationError.zeroStep.message) ∧
      (slice.matches document .null = .error .zeroStep ∧
        Traced slice.parts EvaluationError.zeroStep.message) ∧
      (.error (.noProperty "a" .null) ∈
          (Path.evaluateFrom [.index none, .field (some "a")] true document document).items ∧
        (Traced (Path.parts [.index none, .field (some "a")])
            (EvaluationError.noProperty "a" .null).message ∨
          Path.Unresolved [.index none, .field (some "a")] document document
            (.noProperty "a" .null))) ∧
      ∀ strict cause, .error cause ∉
        (Path.evaluateFrom [.scan none, .query names] strict document document).items := by
  intro slice names document
  have hslice : .error .zeroStep ∈
      (Path.evaluateFrom [.query slice] false document document).items :=
    Run.error_mem_items_iff.2 rfl
  have htest : slice.matches document .null = .error .zeroStep := rfl
  have hname : .error (.noProperty "a" .null) ∈
      (Path.evaluateFrom [.index none, .field (some "a")] true document document).items :=
    Run.error_mem_items_iff.2 rfl
  have hparts : Path.parts [.scan none, .query names]
      = [.step (.scan none), .step (.query names), .comparator .exists,
          .step (.field (some "a"))] := rfl
  refine ⟨⟨hslice, (failure_origin _ document document).1 _ hslice⟩,
    ⟨htest, (failure_origin [] document document).2.1 slice .null _ htest⟩,
    ⟨hname, (failure_origin _ document document).2.2.1 _ hname⟩,
    (failure_origin _ document document).2.2.2 ?_ ?_ ?_⟩
  · simp [Step.IsTotal]
  · simp [hparts]
  · simp [hparts]

end Path

end PathQuery
