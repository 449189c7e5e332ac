/-
# What an evaluation can reach and what it looks at

Steps go down: from a node to its children or to what lies further below.  Only a step to the root
leads elsewhere.  So a property that a value passes on to its children holds of all nodes that a
path gives, if it holds of the start and, where the path has a step to the root, of the root
(`Path.forall_mem_evaluateFrom`).

An evaluation looks at the root only by its steps to the root, those in the operands of queries
included.  Two evaluations of a path without any such step, below different roots, go through the
same runs, step by step.  In the same way an expression looks at the node under test only by
operands that start there.
-/
import PathQuery.Proofs.Evaluation.DocumentOrder
import PathQuery.Proofs.Evaluation.Failures
import PathQuery.Proofs.Json.Below

namespace PathQuery

namespace Json

/-! ## Selecting from one node -/

variable (strict : Bool) (node : Json)

lemma selectFields_subset (names : List String) :
    (node.selectFields strict names).nodes ⊆ node.children := by
  unfold selectFields
  split
  · next members =>
    induction names with
    | nil => exact List.nil_subset _
    | cons name rest ih =>
      have hname := (object members).sublist_selectField strict (some name)
      have hparts := List.append_subset.2 ⟨hname.subset, ih⟩
      exact List.Subset.trans (Run.sublist_nodes_append _ _).subset hparts
  · exact (sublist_unresolved strict _ _).subset

lemma selectIndexes_subset (is : List Int) :
    (node.selectIndexes strict is).nodes ⊆ node.children := by
  induction is with
  | nil => exact List.nil_subset _
  | cons i rest ih =>
    have hi := node.sublist_selectIndex strict (some i)
    have hparts := List.append_subset.2 ⟨hi.subset, ih⟩
    exact List.Subset.trans (Run.sublist_nodes_append _ _).subset hparts

lemma selectSlice_subset (slice : Slice) :
    (node.selectSlice strict slice).nodes ⊆ node.children := by
  unfold selectSlice
  split
  · next elements =>
    split
    · exact (sublist_unresolved strict _ _).subset
    · intro x hx
      obtain ⟨i, -, hget⟩ := List.mem_filterMap.1 hx
      obtain ⟨-, hget⟩ := Option.ite_none_right_eq_some.1 hget
      rw [List.getElem?_toArray] at hget
      exact List.mem_of_getElem? hget
  · exact (sublist_unresolved strict _ _).subset

end Json

/-! ## What a path gives -/

open Json (Hereditary)

variable {P : Json → Prop}

lemma Step.forall_mem_select (hP : Hereditary P) {step : Step} (hstep : step ≠ .root) (root : Json)
    (strict : Bool) {node : Json} (h : P node) :
    ∀ x ∈ (step.select root strict node).nodes, P x := by
  have hchildren {nodes : List Json} (hsub : nodes ⊆ node.children) : ∀ x ∈ nodes, P x :=
    fun x hx => hP node h x (hsub hx)
  have hscan (entries : List Entry) (hsub : entries ⊆ node.scan) :
      ∀ x ∈ entries.map (·.node), P x := by
    intro x hx
    obtain ⟨entry, hentry, rfl⟩ := List.mem_map.1 hx
    exact hP.forall_mem_scan node h entry (hsub hentry)
  cases step with
  | root => exact absurd rfl hstep
  | field name => exact hchildren (node.sublist_selectField strict name).subset
  | fields names => exact hchildren (node.selectFields_subset strict names)
  | index i => exact hchildren (node.sublist_selectIndex strict i).subset
  | indexes is => exact hchildren (node.selectIndexes_subset strict is)
  | slice start stop stride =>
    rw [select]
    split
    · exact List.forall_mem_nil _
    · exact hchildren (node.selectSlice_subset strict _)
  | scan name => exact hscan _ List.filter_sublist.subset
  | scanFields names => exact hscan _ List.filter_sublist.subset
  | query filter => exact hchildren (Run.sublist_keep _ _).subset
  | queryScan filter =>
    intro x hx
    exact hscan node.scan (List.Subset.refl _) x ((Run.sublist_keep _ _).subset hx)

lemma Step.forall_mem_apply (hP : Hereditary P) {step : Step} {root : Json}
    (hroot : step = .root → P root) (strict : Bool) {r : Run} (hr : ∀ node ∈ r.nodes, P node) :
    ∀ node ∈ (step.apply root strict r).nodes, P node := by
  by_cases hlocal : step.IsLocal
  · have hstep : step ≠ .root := by
      rintro rfl
      exact hlocal
    intro x hx
    rw [apply_eq_bind hlocal] at hx
    obtain ⟨node, hnode, hx⟩ := List.mem_flatMap.1 ((Run.sublist_nodes_bind _ _).subset hx)
    exact forall_mem_select hP hstep root strict (hr node hnode) x hx
  · cases step with
    | root =>
      intro node hnode
      obtain rfl := List.mem_singleton.1 hnode
      exact hroot rfl
    | slice start stop stride =>
      obtain rfl : stride = some 0 := not_not.1 hlocal
      exact List.forall_mem_nil _
    | _ => exact absurd trivial hlocal

lemma Step.forall_mem_applyAll (hP : Hereditary P) {path : Path} {root : Json}
    (hroot : .root ∈ path → P root) (strict : Bool) {r : Run} (hr : ∀ node ∈ r.nodes, P node) :
    ∀ node ∈ (applyAll root strict path r).nodes, P node := by
  induction path generalizing r with
  | nil => exact hr
  | cons step rest ih =>
    refine ih (fun hmem => hroot (List.mem_cons_of_mem step hmem)) ?_
    refine forall_mem_apply hP ?_ strict hr
    rintro rfl
    exact hroot List.mem_cons_self

/-- What holds of the start and is passed on to children holds of all nodes that a path gives; it
has to hold of the root if a step leads there. -/
lemma Path.forall_mem_evaluateFrom (hP : Hereditary P) {path : Path} {root start : Json}
    (hroot : .root ∈ path → P root) (hstart : P start) (strict : Bool) :
    ∀ node ∈ (path.evaluateFrom strict root start).nodes, P node :=
  Step.forall_mem_applyAll hP hroot strict (List.forall_mem_singleton.2 hstart)

/-! ## Two roots -/

section Roots

variable (root root' : Json)

mutual

lemma Step.apply_congr_root (strict : Bool) (r : Run) :
    (step : Step) → .step .root ∉ step.parts → step.apply root strict r = step.apply root' strict r
  | .root, h => absurd (List.mem_singleton_self _) h
  | .field _, _ | .fields _, _ | .index _, _ | .indexes _, _ | .slice _ _ _, _ => rfl
  | .scan _, _ | .scanFields _, _ => rfl
  | .query filter, h => by
    have htest (node : Json) := filter.test_congr_root node (List.not_mem_of_not_mem_cons h)
    simp only [Step.apply, htest]
  | .queryScan filter, h => by
    have htest (node : Json) := filter.test_congr_root node (List.not_mem_of_not_mem_cons h)
    simp only [Step.apply, htest]

lemma Step.applyAll_congr_root (strict : Bool) : (steps : List Step) →
    .step .root ∉ Step.partsAll steps → (r : Run) →
      Step.applyAll root strict steps r = Step.applyAll root' strict steps r
  | [], _, _ => rfl
  | step :: rest, h, r => by
    obtain ⟨hstep, hrest⟩ := not_or.1 (List.mem_append.not.1 h)
    rw [Step.applyAll, Step.applyAll, step.apply_congr_root strict r hstep]
    exact Step.applyAll_congr_root strict rest hrest _

lemma Operand.resolve_congr_root (node : Json) : (operand : Operand) →
    .step .root ∉ operand.parts → operand.resolve root node = operand.resolve root' node
  | .literal _, _ => rfl
  | .path steps, h => Step.applyAll_congr_root false steps h _

lemma Operand.resolveOption_congr_root (node : Json) : (operand : Option Operand) →
    .step .root ∉ Operand.partsOption operand →
      Operand.resolveOption root node operand = Operand.resolveOption root' node operand
  | none, _ => rfl
  | some operand, h => operand.resolve_congr_root node h

lemma Expression.test_congr_root (node : Json) : (expression : Expression) →
    .step .root ∉ expression.parts → expression.test root node = expression.test root' node
  | .comparison comparator left right, h => by
    obtain ⟨hleft, hright⟩ := not_or.1 (List.mem_append.not.1 (List.not_mem_of_not_mem_cons h))
    unfold Expression.test
    rw [left.resolve_congr_root node hleft, Operand.resolveOption_congr_root node right hright]
  | .composite .and parts, h => Expression.testAll_congr_root node parts h
  | .composite .or parts, h => Expression.testAny_congr_root node parts h

lemma Expression.testAll_congr_root (node : Json) : (parts : List Expression) →
    .step .root ∉ Expression.partsAll parts →
      Expression.testAll root node parts = Expression.testAll root' node parts
  | [], _ => rfl
  | part :: rest, h => by
    obtain ⟨hpart, hrest⟩ := not_or.1 (List.mem_append.not.1 h)
    unfold Expression.testAll
    rw [part.test_congr_root node hpart, Expression.testAll_congr_root node rest hrest]

lemma Expression.testAny_congr_root (node : Json) : (parts : List Expression) →
    .step .root ∉ Expression.partsAll parts →
      Expression.testAny root node parts = Expression.testAny root' node parts
  | [], _ => rfl
  | part :: rest, h => by
    obtain ⟨hpart, hrest⟩ := not_or.1 (List.mem_append.not.1 h)
    unfold Expression.testAny
    rw [part.test_congr_root node hpart, Expression.testAny_congr_root node rest hrest]

end

end Roots

lemma Path.evaluateFrom_congr_root {path : Path} (h : .step .root ∉ path.parts) (strict : Bool)
    (root root' start : Json) :
    path.evaluateFrom strict root start = path.evaluateFrom strict root' start :=
  Step.applyAll_congr_root root root' strict path h _

lemma Expression.matches_congr_root {expression : Expression}
    (h : .step .root ∉ expression.parts) (root root' node : Json) :
    expression.matches root node = expression.matches root' node := by
  rw [Expression.matches, expression.test_congr_root root root' node h, Expression.matches]

/-! ## Two nodes under test -/

mutual

/-- The operands of all comparisons that an expression joins. -/
def Expression.operands : Expression → List Operand
  | .comparison _ left right => left :: right.toList
  | .composite _ parts => Expression.operandsAll parts
termination_by structural expression => expression

/-- The operands of all expressions of a list. -/
def Expression.operandsAll : List Expression → List Operand
  | [] => []
  | part :: rest => part.operands ++ Expression.operandsAll rest
termination_by structural parts => parts

end

/-- The operand is a literal or a path that starts at the root. -/
def Operand.IsAnchored : Operand → Prop
  | .literal _ => True
  | .path (.root :: _) => True
  | .path _ => False

section Nodes

variable (root node node' : Json)

lemma Operand.resolve_congr_node {operand : Operand} (h : operand.IsAnchored) :
    operand.resolve root node = operand.resolve root node' := by
  unfold IsAnchored at h
  split at h
  · rfl
  · rfl
  · exact h.elim

lemma Operand.resolveOption_congr_node {operand : Option Operand}
    (h : ∀ side ∈ operand.toList, side.IsAnchored) :
    Operand.resolveOption root node operand = Operand.resolveOption root node' operand := by
  cases operand with
  | none => rfl
  | some operand => exact resolve_congr_node root node node' (h operand List.mem_cons_self)

mutual

lemma Expression.test_congr_node : (expression : Expression) →
    (∀ operand ∈ expression.operands, operand.IsAnchored) →
      expression.test root node = expression.test root node'
  | .comparison comparator left right, h => by
    obtain ⟨hleft, hright⟩ := List.forall_mem_cons.1 h
    unfold Expression.test
    rw [Operand.resolve_congr_node root node node' hleft,
      Operand.resolveOption_congr_node root node node' hright]
  | .composite .and parts, h => Expression.testAll_congr_node parts h
  | .composite .or parts, h => Expression.testAny_congr_node parts h

lemma Expression.testAll_congr_node : (parts : List Expression) →
    (∀ operand ∈ Expression.operandsAll parts, operand.IsAnchored) →
      Expression.testAll root node parts = Expression.testAll root node' parts
  | [], _ => rfl
  | part :: rest, h => by
    obtain ⟨hpart, hrest⟩ := List.forall_mem_append.1 h
    unfold Expression.testAll
    rw [part.test_congr_node hpart, Expression.testAll_congr_node rest hrest]

lemma Expression.testAny_congr_node : (parts : List Expression) →
    (∀ operand ∈ Expression.operandsAll parts, operand.IsAnchored) →
      Expression.testAny root node parts = Expression.testAny root node' parts
  | [], _ => rfl
  | part :: rest, h => by
    obtain ⟨hpart, hrest⟩ := List.forall_mem_append.1 h
    unfold Expression.testAny
    rw [part.test_congr_node hpart, Expression.testAny_congr_node rest hrest]

end

end Nodes

lemma Expression.matches_congr_node {expression : Expression}
    (h : ∀ operand ∈ expression.operands, operand.IsAnchored) (root node node' : Json) :
    expression.matches root node = expression.matches root node' := by
  rw [Expression.matches, expression.test_congr_node root node node' h, Expression.matches]

/-! ## Locality -/

/-- **Evaluation is local.**  A path without a step to the root among its own steps stays below its
start.  Without such a step at any depth the root makes no difference, and the path can as well be
evaluated on the start alone.  The same holds of an expression, and if all its operands are literals
or start at the root, the node under test makes none. -/
theorem Path.evaluateFrom_local (path : Path) (strict : Bool) (root start : Json) :
    (.root ∉ path → ∀ node, .ok node ∈ (path.evaluateFrom strict root start).items →
        start.Contains node) ∧
      (.step .root ∉ path.parts →
        (∀ root', (path.evaluateFrom strict root start).items
            = (path.evaluateFrom strict root' start).items) ∧
          (path.evaluateFrom strict root start).items = (path.evaluate strict start).items) ∧
      (∀ expression : Expression, .step .root ∉ expression.parts → ∀ root' node,
        expression.matches root node = expression.matches root' node) ∧
      (∀ expression : Expression, (∀ operand ∈ expression.operands, operand.IsAnchored) →
        ∀ node node', expression.matches root node = expression.matches root node') := by
  refine ⟨?_, ?_, ?_, ?_⟩
  · intro hroot node hnode
    have hstart : start.Contains start := ⟨[], rfl⟩
    have hgiven : ∀ node ∈ (path.evaluateFrom strict root start).nodes, start.Contains node :=
      Path.forall_mem_evaluateFrom start.hereditary_contains (fun hmem => absurd hmem hroot) hstart
        strict
    exact hgiven node (Run.ok_mem_items_iff.1 hnode)
  · intro hroot
    have hsame (root' : Json) : (path.evaluateFrom strict root start).items
        = (path.evaluateFrom strict root' start).items := by
      rw [Path.evaluateFrom_congr_root hroot strict root root' start]
    exact ⟨hsame, hsame start⟩
  · intro expression hroot root' node
    exact Expression.matches_congr_root hroot root root' node
  · intro expression hoperands node node'
    exact Expression.matches_congr_node hoperands root node node'

/-- A query within a query, from an inner node, and a comparison that starts at the root. -/
theorem Path.evaluateFrom_local_nested :
    let inner : Expression :=
      .comparison .less (.path [.field (some "a")]) (some (.literal (.string "c")))
    let outer : Expression := .comparison .exists (.path [.query inner]) none
    let anchored : Expression := .comparison .equal (.path [.root]) (some (.literal .null))
    let path : Path := [.query outer]
    let kept : Json := .array [.object [("a", .string "b")]]
    let start : Json := .array [kept, .null]
    (.root ∉ path ∧ .ok kept ∈ (path.evaluateFrom true .null start).items ∧
        start.Contains kept) ∧
      (.step .root ∉ path.parts ∧
        (path.evaluateFrom true .null start).items = (path.evaluate true start).items) ∧
      (.step .root ∉ outer.parts ∧ outer.matches .null kept = outer.matches start kept) ∧
      (∀ operand ∈ anchored.operands, operand.IsAnchored) ∧
        anchored.matches .null kept = anchored.matches .null start := by
  intro inner outer anchored path kept start
  have hfree : .root ∉ path := by simp [path]
  have hkept : .ok kept ∈ (path.evaluateFrom true .null start).items :=
    Run.ok_mem_items_iff.2 (List.mem_singleton_self kept)
  have houter : outer.parts = [.comparator .exists, .step (.query inner), .comparator .less,
      .step (.field (some "a"))] := rfl
  have hexpression : .step .root ∉ outer.parts := by simp [houter]
  have hparts : path.parts = .step (.query outer) :: outer.parts := rfl
  have hpath : .step .root ∉ path.parts := by simp [hparts, houter]
  have hoperands : ∀ operand ∈ anchored.operands, operand.IsAnchored := by
    simp [anchored, Expression.operands, Operand.IsAnchored]
  obtain ⟨hbelow, hroots, hexpressions, hnodes⟩ := Path.evaluateFrom_local path true .null start
  exact ⟨⟨hfree, hkept, hbelow hfree kept hkept⟩, ⟨hpath, (hroots hpath).2⟩,
    ⟨hexpression, hexpressions outer hexpression start kept⟩,
    hoperands, hnodes anchored hoperands kept start⟩

end PathQuery
