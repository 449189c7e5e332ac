/-
# What strict mode changes

In strict mode a step that cannot be taken fails, where it would give nothing otherwise.  The two
runs of a path therefore agree up to the first such failure: the strict run is the other one, or
some first nodes of it and then a failure.  This relation, `Run.IsCutOf`, is kept by joining and by
continuing, hence by every step and by every path.

Operands of queries are never evaluated in strict mode and scans never fail, so these steps are the
same in both modes.
-/
import PathQuery.Proofs.Evaluation.Steps

namespace PathQuery

namespace Run

/-- The first run is the second one, or some first nodes of it and then a failure. -/
def IsCutOf (s r : Run) : Prop := s = r ∨ s.failure.isSome ∧ s.nodes <+: r.nodes

lemma IsCutOf.refl (r : Run) : r.IsCutOf r := Or.inl rfl

lemma isCutOf_fail (cause : EvaluationError) (r : Run) : (fail cause).IsCutOf r :=
  Or.inr ⟨rfl, List.nil_prefix⟩

lemma nodes_prefix_append (r s : Run) : r.nodes <+: (r ++ s).nodes := by
  rcases h : r.failure with _ | cause
  · rw [append_of_failure_eq_none h]
    exact List.prefix_append _ _
  · have hsame : r ++ s = r := append_of_failure h
    exact hsame.symm ▸ List.prefix_rfl

lemma IsCutOf.append {s r s' r' : Run} (h : s.IsCutOf r) (h' : s'.IsCutOf r') :
    (s ++ s').IsCutOf (r ++ r') := by
  rcases h with rfl | ⟨hfailure, hnodes⟩
  -- the first runs are the same, so the relation depends on what comes behind them, if anything
  · rcases hs : s.failure with _ | cause
    · rcases h' with rfl | ⟨hfailure, hnodes⟩
      · exact .refl _
      · rw [append_of_failure_eq_none hs, append_of_failure_eq_none hs]
        exact Or.inr ⟨hfailure, (List.prefix_append_right_inj _).2 hnodes⟩
    · rw [append_of_failure hs, append_of_failure hs]
      exact .refl s
  · obtain ⟨cause, hcause⟩ := Option.isSome_iff_exists.1 hfailure
    rw [append_of_failure hcause]
    exact Or.inr ⟨hfailure, hnodes.trans (nodes_prefix_append r r')⟩

lemma IsCutOf.chain {next next' : Json → Run} (hnext : ∀ node, (next node).IsCutOf (next' node))
    {last last' : Run} (hlast : last.IsCutOf last') (nodes : List Json) :
    (Run.chain next last nodes).IsCutOf (Run.chain next' last' nodes) := by
  induction nodes with
  | nil => exact hlast
  | cons node rest ih => exact (hnext node).append ih

lemma IsCutOf.bind {s r : Run} (h : s.IsCutOf r) {next next' : Json → Run}
    (hnext : ∀ node, (next node).IsCutOf (next' node)) : (s.bind next).IsCutOf (r.bind next') := by
  rcases h with rfl | ⟨hfailure, others, hnodes⟩
  · exact .chain hnext (.refl _) s.nodes
  · obtain ⟨cause, hcause⟩ := Option.isSome_iff_exists.1 hfailure
    -- behind the common nodes there is the failure, against whatever the other nodes give
    rw [bind_def, bind_def, hcause, ← hnodes, chain_append]
    exact .chain hnext (isCutOf_fail cause _) s.nodes

lemma isCutOf_unresolved (cause : EvaluationError) :
    (unresolved true cause).IsCutOf (unresolved false cause) :=
  isCutOf_fail cause none

end Run

/-! ## Selecting from one node -/

namespace Json

open Run (IsCutOf isCutOf_unresolved)

lemma isCutOf_selectField (name : Option String) (node : Json) :
    (node.selectField true name).IsCutOf (node.selectField false name) := by
  unfold selectField
  split
  · split
    · split
      · exact .refl _
      · exact isCutOf_unresolved _
    · exact .refl _
  · exact isCutOf_unresolved _

lemma isCutOf_selectFields (names : List String) (node : Json) :
    (node.selectFields true names).IsCutOf (node.selectFields false names) := by
  unfold selectFields
  split
  · next members =>
    induction names with
    | nil => exact .refl _
    | cons name rest ih => exact (isCutOf_selectField (some name) (.object members)).append ih
  · exact isCutOf_unresolved _

lemma isCutOf_selectIndex (i : Option Int) (node : Json) :
    (node.selectIndex true i).IsCutOf (node.selectIndex false i) := by
  unfold selectIndex
  split
  · split
    · split
      · exact .refl _
      · exact isCutOf_unresolved _
    · exact .refl _
  · exact isCutOf_unresolved _

lemma isCutOf_selectIndexes (is : List Int) (node : Json) :
    (node.selectIndexes true is).IsCutOf (node.selectIndexes false is) := by
  induction is with
  | nil => exact .refl _
  | cons i rest ih => exact (isCutOf_selectIndex (some i) node).append ih

lemma isCutOf_selectSlice (slice : Slice) (node : Json) :
    (node.selectSlice true slice).IsCutOf (node.selectSlice false slice) := by
  unfold selectSlice
  split
  · split
    · exact isCutOf_unresolved _
    · exact .refl _
  · exact isCutOf_unresolved _

end Json

/-! ## Steps and paths -/

namespace Step

open Run (IsCutOf)

lemma isCutOf_select (root : Json) (step : Step) (node : Json) :
    (step.select root true node).IsCutOf (step.select root false node) := by
  cases step with
  | field name => exact node.isCutOf_selectField name
  | fields names => exact node.isCutOf_selectFields names
  | index i => exact node.isCutOf_selectIndex i
  | indexes is => exact node.isCutOf_selectIndexes is
  | slice start stop stride =>
    by_cases hstride : stride = some 0
    · simp only [select, if_pos hstride]
      exact .refl _
    · simp only [select, if_neg hstride]
      exact node.isCutOf_selectSlice _
  | _ => exact .refl _

/-- A step keeps the relation, whether or not it looks at the run that it is applied to. -/
lemma isCutOf_apply (root : Json) (step : Step) {s r : Run} (h : s.IsCutOf r) :
    (step.apply root true s).IsCutOf (step.apply root false r) := by
  by_cases hlocal : step.IsLocal
  · rw [apply_eq_bind hlocal, apply_eq_bind hlocal]
    exact h.bind (step.isCutOf_select root)
  · cases step with
    | root => exact .refl _
    | slice start stop stride =>
      obtain rfl : stride = some 0 := not_not.1 hlocal
      exact .refl _
    | _ => exact absurd trivial hlocal

lemma isCutOf_applyAll (root : Json) (path : Path) {s r : Run} (h : s.IsCutOf r) :
    (applyAll root true path s).IsCutOf (applyAll root false path r) := by
  induction path generalizing s r with
  | nil => exact h
  | cons step rest ih => exact ih (step.isCutOf_apply root h)

end Step

namespace Path

/-- Strict mode only adds failures: the nodes of the strict run are first nodes of the lenient one,
a strict run without a failure is the lenient run, and it fails wherever the lenient run does. -/
theorem items_strict_cut (path : Path) (root start : Json) :
    let strict := (path.evaluateFrom true root start).items
    let lenient := (path.evaluateFrom false root start).items
    strict.filterMap Except.toOption <+: lenient.filterMap Except.toOption ∧
      ((∀ cause, .error cause ∉ strict) → strict = lenient) ∧
      ((∃ cause, .error cause ∈ lenient) → ∃ cause, .error cause ∈ strict) := by
  intro strict lenient
  have hcut : (path.evaluateFrom true root start).IsCutOf (path.evaluateFrom false root start) :=
    Step.isCutOf_applyAll root path (.refl _)
  simp only [strict, lenient, Run.filterMap_toOption_items, Run.error_mem_items_iff]
  rcases hcut with hsame | ⟨hfailure, hnodes⟩
  · rw [hsame]
    exact ⟨List.prefix_rfl, fun _ => rfl, id⟩
  · obtain ⟨cause, hcause⟩ := Option.isSome_iff_exists.1 hfailure
    exact ⟨hnodes, fun hnone => absurd hcause (hnone cause), fun _ => ⟨cause, hcause⟩⟩

end Path

end PathQuery
