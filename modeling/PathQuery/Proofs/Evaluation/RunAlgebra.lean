/-
# The algebra of runs

Runs are joined by `++` and continued, node by node, by `Run.bind`.  Joining is associative, and
nothing comes behind a failure.  Continuing satisfies the laws of a monad with `Run.single` as its
unit, and it distributes over joining.  These laws are all that later modules use of the two
operations.

The items of a run show its nodes and then its failure; `Run.items` loses nothing.
-/
import Mathlib.Data.List.Basic
import PathQuery.Evaluation.Basic

namespace PathQuery

namespace Run

@[ext] lemma ext {r s : Run} (hnodes : r.nodes = s.nodes) (hfailure : r.failure = s.failure) :
    r = s := by
  cases r
  cases s
  simp_all

/-! ## Joining -/

lemma append_def (r s : Run) : r ++ s = r.append s := rfl

lemma append_of_failure {r s : Run} {cause : EvaluationError} (h : r.failure = some cause) :
    r ++ s = r := by
  rw [append_def, append, h]

lemma append_of_failure_eq_none {r s : Run} (h : r.failure = Option.none) :
    r ++ s = ⟨r.nodes ++ s.nodes, s.failure⟩ := by
  rw [append_def, append, h]

@[simp] lemma append_none (r : Run) : r ++ none = r := by
  rcases h : r.failure with _ | cause
  · rw [append_of_failure_eq_none h]
    ext1
    · exact List.append_nil _
    · exact h.symm
  · exact append_of_failure h

lemma append_assoc (r s t : Run) : r ++ s ++ t = r ++ (s ++ t) := by
  obtain ⟨xs, _ | cause⟩ := r
  · obtain ⟨ys, _ | cause⟩ := s
    · exact ext (List.append_assoc xs ys t.nodes) rfl
    · rfl
  · rfl

/-! ## Continuing -/

lemma bind_def (r : Run) (next : Json → Run) : r.bind next = chain next ⟨[], r.failure⟩ r.nodes :=
  rfl

lemma chain_eq_append (next : Json → Run) (last : Run) (nodes : List Json) :
    chain next last nodes = chain next none nodes ++ last := by
  induction nodes with
  | nil => rfl
  | cons node rest ih => rw [chain, ih, chain, append_assoc]

lemma chain_append (next : Json → Run) (last : Run) (xs ys : List Json) :
    chain next last (xs ++ ys) = chain next (chain next last ys) xs := by
  induction xs with
  | nil => rfl
  | cons x rest ih => rw [List.cons_append, chain, ih, chain]

@[simp] lemma none_bind (next : Json → Run) : none.bind next = none := rfl

@[simp] lemma fail_bind (cause : EvaluationError) (next : Json → Run) :
    (fail cause).bind next = fail cause := rfl

@[simp] lemma single_bind (node : Json) (next : Json → Run) : (single node).bind next = next node :=
  append_none _

lemma bind_append (r s : Run) (next : Json → Run) :
    (r ++ s).bind next = r.bind next ++ s.bind next := by
  rcases h : r.failure with _ | cause
  · rw [append_of_failure_eq_none h, bind_def, chain_append, bind_def, bind_def, h,
      chain_eq_append]
    rfl
  · rw [append_of_failure h, bind_def, h, chain_eq_append, append_assoc]
    rfl

lemma chain_bind (next after : Json → Run) (last : Run) (nodes : List Json) :
    (chain next last nodes).bind after
      = chain (fun node => (next node).bind after) (last.bind after) nodes := by
  induction nodes with
  | nil => rfl
  | cons node rest ih => rw [chain, bind_append, ih, chain]

lemma bind_assoc (r : Run) (next after : Json → Run) :
    (r.bind next).bind after = r.bind fun node => (next node).bind after :=
  chain_bind next after ⟨[], r.failure⟩ r.nodes

/-- A run is made of its nodes, one after the other, and its failure. -/
lemma bind_single (r : Run) : r.bind single = r := by
  have hchain (last : Run) (nodes : List Json) :
      chain single last nodes = ⟨nodes ++ last.nodes, last.failure⟩ := by
    induction nodes with
    | nil => rfl
    | cons node rest ih =>
      rw [chain, ih]
      rfl
  rw [bind_def, hchain]
  exact ext (List.append_nil _) rfl

/-! ## Items -/

/-- The nodes of a run are its items that are no failures. -/
lemma filterMap_toOption_items (r : Run) : r.items.filterMap Except.toOption = r.nodes := by
  have hnodes : (r.nodes.map (Except.ok (ε := EvaluationError))).filterMap Except.toOption
      = r.nodes := by
    rw [List.filterMap_map]
    exact List.filterMap_some
  rw [items, List.filterMap_append, hnodes]
  cases r.failure <;> simp [Except.toOption]

lemma ok_mem_items_iff {r : Run} {node : Json} : .ok node ∈ r.items ↔ node ∈ r.nodes := by
  simp [items]

lemma error_mem_items_iff {r : Run} {cause : EvaluationError} :
    .error cause ∈ r.items ↔ r.failure = some cause := by
  simp [items]

/-- Only the last item of a run can be a failure. -/
lemma eq_nil_of_items_eq {r : Run} {before after : List (Except EvaluationError Json)}
    {cause : EvaluationError} (h : r.items = before ++ .error cause :: after) : after = [] := by
  rcases hr : r.failure with _ | last
  · have hmem : .error cause ∈ r.items := by rw [h]; simp
    rw [error_mem_items_iff, hr] at hmem
    exact absurd hmem (by simp)
  · rcases List.eq_nil_or_concat after with rfl | ⟨rest, item, rfl⟩
    · rfl
    · exfalso
      rw [items, hr, Option.toList_some, List.map_singleton, List.concat_eq_append,
        ← List.cons_append, ← List.append_assoc] at h
      have hinit := (List.append_inj' h rfl).1
      have hmem : .error cause ∈ r.nodes.map (Except.ok (ε := EvaluationError)) := by
        rw [hinit]; simp
      simp at hmem

end Run

end PathQuery
