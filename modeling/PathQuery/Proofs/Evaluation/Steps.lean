/-
# Steps from one node

Two kinds of steps discard the run that they are applied to: a step to the root and a slice with a
step of zero.  Every other step is *local*: it replaces each node by the run `Step.select` that it
gives for that node alone (`Step.apply_eq_bind`), so it is a map on runs that commutes with
continuing.  Lists of local steps have the same property (`Step.applyAll_eq_bind`).
-/
import PathQuery.Proofs.Evaluation.Caching

namespace PathQuery

namespace Step

/-- The step is neither to the root nor a slice with a step of zero. -/
def IsLocal : Step → Prop
  | .root => False
  | .slice _ _ stride => stride ≠ some 0
  | _ => True

/-- The run of a step from one node. -/
def select (root : Json) (strict : Bool) : Step → Json → Run
  | .root, _ => .single root
  | .field name, node => node.selectField strict name
  | .fields names, node => node.selectFields strict names
  | .index i, node => node.selectIndex strict i
  | .indexes is, node => node.selectIndexes strict is
  | .slice start stop stride, node =>
    if stride = some 0 then .fail .zeroStep
    else node.selectSlice strict ⟨start, stop, stride.getD 1⟩
  | .scan name, node => node.selectScan name
  | .scanFields names, node => node.selectScanFields names
  | .query filter, node =>
    .chain (fun node => .keep node (filter.matches root node)) .none node.children
  | .queryScan filter, node =>
    .chain (fun node => .keep node (filter.matches root node)) .none (node.scan.map (·.node))

lemma apply_eq_bind {step : Step} (hlocal : step.IsLocal) (root : Json) (strict : Bool) (r : Run) :
    step.apply root strict r = r.bind (step.select root strict) := by
  cases step with
  | root => exact hlocal.elim
  | slice start stop stride =>
    have hstride : stride ≠ some 0 := hlocal
    simp only [apply, if_neg hstride]
    congr 1
    funext node
    rw [select, if_neg hstride]
  | query filter => exact Run.filterFrom_eq_bind (fun node => filter.map_fst_test root node) r _
  | queryScan filter => exact Run.filterFrom_eq_bind (fun node => filter.map_fst_test root node) r _
  | _ => rfl

lemma apply_single {step : Step} (hlocal : step.IsLocal) (root : Json) (strict : Bool)
    (node : Json) : step.apply root strict (.single node) = step.select root strict node := by
  rw [apply_eq_bind hlocal, Run.single_bind]

/-! ## Lists of steps -/

lemma applyAll_append (root : Json) (strict : Bool) (p q : Path) (r : Run) :
    applyAll root strict (p ++ q) r = applyAll root strict q (applyAll root strict p r) := by
  induction p generalizing r with
  | nil => rfl
  | cons step rest ih => exact ih (step.apply root strict r)

lemma applyAll_eq_bind {path : Path} (hlocal : ∀ step ∈ path, step.IsLocal) (root : Json)
    (strict : Bool) (r : Run) :
    applyAll root strict path r = r.bind fun node => applyAll root strict path (.single node) := by
  induction path generalizing r with
  | nil => exact r.bind_single.symm
  | cons step rest ih =>
    obtain ⟨hstep, hrest⟩ := List.forall_mem_cons.1 hlocal
    calc applyAll root strict rest (step.apply root strict r)
        = (r.bind (step.select root strict)).bind
            fun node => applyAll root strict rest (.single node) := by
          rw [ih hrest, apply_eq_bind hstep]
      _ = r.bind fun node => (step.select root strict node).bind
            fun node => applyAll root strict rest (.single node) := Run.bind_assoc _ _ _
      _ = r.bind fun node => applyAll root strict rest (step.apply root strict (.single node)) := by
          congr 1
          funext node
          rw [← ih hrest, apply_single hstep]

lemma applyAll_fail {path : Path} (hlocal : ∀ step ∈ path, step.IsLocal) (root : Json)
    (strict : Bool) (cause : EvaluationError) :
    applyAll root strict path (.fail cause) = .fail cause := by
  rw [applyAll_eq_bind hlocal, Run.fail_bind]

lemma applyAll_none {path : Path} (hlocal : ∀ step ∈ path, step.IsLocal) (root : Json)
    (strict : Bool) : applyAll root strict path .none = .none := by
  rw [applyAll_eq_bind hlocal, Run.none_bind]

end Step

lemma Path.evaluateFrom_append (p q : Path) (strict : Bool) (root start : Json) :
    (p ++ q).evaluateFrom strict root start
      = Step.applyAll root strict q (p.evaluateFrom strict root start) :=
  Step.applyAll_append root strict p q (.single start)

end PathQuery
