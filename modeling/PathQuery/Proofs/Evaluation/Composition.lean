/-
# Evaluating a path in two parts

Evaluating `p ++ q` is evaluating `q` from every node that `p` gives, and stopping at the first
failure.  This holds when all steps of `q` are local.  A step to the root makes everything before it
irrelevant, and a slice with a step of zero fails whatever comes before it and whatever local steps
come after.
-/
import PathQuery.Proofs.Evaluation.Pipeline

namespace PathQuery

open Item (untilFailure expand)

namespace Path

lemma evaluateFrom_append_of_isLocal {q : Path} (hlocal : ∀ step ∈ q, step.IsLocal) (p : Path)
    (strict : Bool) (root start : Json) :
    (p ++ q).evaluateFrom strict root start
      = (p.evaluateFrom strict root start).bind (q.evaluateFrom strict root) := by
  rw [evaluateFrom_append, Step.applyAll_eq_bind hlocal]
  rfl

/-- Evaluating in two parts, seen from the items. -/
lemma items_evaluateFrom_append_of_isLocal {q : Path} (hlocal : ∀ step ∈ q, step.IsLocal)
    (p : Path) (strict : Bool) (root start : Json) :
    ((p ++ q).evaluateFrom strict root start).items
      = untilFailure ((p.evaluateFrom strict root start).items.flatMap
          (expand fun node => (q.evaluateFrom strict root node).items)) := by
  rw [evaluateFrom_append_of_isLocal hlocal, ← Run.items_ofItems, Run.ofItems_flatMap_expand,
    Run.ofItems_items]
  simp only [Run.ofItems_items]

lemma evaluateFrom_root (p q : Path) (strict : Bool) (root start : Json) :
    (p ++ [Step.root] ++ q).evaluateFrom strict root start = q.evaluateFrom strict root root := by
  rw [evaluateFrom_append, evaluateFrom_append]
  rfl

/-- The failure of a slice with a step of zero is kept by all steps but a step to the root: other
such slices fail in the same way, and local steps pass it on. -/
lemma applyAll_fail_zeroStep {path : Path} (hroot : Step.root ∉ path) (root : Json)
    (strict : Bool) :
    Step.applyAll root strict path (.fail .zeroStep) = .fail .zeroStep := by
  induction path with
  | nil => rfl
  | cons step rest ih =>
    rw [List.mem_cons, not_or] at hroot
    obtain ⟨hstep, hrest⟩ := hroot
    have hkept : step.apply root strict (.fail .zeroStep) = .fail .zeroStep := by
      by_cases hlocal : step.IsLocal
      · rw [Step.apply_eq_bind hlocal, Run.fail_bind]
      · cases step with
        | root => exact absurd rfl hstep
        | slice start stop stride =>
          obtain rfl : stride = some 0 := not_not.1 hlocal
          rfl
        | _ => exact absurd trivial hlocal
    rw [Step.applyAll, hkept, ih hrest]

lemma evaluateFrom_zero_slice {q : Path} (hroot : Step.root ∉ q) (p : Path) (from? to? : Option Int)
    (strict : Bool) (root start : Json) :
    (p ++ [Step.slice from? to? (some 0)] ++ q).evaluateFrom strict root start
      = .fail .zeroStep := by
  rw [evaluateFrom_append, evaluateFrom_append]
  exact applyAll_fail_zeroStep hroot root strict

/-- Evaluation is compositional: local steps are evaluated from every node, steps to the root start
again, slices with a step of zero fail, and in all cases the items are those of the pipeline up to
its first failure, behind which there is nothing. -/
theorem items_evaluateFrom_compose (p q : Path) (strict : Bool) (root start : Json) :
    ((∀ step ∈ q, step.IsLocal) →
      ((p ++ q).evaluateFrom strict root start).items
        = untilFailure ((p.evaluateFrom strict root start).items.flatMap
            (expand fun node => (q.evaluateFrom strict root node).items))) ∧
    ((p ++ [Step.root] ++ q).evaluateFrom strict root start).items
      = (q.evaluateFrom strict root root).items ∧
    (Step.root ∉ q → ∀ from? to?,
      ((p ++ [Step.slice from? to? (some 0)] ++ q).evaluateFrom strict root start).items
          = [.error .zeroStep] ∧
        EvaluationError.zeroStep.message = "Step cannot be zero.") ∧
    (p.evaluateFrom strict root start).items = untilFailure (p.stream strict root start) ∧
    ∀ before cause after,
      (p.evaluateFrom strict root start).items = before ++ .error cause :: after → after = [] := by
  refine ⟨fun hlocal => ?_, ?_, fun hroot from? to? => ?_, ?_, fun before cause after hitems => ?_⟩
  · exact items_evaluateFrom_append_of_isLocal hlocal p strict root start
  · rw [evaluateFrom_root]
  · rw [evaluateFrom_zero_slice hroot]
    exact ⟨rfl, rfl⟩
  · exact items_eq_untilFailure_stream p strict root start
  · exact Run.eq_nil_of_items_eq hitems

/-- The first part fails at a missing element, before the tail fails at the null behind it. -/
theorem items_evaluateFrom_compose_failure :
    let p : Path := [.indexes [0, 7, 1]]
    let q : Path := [.field (some "a")]
    let root : Json := .array [.object [("a", .bool true)], .null]
    (∀ step ∈ q, step.IsLocal) ∧ Step.root ∉ q ∧
      (p.evaluateFrom true root root).items
        = [.ok (.object [("a", .bool true)]), .error (.outOfBounds 7)] ∧
      (q.evaluateFrom true root .null).items = [.error (.noProperty (some "a") .null)] ∧
      ((p ++ q).evaluateFrom true root root).items = [.ok (.bool true), .error (.outOfBounds 7)] ∧
      ((p ++ [Step.slice none none (some 0)] ++ q).evaluateFrom true root root).items
        = [.error .zeroStep] := by
  intro p q root
  have hlocal : ∀ step ∈ q, step.IsLocal := List.forall_mem_singleton.2 trivial
  have hroot : Step.root ∉ q := by simp [q]
  obtain ⟨happend, -, hslice, -⟩ := items_evaluateFrom_compose p q true root root
  refine ⟨hlocal, hroot, rfl, rfl, ?_, (hslice hroot none none).1⟩
  rw [happend hlocal]
  rfl

end Path

end PathQuery
