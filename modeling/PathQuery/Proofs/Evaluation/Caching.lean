/-
# Caches do not change answers

The tests of a query share a cache of patterns.  What a cache holds is what would be made anew
(`Pattern.Cache.map_fst_compile`), and this is all that a test uses of it: no result depends on the
cache that it is found with.  The property is closed under sequencing, so it passes from matching a
pattern to pairs of values, to the nodes of two runs, and to whole expressions.

A filter with a shared cache is therefore a filter that tests every candidate afresh.
-/
import PathQuery.Proofs.Evaluation.RunAlgebra

namespace PathQuery

open Pattern (Cache)

/-- The result is the same with every cache. -/
def IgnoresCache {α : Type} (x : Cached α) : Prop :=
  ∀ cache cache', (x cache).map (·.1) = (x cache').map (·.1)

namespace IgnoresCache

variable {α β : Type}

lemma ok (a : α) : IgnoresCache fun cache => .ok (a, cache) := fun _ _ => rfl

lemma error (cause : EvaluationError) : IgnoresCache (α := α) fun _ => .error cause :=
  fun _ _ => rfl

/-- A second action may depend on the result of the first one. -/
lemma bind {x : Cached α} {next : α × Cache → Except EvaluationError (β × Cache)}
    (hx : IgnoresCache x) (hnext : ∀ a, IgnoresCache fun cache => next (a, cache)) :
    IgnoresCache fun cache => x cache >>= next := by
  intro cache cache'
  have hsame := hx cache cache'
  show (x cache >>= next).map (·.1) = (x cache' >>= next).map (·.1)
  rcases h : x cache with cause | ⟨a, after⟩ <;> rcases h' : x cache' with cause' | ⟨a', after'⟩ <;>
    rw [h, h'] at hsame
  · cases hsame
    rfl
  · cases hsame
  · cases hsame
  · obtain rfl : a = a' := Except.ok.inj hsame
    exact hnext a after after'

end IgnoresCache

/-! ## Comparators -/

namespace Comparator

lemma ignoresCache_testPattern (input pattern : Json) :
    IgnoresCache (testPattern input pattern) := by
  intro cache cache'
  unfold testPattern
  split
  · next input pattern =>
    have hsame := (cache.map_fst_compile pattern).trans (cache'.map_fst_compile pattern).symm
    rcases h : cache.compile pattern with cause | ⟨compiled, after⟩ <;>
      rcases h' : cache'.compile pattern with cause' | ⟨compiled', after'⟩ <;>
      rw [h, h'] at hsame <;> cases hsame <;> rfl
  · rfl

lemma ignoresCache_testPair (comparator : Comparator) (left right : Json) :
    IgnoresCache (comparator.testPair left right) := by
  intro cache cache'
  unfold testPair
  split
  · rfl
  · split
    · exact ignoresCache_testPattern left right cache cache'
    · rfl

lemma ignoresCache_testRights (comparator : Comparator) (left : Json) (rights : List Json) :
    IgnoresCache (comparator.testRights left rights) := by
  induction rights with
  | nil => exact .ok false
  | cons right rest ih =>
    refine (ignoresCache_testPair comparator left right).bind fun holds => ?_
    cases holds with
    | true => exact .ok true
    | false => exact ih

lemma ignoresCache_testLefts (comparator : Comparator) (rights lefts : List Json) :
    IgnoresCache (comparator.testLefts rights lefts) := by
  induction lefts with
  | nil => exact .ok false
  | cons left rest ih =>
    refine (ignoresCache_testRights comparator left rights).bind fun holds => ?_
    cases holds with
    | true => exact .ok true
    | false => exact ih

lemma ignoresCache_testRuns (comparator : Comparator) (left right : Run) :
    IgnoresCache (comparator.testRuns left right) := by
  intro cache cache'
  unfold testRuns
  split
  · rfl
  · rfl
  · split
    · rfl
    · split
      · rfl
      · refine (ignoresCache_testLefts comparator right.nodes left.nodes).bind (fun holds => ?_)
          cache cache'
        cases holds with
        | true => exact .ok true
        | false =>
          cases left.failure with
          | none => exact .ok false
          | some cause => exact .error cause

end Comparator

/-! ## Expressions -/

mutual

lemma Expression.ignoresCache_test (root node : Json) :
    (expression : Expression) → IgnoresCache (expression.test root node)
  | .comparison comparator left right =>
    comparator.ignoresCache_testRuns (left.resolve root node)
      (Operand.resolveOption root node right)
  | .composite .and parts => Expression.ignoresCache_testAll root node parts
  | .composite .or parts => Expression.ignoresCache_testAny root node parts

lemma Expression.ignoresCache_testAll (root node : Json) :
    (parts : List Expression) → IgnoresCache (Expression.testAll root node parts)
  | [] => .ok true
  | part :: rest => by
    refine (part.ignoresCache_test root node).bind fun holds => ?_
    cases holds with
    | true => exact Expression.ignoresCache_testAll root node rest
    | false => exact .ok false

lemma Expression.ignoresCache_testAny (root node : Json) :
    (parts : List Expression) → IgnoresCache (Expression.testAny root node parts)
  | [] => .ok false
  | part :: rest => by
    refine (part.ignoresCache_test root node).bind fun holds => ?_
    cases holds with
    | true => exact .ok true
    | false => exact Expression.ignoresCache_testAny root node rest

end

lemma Expression.map_fst_test (expression : Expression) (root node : Json) (cache : Cache) :
    (expression.test root node cache).map (·.1) = expression.matches root node :=
  expression.ignoresCache_test root node cache .empty

/-! ## Filters -/

namespace Run

/-- The node, if it passes its test; a test that fails is a failure. -/
def keep (node : Json) : Except EvaluationError Bool → Run
  | .ok true => single node
  | .ok false => none
  | .error cause => fail cause

lemma filter_eq_chain {test : Json → Cached Bool} {holds : Json → Except EvaluationError Bool}
    (htest : ∀ node cache, (test node cache).map (·.1) = holds node) (candidates : List Json)
    (cache : Cache) :
    filter test cache candidates = chain (fun node => keep node (holds node)) none candidates := by
  induction candidates generalizing cache with
  | nil => rfl
  | cons candidate rest ih =>
    have hsame := htest candidate cache
    rw [filter, chain]
    rcases htested : test candidate cache with cause | ⟨passes, after⟩ <;> rw [htested] at hsame <;>
      rw [← hsame]
    · rfl
    · cases passes with
      | true => exact congrArg (single candidate ++ ·) (ih after)
      | false => exact ih after

/-- A filter from every node of a run tests every candidate by itself. -/
lemma filterFrom_eq_bind {test : Json → Cached Bool} {holds : Json → Except EvaluationError Bool}
    (htest : ∀ node cache, (test node cache).map (·.1) = holds node) (r : Run)
    (candidates : Json → List Json) :
    r.filterFrom candidates test
      = r.bind fun node => chain (fun node => keep node (holds node)) none (candidates node) := by
  rw [filterFrom, filter_eq_chain htest, bind_def]
  induction r.nodes with
  | nil => rfl
  | cons node rest ih =>
    rw [List.flatMap_cons, chain_append, chain_eq_append, append_assoc, ih, chain]

end Run

end PathQuery
