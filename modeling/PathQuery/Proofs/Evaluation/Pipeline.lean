/-
# Evaluation as a pipeline that is cut at its end

A path can also be evaluated as a pipeline: each step maps a sequence of items, nodes and failures,
to another one.  No step looks at a failure; it passes it on and goes on with the nodes behind it.
Only at the end of the pipeline the sequence is cut behind its first failure.

A run is such a sequence that has been cut already.  `Run.ofItems` cuts a sequence; it turns the
joining and continuing of sequences into those of runs, so cutting early, step by step, and cutting
late give the same items (`Path.items_eq_untilFailure_stream`).
-/
import PathQuery.Proofs.Evaluation.Steps

namespace PathQuery

open Pattern (Cache)

/-- A node or a failure. -/
abbrev Item := Except EvaluationError Json

namespace Item

/-- The items up to the first failure, which is kept. -/
def untilFailure : List Item → List Item
  | [] => []
  | .ok node :: rest => .ok node :: untilFailure rest
  | .error cause :: _ => [.error cause]

/-- The items that replace an item: those of a node, or the failure itself. -/
def expand (select : Json → List Item) : Item → List Item
  | .ok node => select node
  | .error cause => [.error cause]

end Item

open Item (untilFailure expand)

/-! ## Cutting a sequence -/

namespace Run

/-- The nodes of a sequence up to its first failure, and the failure. -/
def ofItems : List Item → Run
  | [] => none
  | .ok node :: rest => single node ++ ofItems rest
  | .error cause :: _ => fail cause

lemma items_single_append (node : Json) (r : Run) :
    (single node ++ r).items = .ok node :: r.items := rfl

lemma items_ofItems (items : List Item) : (ofItems items).items = untilFailure items := by
  induction items with
  | nil => rfl
  | cons item rest ih =>
    cases item with
    | ok node => rw [ofItems, items_single_append, ih, untilFailure]
    | error cause => rfl

lemma ofItems_items (r : Run) : ofItems r.items = r := by
  obtain ⟨nodes, failure⟩ := r
  induction nodes with
  | nil => cases failure <;> rfl
  | cons node rest ih =>
    show single node ++ ofItems (⟨rest, failure⟩ : Run).items = ⟨node :: rest, failure⟩
    rw [ih]
    rfl

lemma ofItems_append (xs ys : List Item) : ofItems (xs ++ ys) = ofItems xs ++ ofItems ys := by
  induction xs with
  | nil => rfl
  | cons item rest ih =>
    cases item with
    | ok node => rw [List.cons_append, ofItems, ih, ofItems, append_assoc]
    | error cause => rfl

lemma ofItems_flatMap_expand (items : List Item) (select : Json → List Item) :
    ofItems (items.flatMap (expand select))
      = (ofItems items).bind fun node => ofItems (select node) := by
  induction items with
  | nil => rfl
  | cons item rest ih =>
    rw [List.flatMap_cons, ofItems_append, ih]
    cases item with
    | ok node => rw [ofItems, bind_append, single_bind, expand]
    | error cause => rfl

end Run

/-! ## Steps on sequences -/

/-- The candidates that pass a test, and a failure in the place of each one whose test fails, with
the cache after the last test.  Behind a test that fails the next one starts with the cache from
before it: the patterns that it had added by then are not kept.  No answer shows this, because the
sequence is cut at the failure. -/
def testCandidates (test : Json → Cached Bool) : Cache → List Json → List Item × Cache
  | cache, [] => ([], cache)
  | cache, candidate :: rest =>
    match test candidate cache with
    | .ok (true, cache) =>
      (.ok candidate :: (testCandidates test cache rest).1, (testCandidates test cache rest).2)
    | .ok (false, cache) => testCandidates test cache rest
    | .error cause =>
      (.error cause :: (testCandidates test cache rest).1, (testCandidates test cache rest).2)

/-- The candidates from every node of a sequence that pass a test; all tests share one cache. -/
def filterItems (candidates : Json → List Json) (test : Json → Cached Bool) :
    Cache → List Item → List Item
  | _, [] => []
  | cache, .ok node :: rest =>
    (testCandidates test cache (candidates node)).1 ++
      filterItems candidates test (testCandidates test cache (candidates node)).2 rest
  | cache, .error cause :: rest => .error cause :: filterItems candidates test cache rest

namespace Json

/-- The members with the listed names, with a failure in the place of each one that is missing in
strict mode. -/
def fieldItems (strict : Bool) (names : List String) : Json → List Item
  | .object members =>
    names.flatMap fun name => (selectField strict (some name) (.object members)).items
  | other => (Run.unresolved strict (.noProperties names other.kind)).items

/-- The elements at the listed indexes, with a failure in the place of each one that is missing in
strict mode. -/
def indexItems (strict : Bool) (is : List Int) (node : Json) : List Item :=
  is.flatMap fun i => (node.selectIndex strict (some i)).items

end Json

/-- A step, taken from every node of a sequence.  Failures are passed on. -/
def Step.stream (root : Json) (strict : Bool) : Step → List Item → List Item
  | .root, _ => [.ok root]
  | .field name, items => items.flatMap (expand fun node => (node.selectField strict name).items)
  | .fields names, items => items.flatMap (expand (Json.fieldItems strict names))
  | .index i, items => items.flatMap (expand fun node => (node.selectIndex strict i).items)
  | .indexes is, items => items.flatMap (expand (Json.indexItems strict is))
  | .slice start stop stride, items =>
    if stride = some 0 then [.error .zeroStep]
    else items.flatMap
      (expand fun node => (node.selectSlice strict ⟨start, stop, stride.getD 1⟩).items)
  | .scan name, items => items.flatMap (expand fun node => (node.selectScan name).items)
  | .scanFields names, items =>
    items.flatMap (expand fun node => (node.selectScanFields names).items)
  | .query filter, items => filterItems Json.children (filter.test root) .empty items
  | .queryScan filter, items =>
    filterItems (fun node => node.scan.map (·.node)) (filter.test root) .empty items

/-- The sequence at the end of the pipeline of a path, before it is cut. -/
def Path.stream (path : Path) (strict : Bool) (root start : Json) : List Item :=
  path.foldl (fun items step => step.stream root strict items) [.ok start]

/-! ## Cutting early and cutting late -/

namespace Run

/-- Up to the first failure the tests see the same caches, whether or not they go on behind it. -/
lemma ofItems_testCandidates (test : Json → Cached Bool) (cache : Cache) (candidates : List Json) :
    ofItems (testCandidates test cache candidates).1 = filter test cache candidates := by
  induction candidates generalizing cache with
  | nil => rfl
  | cons candidate rest ih =>
    rw [testCandidates, filter]
    rcases test candidate cache with cause | ⟨passes, after⟩
    · rfl
    · cases passes with
      | true => exact congrArg (single candidate ++ ·) (ih after)
      | false => exact ih after

lemma ofItems_filterItems {test : Json → Cached Bool}
    {holds : Json → Except EvaluationError Bool}
    (htest : ∀ node cache, (test node cache).map (·.1) = holds node)
    (candidates : Json → List Json) (cache : Cache) (items : List Item) :
    ofItems (filterItems candidates test cache items)
      = (ofItems items).bind
          fun node => chain (fun node => keep node (holds node)) none (candidates node) := by
  induction items generalizing cache with
  | nil => rfl
  | cons item rest ih =>
    cases item with
    | ok node =>
      -- the next node starts with another cache than a test of its own would
      rw [filterItems, ofItems_append, ofItems_testCandidates, filter_eq_chain htest, ih, ofItems,
        bind_append, single_bind]
    | error cause => rfl

lemma ofItems_fieldItems (strict : Bool) (names : List String) (node : Json) :
    ofItems (node.fieldItems strict names) = node.selectFields strict names := by
  cases node with
  | object members =>
    induction names with
    | nil => rfl
    | cons name rest ih =>
      show ofItems ((Json.selectField strict (some name) (.object members)).items ++
        (Json.object members).fieldItems strict rest) = _
      rw [ofItems_append, ofItems_items, ih]
      rfl
  | _ => exact ofItems_items _

lemma ofItems_indexItems (strict : Bool) (is : List Int) (node : Json) :
    ofItems (node.indexItems strict is) = node.selectIndexes strict is := by
  induction is with
  | nil => rfl
  | cons i rest ih =>
    rw [Json.indexItems, List.flatMap_cons, ofItems_append, ofItems_items, Json.selectIndexes, ← ih,
      Json.indexItems]

end Run

open Run (ofItems)

/-- One step: cutting its input first makes no difference. -/
lemma Step.ofItems_stream (root : Json) (strict : Bool) (step : Step) (items : List Item) :
    ofItems (step.stream root strict items) = step.apply root strict (ofItems items) := by
  cases step with
  | root => rfl
  | slice start stop stride =>
    by_cases hstride : stride = some 0
    · rw [hstride]
      rfl
    · simp only [stream, apply, if_neg hstride, Run.ofItems_flatMap_expand, Run.ofItems_items]
  | fields names =>
    simp only [stream, apply, Run.ofItems_flatMap_expand, Run.ofItems_fieldItems]
  | indexes is =>
    simp only [stream, apply, Run.ofItems_flatMap_expand, Run.ofItems_indexItems]
  | query filter =>
    have htest (node : Json) := filter.map_fst_test root node
    rw [stream, Run.ofItems_filterItems htest, apply, Run.filterFrom_eq_bind htest]
  | queryScan filter =>
    have htest (node : Json) := filter.map_fst_test root node
    rw [stream, Run.ofItems_filterItems htest, apply, Run.filterFrom_eq_bind htest]
  | _ => simp only [stream, apply, Run.ofItems_flatMap_expand, Run.ofItems_items]

namespace Path

lemma ofItems_stream (path : Path) (strict : Bool) (root start : Json) :
    ofItems (path.stream strict root start) = path.evaluateFrom strict root start := by
  have hfold (items : List Item) :
      ofItems (path.foldl (fun items step => step.stream root strict items) items)
        = Step.applyAll root strict path (ofItems items) := by
    induction path generalizing items with
    | nil => rfl
    | cons step rest ih =>
      rw [List.foldl_cons, ih, Step.ofItems_stream, Step.applyAll]
  exact hfold [.ok start]

/-- The items of a path are those of its pipeline up to the first failure. -/
lemma items_eq_untilFailure_stream (path : Path) (strict : Bool) (root start : Json) :
    (path.evaluateFrom strict root start).items
      = untilFailure (path.stream strict root start) := by
  rw [← ofItems_stream, Run.items_ofItems]

end Path

end PathQuery
