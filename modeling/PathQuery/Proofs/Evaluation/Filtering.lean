/-
# Queries are plain filters

The tests of a query share a cache of patterns, but a lookup with a cache that has been used is
answered as a lookup with a new one.  So a query keeps, among the children of every node, those for
which a test by itself succeeds, in their order and up to the first test that fails; and so does a
query behind two dots, among the entries of a scan.  Since a scan comes twice by the value of a
member and once by any other node, the latter query gives its matches as often.
-/
import PathQuery.Path.SyntaxError
import PathQuery.Proofs.Evaluation.Pipeline
import PathQuery.Proofs.Json.Locations

namespace PathQuery

open Pattern (Cache)
open Item (untilFailure expand)

/-! ## Lookups -/

namespace Comparator

/-- The answers to lookups of inputs and patterns, one after the other with one cache.  A lookup
that fails leaves the cache as it was. -/
def lookUpAll : Cache → List (Json × Json) → List (Except EvaluationError Bool)
  | _, [] => []
  | cache, (input, pattern) :: rest =>
    match testPattern input pattern cache with
    | .ok (found, cache) => .ok found :: lookUpAll cache rest
    | .error cause => .error cause :: lookUpAll cache rest

/-- The answer to a lookup with a cache of its own. -/
def lookUp (input pattern : Json) : Except EvaluationError Bool :=
  (testPattern input pattern .empty).map (·.1)

lemma lookUpAll_eq_map (cache : Cache) (lookups : List (Json × Json)) :
    lookUpAll cache lookups = lookups.map fun lookup => lookUp lookup.1 lookup.2 := by
  induction lookups generalizing cache with
  | nil => rfl
  | cons lookup rest ih =>
    obtain ⟨input, pattern⟩ := lookup
    have hfresh : (testPattern input pattern cache).map (·.1) = lookUp input pattern :=
      ignoresCache_testPattern input pattern cache .empty
    rw [lookUpAll, List.map_cons, ← hfresh]
    -- whichever cache goes on from here, the induction hypothesis holds of it
    rcases testPattern input pattern cache with cause | ⟨found, after⟩
    · exact congrArg _ (ih cache)
    · exact congrArg _ (ih after)

end Comparator

/-! ## Filters -/

/-- What becomes of a candidate that is tested by itself: it is kept or left out, or the test
fails. -/
def Expression.keep? (filter : Expression) (root candidate : Json) : Option Item :=
  match filter.matches root candidate with
  | .ok true => some (.ok candidate)
  | .ok false => none
  | .error cause => some (.error cause)

lemma testCandidates_eq_filterMap (filter : Expression) (root : Json) (cache : Cache)
    (candidates : List Json) :
    (testCandidates (filter.test root) cache candidates).1
      = candidates.filterMap (filter.keep? root) := by
  induction candidates generalizing cache with
  | nil => rfl
  | cons candidate rest ih =>
    have hsame := filter.map_fst_test root candidate cache
    rw [testCandidates, List.filterMap_cons, Expression.keep?, ← hsame]
    rcases filter.test root candidate cache with cause | ⟨passes, after⟩
    · exact congrArg _ (ih cache)
    · cases passes with
      | true => exact congrArg _ (ih after)
      | false => exact ih after

/-- Wherever the cache of a filter comes from, the filter tests every candidate by itself. -/
lemma filterItems_eq_flatMap (filter : Expression) (root : Json) (candidates : Json → List Json)
    (cache : Cache) (items : List Item) :
    filterItems candidates (filter.test root) cache items
      = items.flatMap (expand fun node => (candidates node).filterMap (filter.keep? root)) := by
  induction items generalizing cache with
  | nil => rfl
  | cons item rest ih =>
    cases item with
    | ok node =>
      rw [filterItems, testCandidates_eq_filterMap, ih, List.flatMap_cons]
      rfl
    | error cause => exact congrArg _ (ih cache)

/-- A filter on a run gives the items of the filter on a sequence, up to the first failure. -/
lemma Run.items_filterFrom (filter : Expression) (root : Json) (candidates : Json → List Json)
    (r : Run) :
    (r.filterFrom candidates (filter.test root)).items
      = untilFailure (r.items.flatMap
          (expand fun node => (candidates node).filterMap (filter.keep? root))) := by
  have htest (node : Json) := filter.map_fst_test root node
  rw [← filterItems_eq_flatMap filter root candidates .empty, ← items_ofItems,
    ofItems_filterItems htest, ofItems_items, filterFrom_eq_bind htest]

/-! ## Tests that do not fail -/

/-- How often a scan comes by the node at a location: twice by the value of a member. -/
def Json.visits (value : Json) (location : List Nat) : Nat :=
  if (value.key? location).isSome then 2 else 1

lemma Json.map_node_reports (value : Json) (location : List Nat) :
    (value.reports location).map (·.node)
      = (value.descendant? location).toList.flatMap (List.replicate (value.visits location)) := by
  rw [reports, visits]
  cases value.descendant? location with
  | none => rfl
  | some node => cases value.key? location <;> rfl

/-- A test of the candidate by itself succeeds. -/
def Expression.Accepts (filter : Expression) (root candidate : Json) : Prop :=
  (filter.matches root candidate).toOption = some true

instance (filter : Expression) (root : Json) : DecidablePred (filter.Accepts root) :=
  fun candidate =>
    inferInstanceAs (Decidable ((filter.matches root candidate).toOption = some true))

/-- What a query behind two dots gives from a node if no test fails: the matches among all nodes
from there on, each as often as a scan comes by it. -/
def Expression.scanMatches (filter : Expression) (root node : Json) : List Json :=
  node.locations.flatMap fun location =>
    (node.descendant? location).toList.flatMap fun below =>
      if filter.Accepts root below then List.replicate (node.visits location) below else []

lemma Expression.filter_scan (filter : Expression) (root node : Json) :
    (node.scan.map (·.node)).filter (filter.Accepts root) = filter.scanMatches root node := by
  rw [node.scan_eq_flatMap_reports, List.map_flatMap, List.filter_flatMap, scanMatches]
  refine List.flatMap_congr fun location _ => ?_
  rw [node.map_node_reports, List.filter_flatMap]
  refine List.flatMap_congr fun below _ => ?_
  rw [List.filter_replicate]
  simp

namespace Run

lemma chain_keep_of_ok {holds : Json → Except EvaluationError Bool} {candidates : List Json}
    (h : ∀ candidate ∈ candidates, ∃ result, holds candidate = .ok result) :
    chain (fun node => keep node (holds node)) none candidates
      = ofList (candidates.filter fun node => (holds node).toOption = some true) := by
  induction candidates with
  | nil => rfl
  | cons candidate rest ih =>
    obtain ⟨⟨result, hresult⟩, hrest⟩ := List.forall_mem_cons.1 h
    rw [chain, ih hrest, hresult]
    cases result with
    | true => rw [List.filter_cons_of_pos (by simp [hresult, Except.toOption])]; rfl
    | false => rw [List.filter_cons_of_neg (by simp [hresult, Except.toOption])]; rfl

/-- Continuations that do not fail leave the failure of the run as it is. -/
lemma bind_of_ofList {r : Run} {next : Json → Run} {nodes : Json → List Json}
    (h : ∀ node ∈ r.nodes, next node = ofList (nodes node)) :
    r.bind next = ⟨r.nodes.flatMap nodes, r.failure⟩ := by
  obtain ⟨visited, failure⟩ := r
  rw [bind_def]
  induction visited with
  | nil => rfl
  | cons node rest ih =>
    obtain ⟨hnode, hrest⟩ := List.forall_mem_cons.1 h
    rw [chain, hnode, ih hrest]
    rfl

end Run

lemma Step.apply_queryScan_of_ok {root : Json} {filter : Expression} {r : Run}
    (h : ∀ node ∈ r.nodes, ∀ entry ∈ node.scan,
      ∃ result, filter.matches root entry.node = .ok result) (strict : Bool) :
    (Step.queryScan filter).apply root strict r
      = ⟨r.nodes.flatMap (filter.scanMatches root), r.failure⟩ := by
  have hlocal : (Step.queryScan filter).IsLocal := trivial
  rw [apply_eq_bind hlocal]
  refine Run.bind_of_ofList fun node hnode => ?_
  rw [← filter.filter_scan, select]
  exact Run.chain_keep_of_ok (List.forall_mem_map.2 (h node hnode))

/-- **Queries are plain filters.**  Lookups that share a cache are answered as lookups of their own,
and tests likewise.  So a query gives, for every node of a run, the children for which a test by
itself succeeds, a query behind two dots the entries of the scan, both in order and up to the first
test that fails.  If no test fails, the latter gives every match that is the value of a member twice
in a row, and every other match once. -/
theorem Step.apply_query_plain (root : Json) (strict : Bool) (filter : Expression) :
    (∀ cache lookups, Comparator.lookUpAll cache lookups
        = lookups.map fun lookup => Comparator.lookUp lookup.1 lookup.2) ∧
      (∀ cache node, (filter.test root node cache).map (·.1) = filter.matches root node) ∧
      (∀ run : Run, ((Step.query filter).apply root strict run).items
        = untilFailure (run.items.flatMap
            (expand fun node => node.children.filterMap (filter.keep? root)))) ∧
      (∀ run : Run, ((Step.queryScan filter).apply root strict run).items
        = untilFailure (run.items.flatMap
            (expand fun node => (node.scan.map (·.node)).filterMap (filter.keep? root)))) ∧
      ∀ run : Run,
        (∀ node ∈ run.nodes, ∀ entry ∈ node.scan,
          ∃ result, filter.matches root entry.node = .ok result) →
        (Step.queryScan filter).apply root strict run
          = ⟨run.nodes.flatMap (filter.scanMatches root), run.failure⟩ :=
  ⟨Comparator.lookUpAll_eq_map, fun cache node => filter.map_fst_test root node cache,
    Run.items_filterFrom filter root Json.children, Run.items_filterFrom filter root _,
    fun _ h => apply_queryScan_of_ok h strict⟩

/-- The strings that match a pattern, among them the value of a member and an element. -/
theorem Step.apply_query_plain_pattern :
    let filter : Expression :=
      .comparison .matchesPattern (.path []) (some (.literal (.string "/b/")))
    let root : Json := .object [("k", .string "b"), ("l", .array [.string "ab", .null])]
    (∀ node ∈ (Run.single root).nodes, ∀ entry ∈ node.scan,
        ∃ result, filter.matches root entry.node = .ok result) ∧
      (Step.queryScan filter).apply root false (.single root)
        = ⟨[.string "b", .string "b", .string "ab"], none⟩ := by
  intro filter root
  have hok : ∀ node ∈ (Run.single root).nodes, ∀ entry ∈ node.scan,
      ∃ result, filter.matches root entry.node = .ok result := by
    have htests : ∀ entry ∈ root.scan, (filter.matches root entry.node).isOk := by decide +kernel
    intro node hnode entry hentry
    obtain rfl := List.mem_singleton.1 hnode
    exact exists_eq_ok_of_isOk (htests entry hentry)
  have hmember : filter.Accepts root (.string "b") := by decide +kernel
  have helement : filter.Accepts root (.string "ab") := by decide +kernel
  have hroot : ¬filter.Accepts root root := by decide +kernel
  have harray : ¬filter.Accepts root (.array [.string "ab", .null]) := by decide +kernel
  have hnull : ¬filter.Accepts root .null := by decide +kernel
  have hmatches : filter.scanMatches root root
      = [.string "b", .string "b", .string "ab"] := by
    have hlocations : root.locations = [[], [0], [1], [1, 0], [1, 1]] := rfl
    have hnodes : root.locations.map root.descendant? = [some root, some (.string "b"),
        some (.array [.string "ab", .null]), some (.string "ab"), some .null] := rfl
    rw [hlocations] at hnodes
    simp only [List.map_cons, List.map_nil, List.cons.injEq, and_true] at hnodes
    obtain ⟨h0, h1, h2, h3, h4⟩ := hnodes
    rw [Expression.scanMatches, hlocations]
    simp only [List.flatMap_cons, h0, h1, h2, h3, h4, Option.toList_some, if_pos hmember,
      if_pos helement, if_neg hroot, if_neg harray, if_neg hnull]
    rfl
  refine ⟨hok, ?_⟩
  rw [(Step.apply_query_plain root false filter).2.2.2.2 (.single root) hok]
  show (⟨[root].flatMap (filter.scanMatches root), none⟩ : Run) = _
  rw [List.flatMap_singleton, hmatches]

end PathQuery
