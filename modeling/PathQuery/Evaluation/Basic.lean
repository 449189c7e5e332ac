/-
# Evaluating paths

A path takes a run of nodes through its steps.  A step to the root discards what came before, and so
does a slice with a step of zero, which fails; all other steps replace every node by what they
select from it.

A query tests candidates one after the other with one cache of patterns.  The operands of a
comparison are evaluated without strict mode, from the root or the node under test; the comparison
holds if it holds between some node of the left side and some node of the right side.
-/
import PathQuery.Comparison
import PathQuery.Evaluation.Selectors
import PathQuery.Pattern.Cache

namespace PathQuery

open Pattern (Cache)

/-- A result that was found with a cache, and the cache afterwards. -/
abbrev Cached (α : Type) := Cache → Except EvaluationError (α × Cache)

/-! ## Comparing the nodes of two runs -/

namespace Comparator

/-- Does a string match a pattern?  Other values match nothing. -/
def testPattern (input pattern : Json) : Cached Bool := fun cache =>
  match input, pattern with
  | .string input, .string pattern =>
    match cache.compile pattern with
    | .ok (compiled, cache) => .ok (Pattern.found compiled input, cache)
    | .error cause => .error (.invalidPattern cause)
  | _, _ => .ok (false, cache)

/-- Does a comparator hold between two values?  Of two values one of which is a container, it only
holds that they are and that they differ. -/
def testPair (comparator : Comparator) (left right : Json) : Cached Bool := fun cache =>
  if left.isContainer ∨ right.isContainer then
    .ok (comparator == .exists || comparator == .notEqual, cache)
  else if comparator = .matchesPattern then testPattern left right cache
  else .ok (comparator.holds left right, cache)

/-- Does a comparator hold between a value and one of the listed ones? -/
def testRights (comparator : Comparator) (left : Json) : List Json → Cached Bool
  | [], cache => .ok (false, cache)
  | right :: rest, cache => do
    let (holds, cache) ← comparator.testPair left right cache
    if holds then .ok (true, cache) else comparator.testRights left rest cache

/-- Does a comparator hold between one of the listed values and one of some others? -/
def testLefts (comparator : Comparator) (rights : List Json) : List Json → Cached Bool
  | [], cache => .ok (false, cache)
  | left :: rest, cache => do
    let (holds, cache) ← comparator.testRights left rights cache
    if holds then .ok (true, cache) else comparator.testLefts rights rest cache

/-- Does a comparator hold between the nodes of two runs?  The left side has to give a node; then
the right side is run to its end, and failures of the left side count only where no node before them
settles the matter. -/
def testRuns (comparator : Comparator) (left right : Run) : Cached Bool := fun cache =>
  match left.nodes, left.failure with
  | [], some cause => .error cause
  | [], none => .ok (false, cache)
  | _ :: _, leftFailure =>
    if comparator = .exists then .ok (true, cache)
    else
      match right.failure with
      | some cause => .error cause
      | none => do
        let (holds, cache) ← comparator.testLefts right.nodes left.nodes cache
        match holds, leftFailure with
        | false, some cause => .error cause
        | holds, _ => .ok (holds, cache)

end Comparator

/-! ## Filtering -/

namespace Run

/-- The candidates that pass a test, up to the first test that fails.  The tests share a cache. -/
def filter (test : Json → Cached Bool) : Cache → List Json → Run
  | _, [] => none
  | cache, candidate :: rest =>
    match test candidate cache with
    | .error cause => fail cause
    | .ok (true, cache) => single candidate ++ filter test cache rest
    | .ok (false, cache) => filter test cache rest

/-- The candidates from every node of a run that pass a test. -/
def filterFrom (run : Run) (candidates : Json → List Json) (test : Json → Cached Bool) : Run :=
  filter test .empty (run.nodes.flatMap candidates) ++ ⟨[], run.failure⟩

end Run

/-! ## Steps, operands and expressions -/

mutual

/-- A step, taken from every node of a run. -/
def Step.apply (root : Json) (strict : Bool) : Step → Run → Run
  | .root, _ => .single root
  | .field name, run => run.bind (Json.selectField strict name)
  | .fields names, run => run.bind (Json.selectFields strict names)
  | .index i, run => run.bind (Json.selectIndex strict i)
  | .indexes is, run => run.bind fun node => node.selectIndexes strict is
  | .slice start stop stride, run =>
    if stride = some 0 then .fail .zeroStep
    else run.bind (Json.selectSlice strict ⟨start, stop, stride.getD 1⟩)
  | .scan name, run => run.bind (Json.selectScan name)
  | .scanFields names, run => run.bind (Json.selectScanFields names)
  | .query filter, run => run.filterFrom Json.children fun node => filter.test root node
  | .queryScan filter, run =>
    run.filterFrom (fun node => node.scan.map (·.node)) fun node => filter.test root node
termination_by structural step => step

/-- Steps, taken one after the other. -/
def Step.applyAll (root : Json) (strict : Bool) : List Step → Run → Run
  | [], run => run
  | step :: rest, run => Step.applyAll root strict rest (step.apply root strict run)
termination_by structural steps => steps

/-- The nodes of an operand for a node under test. -/
def Operand.resolve (root node : Json) : Operand → Run
  | .literal value => .single value
  | .path steps => Step.applyAll root false steps (.single node)
termination_by structural operand => operand

/-- The nodes of a right side, which may be absent. -/
def Operand.resolveOption (root node : Json) : Option Operand → Run
  | none => .none
  | some operand => operand.resolve root node
termination_by structural operand => operand

/-- Does an expression hold of a node? -/
def Expression.test (root node : Json) : Expression → Cached Bool
  | .comparison comparator left right => fun cache =>
    comparator.testRuns (left.resolve root node) (Operand.resolveOption root node right) cache
  | .composite .and parts => fun cache => Expression.testAll root node parts cache
  | .composite .or parts => fun cache => Expression.testAny root node parts cache
termination_by structural expression => expression

/-- Do all expressions of a list hold of a node?  The first one that does not settles it. -/
def Expression.testAll (root node : Json) : List Expression → Cached Bool
  | [] => fun cache => .ok (true, cache)
  | part :: rest => fun cache => do
    let (holds, cache) ← part.test root node cache
    if holds then Expression.testAll root node rest cache else .ok (false, cache)
termination_by structural parts => parts

/-- Does some expression of a list hold of a node?  The first one that does settles it. -/
def Expression.testAny (root node : Json) : List Expression → Cached Bool
  | [] => fun cache => .ok (false, cache)
  | part :: rest => fun cache => do
    let (holds, cache) ← part.test root node cache
    if holds then .ok (true, cache) else Expression.testAny root node rest cache
termination_by structural parts => parts

end

/-! ## Entry points -/

/-- Does an expression hold of a node?  Paths from the root start at `root`. -/
def Expression.matches (expression : Expression) (root node : Json) :
    Except EvaluationError Bool :=
  (expression.test root node .empty).map (·.1)

namespace Path

/-- The run of a path from a node of a document. -/
def evaluateFrom (path : Path) (strict : Bool) (root start : Json) : Run :=
  Step.applyAll root strict path (.single start)

/-- The run of a path from the root of a document. -/
def evaluate (path : Path) (strict : Bool) (root : Json) : Run :=
  path.evaluateFrom strict root root

end Path

end PathQuery
