/-
# Selecting

The nodes of a run can be taken all at once, the first one alone, or as the only one.  Each way
looks at the run just as far as it has to, so a failure further on does not matter to it.  A pull
takes some items off the front of a run.
-/
import PathQuery.Evaluation.Basic
import PathQuery.Path.Reader

namespace PathQuery

namespace Run

/-- All nodes, or the failure of the run. -/
def all (run : Run) : Except EvaluationError (List Json) :=
  match run.failure with
  | some cause => .error cause
  | .none => .ok run.nodes

/-- The first node, if there is one. -/
def first (run : Run) : Except EvaluationError (Option Json) :=
  match run.nodes, run.failure with
  | node :: _, _ => .ok (some node)
  | [], some cause => .error cause
  | [], .none => .ok .none

/-- The only node, if there is one; a second one is a failure. -/
def only (run : Run) : Except EvaluationError (Option Json) :=
  match run.nodes, run.failure with
  | _ :: _ :: _, _ => .error .multipleMatches
  | _, some cause => .error cause
  | [node], .none => .ok (some node)
  | [], .none => .ok .none

end Run

/-! ## Taking items one at a time -/

/-- What remains of a run. -/
structure Cursor where
  remaining : List (Except EvaluationError Json)

namespace Cursor

/-- A cursor at the front of a run. -/
def start (run : Run) : Cursor := ⟨run.items⟩

/-- The next items, at most so many, and the cursor after them. -/
def pull (cursor : Cursor) (count : Nat) : List (Except EvaluationError Json) × Cursor :=
  (cursor.remaining.take count, ⟨cursor.remaining.drop count⟩)

/-- Does pulling so many items run into the end?  The end is not seen before it is asked for. -/
def sees (cursor : Cursor) (count : Nat) : Bool := cursor.remaining.length < count

end Cursor

/-! ## Texts -/

/-- Why a selection by the text of a path fails. -/
inductive SelectionError where
  | syntaxError (cause : SyntaxError)
  | evaluation (cause : EvaluationError)
deriving DecidableEq

namespace Json

/-- Every node of a document that the text of a path selects. -/
def selectAll (document : Json) (text : String) (strict : Bool) :
    Except SelectionError (List Json) := do
  let path ← (Path.read text).mapError .syntaxError
  (path.evaluate strict document).all.mapError .evaluation

/-- The only node of a document that the text of a path selects, if there is one. -/
def selectOnly (document : Json) (text : String) (strict : Bool) :
    Except SelectionError (Option Json) := do
  let path ← (Path.read text).mapError .syntaxError
  (path.evaluate strict document).only.mapError .evaluation

end Json

end PathQuery
