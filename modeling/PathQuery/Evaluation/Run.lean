/-
# Runs

Evaluating a path gives nodes, one after the other, and may end in a failure.  Such a run has at
most one failure, at its end.  Joining runs and evaluating the nodes of a run one by one stop at the
first failure.
-/
import PathQuery.Evaluation.Error

namespace PathQuery

/-- The nodes that an evaluation gives, in order, and the failure that ends it, if there is one. -/
structure Run where
  nodes : List Json
  failure : Option EvaluationError

namespace Run

/-- The run that gives nothing. -/
def none : Run := ⟨[], .none⟩

/-- The run that gives one node. -/
def single (node : Json) : Run := ⟨[node], .none⟩

/-- The run that gives the listed nodes. -/
def ofList (nodes : List Json) : Run := ⟨nodes, .none⟩

/-- The run that fails at once. -/
def fail (cause : EvaluationError) : Run := ⟨[], some cause⟩

/-- One run after another, unless the first one fails. -/
def append (first second : Run) : Run :=
  match first.failure with
  | some _ => first
  | .none => ⟨first.nodes ++ second.nodes, second.failure⟩

instance : Append Run := ⟨append⟩

/-- The runs for the listed nodes, one after the other, and then `last`. -/
def chain (next : Json → Run) (last : Run) : List Json → Run
  | [] => last
  | node :: rest => next node ++ chain next last rest

/-- The run that replaces every node by a run of its own. -/
def bind (run : Run) (next : Json → Run) : Run :=
  chain next ⟨[], run.failure⟩ run.nodes

/-- The nodes and the failure as one list. -/
def items (run : Run) : List (Except EvaluationError Json) :=
  run.nodes.map .ok ++ run.failure.toList.map .error

end Run

end PathQuery
