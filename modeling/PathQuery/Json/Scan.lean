/-
# Scanning a document

A scan visits a value and everything below it, each node before its children.  Every node gives an
entry without a key; the value of a member gives one more, with its key, just before.  `Json.scan`
is the scan as a recursion on the document.  A `Traversal` gives the same entries one at a time,
from a stack of what is still to be visited.
-/
import PathQuery.Json.Basic

namespace PathQuery

/-- What a scan reports: a node, with its key if it is reported as the value of a member. -/
structure Entry where
  key : Option String
  node : Json

namespace Json

mutual

/-- The entries of a scan of a value. -/
def scan : Json → List Entry
  | array elements => ⟨none, array elements⟩ :: scanElements elements
  | object members => ⟨none, object members⟩ :: scanMembers members
  | value => [⟨none, value⟩]

/-- The entries of the scans of elements, in order. -/
def scanElements : List Json → List Entry
  | [] => []
  | x :: xs => scan x ++ scanElements xs

/-- The entries of members, in order: each value with its key, then the scan of the value. -/
def scanMembers : List (String × Json) → List Entry
  | [] => []
  | (key, value) :: rest => ⟨some key, value⟩ :: scan value ++ scanMembers rest

end

end Json

/-! ## Traversals -/

/-- A part of a document that is still to be visited. -/
inductive Traversal.Frame where
  | node (value : Json)
  | elements (rest : List Json)
  | members (rest : List (String × Json))

/-- The parts of a document that are still to be visited, the next one first. -/
abbrev Traversal := List Traversal.Frame

namespace Traversal

/-- The traversal of a value that is about to start. -/
def start (value : Json) : Traversal := [.node value]

/-- What is to be visited below a node. -/
def below : Json → Traversal
  | .array elements => [.elements elements]
  | .object members => [.members members]
  | _ => []

/-- One turn at the part on top of the others: the entry that it reports, if it reports one, and
what is to be visited after it.  A node is replaced by what is below it, the next element or member
is put on top of those that follow it, and a part that is used up is dropped. -/
def turn (rest : Traversal) : Frame → Option Entry × Traversal
  | .node value => (some ⟨none, value⟩, below value ++ rest)
  | .elements [] => (none, rest)
  | .elements (x :: xs) => (none, .node x :: .elements xs :: rest)
  | .members [] => (none, rest)
  | .members ((key, value) :: more) =>
    (some ⟨some key, value⟩, .node value :: .members more :: rest)

/-- How much there is in a part. -/
noncomputable def Frame.work : Frame → Nat
  | .node value => sizeOf value
  | .elements rest => sizeOf rest
  | .members rest => sizeOf rest

/-- How much is still to be visited. -/
noncomputable def work : Traversal → Nat
  | [] => 0
  | frame :: rest => frame.work + work rest

/-- Every turn leaves less work, whether it reports an entry or not. -/
theorem work_turn_lt (rest : Traversal) (frame : Frame) :
    work (turn rest frame).2 < work (frame :: rest) := by
  cases frame with
  | node value => cases value <;> simp +arith [turn, below, work, Frame.work]
  | elements elements => cases elements <;> simp +arith [turn, work, Frame.work]
  | members members =>
    rcases members with _ | ⟨⟨key, value⟩, more⟩ <;> simp +arith [turn, work, Frame.work]

/-- The next entry and what is to be visited after it: turns are taken until one reports an
entry. -/
def next? : Traversal → Option (Entry × Traversal)
  | [] => none
  | frame :: rest =>
    match turned : turn rest frame with
    | (some entry, after) => some (entry, after)
    | (none, after) =>
      have less : work after < work (frame :: rest) := by
        rw [← (Prod.mk.inj turned).2]
        exact work_turn_lt rest frame
      next? after
termination_by traversal => work traversal

/-- The first entries, at most so many. -/
def take : Nat → Traversal → List Entry
  | 0, _ => []
  | count + 1, traversal =>
    match traversal.next? with
    | none => []
    | some (entry, rest) => entry :: rest.take count

end Traversal

end PathQuery
