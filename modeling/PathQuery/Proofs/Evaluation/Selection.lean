/-
# What selections see of a run

All nodes, the first one and the only one can be taken from a run by pulling items off its front.
The first node needs one pull, the only one needs two, and all nodes need every item.  The
selections `Item.first`, `Item.only` and `Item.all` work on the items that have been pulled; on the
items of a run they give what the selections of the run give, and what is not pulled does not matter
to them.

Where the three answers have to agree follows from this for every run.
-/
import PathQuery.Evaluation.Selection
import PathQuery.Proofs.Evaluation.Pipeline

namespace PathQuery

namespace Item

/-! ## Selecting from pulled items -/

/-- The first node; one item decides. -/
def first : List Item → Except EvaluationError (Option Json)
  | [] => .ok none
  | item :: _ => item.map some

/-- The only node; two items decide. -/
def only : List Item → Except EvaluationError (Option Json)
  | [] => .ok none
  | .error cause :: _ => .error cause
  | [.ok node] => .ok (some node)
  | .ok _ :: .error cause :: _ => .error cause
  | .ok _ :: .ok _ :: _ => .error .multipleMatches

/-- All nodes, up to the first failure. -/
def all : List Item → Except EvaluationError (List Json)
  | [] => .ok []
  | item :: rest => do
    let node ← item
    let nodes ← all rest
    .ok (node :: nodes)

lemma first_take (items : List Item) : first (items.take 1) = first items := by
  cases items <;> rfl

lemma only_take (items : List Item) : only (items.take 2) = only items := by
  rcases items with _ | ⟨_ | node, _ | ⟨_ | other, rest⟩⟩ <;> rfl

end Item

namespace Run

lemma first_eq_items (r : Run) : r.first = Item.first r.items := by
  obtain ⟨_ | ⟨node, rest⟩, failure⟩ := r
  · cases failure <;> rfl
  · rfl

lemma only_eq_items (r : Run) : r.only = Item.only r.items := by
  obtain ⟨_ | ⟨node, _ | ⟨other, rest⟩⟩, failure⟩ := r
  · cases failure <;> rfl
  · cases failure <;> rfl
  · rfl

lemma all_eq_items (r : Run) : r.all = Item.all r.items := by
  obtain ⟨nodes, failure⟩ := r
  induction nodes with
  | nil => cases failure <;> rfl
  | cons node rest ih =>
    have hitems : items ⟨node :: rest, failure⟩ = .ok node :: items ⟨rest, failure⟩ := rfl
    rw [hitems, Item.all, ← ih]
    cases failure <;> rfl

/-- One pull is enough for the first node. -/
lemma first_eq_pull (r : Run) : r.first = Item.first ((Cursor.start r).pull 1).1 := by
  rw [first_eq_items, Cursor.pull, Cursor.start, Item.first_take]

/-- Two pulls are enough for the only node. -/
lemma only_eq_pull (r : Run) : r.only = Item.only ((Cursor.start r).pull 2).1 := by
  rw [only_eq_items, Cursor.pull, Cursor.start, Item.only_take]

/-! ## Where the selections agree -/

lemma all_eq_ok_iff {r : Run} {nodes : List Json} :
    r.all = .ok nodes ↔ r.items = nodes.map .ok := by
  constructor
  · intro h
    rcases hr : r.failure with _ | cause
    · rw [all, hr] at h
      obtain rfl := Except.ok.inj h
      rw [items, hr]
      exact List.append_nil _
    · rw [all, hr] at h
      cases h
  · intro h
    rw [all_eq_items, h]
    clear h
    induction nodes with
    | nil => rfl
    | cons node rest ih =>
      rw [List.map_cons, Item.all, ih]
      rfl

lemma only_eq_ok_iff {r : Run} {match? : Option Json} :
    r.only = .ok match? ↔ ∃ nodes, r.all = .ok nodes ∧ nodes.length ≤ 1 ∧ match? = nodes.head? := by
  constructor
  · intro h
    obtain ⟨_ | ⟨node, _ | ⟨other, rest⟩⟩, _ | cause⟩ := r <;> cases h
    · exact ⟨[], rfl, Nat.zero_le 1, rfl⟩
    · exact ⟨[node], rfl, Nat.le_refl 1, rfl⟩
  · rintro ⟨nodes, hall, hlength, rfl⟩
    rw [only_eq_items, all_eq_ok_iff.1 hall]
    rcases nodes with _ | ⟨node, _ | ⟨other, rest⟩⟩
    · rfl
    · rfl
    · simp at hlength

lemma only_of_two_le {r : Run} {nodes : List Json} (hall : r.all = .ok nodes)
    (hlength : 2 ≤ nodes.length) : r.only = .error .multipleMatches := by
  rw [only_eq_items, all_eq_ok_iff.1 hall]
  rcases nodes with _ | ⟨node, _ | ⟨other, rest⟩⟩
  · simp at hlength
  · simp at hlength
  · rfl

lemma first_of_all {r : Run} {nodes : List Json} (hall : r.all = .ok nodes) :
    r.first = .ok nodes.head? := by
  rw [first_eq_items, all_eq_ok_iff.1 hall]
  cases nodes <;> rfl

lemma first_eq_error_iff {r : Run} {cause : EvaluationError} :
    r.first = .error cause ↔ ∃ rest, r.items = .error cause :: rest := by
  rw [first_eq_items]
  constructor
  · intro h
    rcases hitems : r.items with _ | ⟨_ | node, rest⟩ <;> rw [hitems] at h <;> cases h
    exact ⟨rest, rfl⟩
  · rintro ⟨rest, hitems⟩
    rw [hitems]
    rfl

end Run

end PathQuery
