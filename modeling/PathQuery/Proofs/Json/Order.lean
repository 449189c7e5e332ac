/-
# The order of a document

The nodes below a value are named by locations: lists of positions among the children, from the
value down.  Locations are ordered lexicographically, so a node comes before all that is below it
and that before the next sibling.

A list of nodes is in document order below a value if increasing locations lead to them.  It is
enough to look at one level (`inDocumentOrder_children`): nodes that come child by child, in order
below each of them, are in order below the value.
-/
import Mathlib.Data.List.Flatten
import PathQuery.Json.Scan

namespace PathQuery.Json

/-- The value at a location: the positions of a child, of a child of that child, and so on. -/
def descendant? (value : Json) : List Nat → Option Json
  | [] => some value
  | i :: rest => value.children[i]?.bind fun child => child.descendant? rest

/-- Strictly increasing locations lead to the nodes, one by one. -/
def InDocumentOrder (value : Json) (nodes : List Json) : Prop :=
  ∃ locations : List (List Nat), locations.Pairwise (· < ·) ∧
    locations.map value.descendant? = nodes.map some

variable {value : Json}

/-- Nodes can be left out. -/
lemma InDocumentOrder.sublist {nodes chosen : List Json} (h : value.InDocumentOrder nodes)
    (hchosen : chosen.Sublist nodes) : value.InDocumentOrder chosen := by
  obtain ⟨locations, hincreasing, hnodes⟩ := h
  have hsublist : (chosen.map some).Sublist (locations.map value.descendant?) := by
    rw [hnodes]
    exact hchosen.map some
  obtain ⟨rest, hrest, hsame⟩ := List.sublist_map_iff.1 hsublist
  exact ⟨rest, hincreasing.sublist hrest, hsame.symm⟩

/-- The children from a position on: all locations of their nodes start there or behind. -/
lemma exists_locations_drop {next : Json → List Json} {rest : List Json} (k : Nat)
    (hrest : value.children.drop k = rest)
    (hnext : ∀ child ∈ rest, child.InDocumentOrder (next child)) :
    ∃ locations : List (List Nat), locations.Pairwise (· < ·) ∧
      (∀ location ∈ locations, ∃ i tail, location = i :: tail ∧ k ≤ i) ∧
      locations.map value.descendant? = (rest.flatMap next).map some := by
  induction rest generalizing k with
  | nil => exact ⟨[], .nil, List.forall_mem_nil _, rfl⟩
  | cons child rest ih =>
    have hchild : value.children[k]? = some child := by
      rw [← List.head?_drop, hrest]
      rfl
    have hdrop : value.children.drop (k + 1) = rest := by
      rw [← List.tail_drop, hrest]
      rfl
    rw [List.forall_mem_cons] at hnext
    obtain ⟨locations, hincreasing, hnodes⟩ := hnext.1
    obtain ⟨others, hothers, hbehind, hmore⟩ := ih (k + 1) hdrop hnext.2
    have hsame : (locations.map (k :: ·)).map value.descendant? = (next child).map some := by
      rw [List.map_map, ← hnodes]
      refine List.map_congr_left fun location _ => ?_
      show value.children[k]?.bind _ = _
      rw [hchild]
      rfl
    refine ⟨locations.map (k :: ·) ++ others, ?_, ?_, ?_⟩
    · refine List.pairwise_append.2 ⟨?_, hothers, ?_⟩
      · refine hincreasing.map _ fun a b hab => ?_
        exact List.cons_lt_cons_self.2 hab
      · rintro _ hfirst location hlocation
        obtain ⟨first, -, rfl⟩ := List.mem_map.1 hfirst
        obtain ⟨i, tail, rfl, hi⟩ := hbehind location hlocation
        exact List.cons_lt_cons_iff.2 (Or.inl hi)
    · intro location hlocation
      rcases List.mem_append.1 hlocation with hlocation | hlocation
      · obtain ⟨tail, -, rfl⟩ := List.mem_map.1 hlocation
        exact ⟨k, tail, rfl, Nat.le_refl k⟩
      · obtain ⟨i, tail, rfl, hi⟩ := hbehind location hlocation
        exact ⟨i, tail, rfl, Nat.le_of_succ_le hi⟩
    · rw [List.map_append, hsame, hmore, List.flatMap_cons, List.map_append]

/-- The value itself and then nodes below each child, child by child. -/
lemma inDocumentOrder_children {next : Json → List Json}
    (hnext : ∀ child ∈ value.children, child.InDocumentOrder (next child)) :
    value.InDocumentOrder (value :: value.children.flatMap next) := by
  obtain ⟨locations, hincreasing, hbehind, hnodes⟩ := exists_locations_drop 0 rfl hnext
  refine ⟨[] :: locations, List.pairwise_cons.2 ⟨?_, hincreasing⟩, ?_⟩
  · intro location hlocation
    obtain ⟨i, tail, rfl, -⟩ := hbehind location hlocation
    exact List.nil_lt_cons i tail
  · rw [List.map_cons, hnodes]
    rfl

/-! ## Scans -/

lemma scanElements_eq_flatMap (elements : List Json) :
    scanElements elements = elements.flatMap scan := by
  induction elements with
  | nil => rfl
  | cons x xs ih => rw [scanElements, ih, List.flatMap_cons]

lemma scanMembers_eq_flatMap (members : List (String × Json)) :
    scanMembers members
      = members.flatMap fun member => ⟨some member.1, member.2⟩ :: member.2.scan := by
  induction members with
  | nil => rfl
  | cons member rest ih =>
    obtain ⟨key, value⟩ := member
    rw [scanMembers, ih, List.flatMap_cons]

/-- All nodes of a value, each before its children. -/
def preorder (value : Json) : List Json := (value.scan.filter (·.key == none)).map (·.node)

lemma preorder_eq (value : Json) : value.preorder = value :: value.children.flatMap preorder := by
  unfold preorder
  cases value with
  | array elements =>
    rw [scan, scanElements_eq_flatMap]
    simp [children, List.filter_flatMap, List.map_flatMap]
  | object members =>
    rw [scan, scanMembers_eq_flatMap]
    simp [children, List.filter_flatMap, List.map_flatMap, List.flatMap_map]
  | _ => rfl

lemma sizeOf_lt_of_mem_children {child : Json} (h : child ∈ value.children) :
    sizeOf child < sizeOf value := by
  cases value with
  | array elements =>
    have hlt : sizeOf child < sizeOf elements := List.sizeOf_lt_of_mem h
    simp only [array.sizeOf_spec]
    omega
  | object members =>
    obtain ⟨⟨key, value⟩, hmember, rfl⟩ := List.mem_map.1 h
    have hlt := List.sizeOf_lt_of_mem hmember
    simp only [object.sizeOf_spec, Prod.mk.sizeOf_spec] at hlt ⊢
    omega
  | _ => exact absurd h (List.not_mem_nil)

/-- What holds of a value when it holds of its children holds of all values. -/
theorem induction_children {motive : Json → Prop}
    (step : ∀ value, (∀ child ∈ value.children, motive child) → motive value) (value : Json) :
    motive value :=
  step value fun child _ => induction_children step child
termination_by sizeOf value
decreasing_by exact sizeOf_lt_of_mem_children ‹_›

lemma inDocumentOrder_preorder (value : Json) : value.InDocumentOrder value.preorder := by
  induction value using induction_children with
  | step value ih =>
    rw [preorder_eq]
    exact inDocumentOrder_children ih

/-- The entries of a scan that have a key stand for nodes below the value, each of them once. -/
lemma sublist_preorder_of_keyed {p : Entry → Bool} (hp : ∀ node, p ⟨none, node⟩ = false)
    (value : Json) :
    ((value.scan.filter p).map (·.node)).Sublist (value.children.flatMap preorder) := by
  induction value using induction_children with
  | step value ih =>
    cases value with
    | array elements =>
      rw [scan, scanElements_eq_flatMap, List.filter_cons_of_neg (by simp [hp]),
        List.filter_flatMap, List.map_flatMap]
      refine List.Sublist.flatMap_right _ fun x hx => ?_
      rw [preorder_eq]
      exact (ih x hx).cons x
    | object members =>
      rw [scan, scanMembers_eq_flatMap, List.filter_cons_of_neg (by simp [hp]),
        List.filter_flatMap, List.map_flatMap, children, List.flatMap_map]
      refine List.Sublist.flatMap_right _ fun member hmember => ?_
      have hbelow := ih member.2 (List.mem_map_of_mem hmember)
      rw [preorder_eq]
      -- the entry with the key comes just before the one without
      rw [List.filter_cons]
      split
      · exact hbelow.cons_cons member.2
      · exact hbelow.cons member.2
    | _ => simp [scan, hp]

end PathQuery.Json
