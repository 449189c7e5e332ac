/-
# What lies below a value

A value contains itself, its children and whatever they contain.  A property that a value passes on
to its children holds of everything that it contains, and so of all that a scan of it reports.  The
absence of floats is such a property.
-/
import PathQuery.Proofs.Json.Order

namespace PathQuery.Json

/-- A value passes the property on to its children. -/
def Hereditary (P : Json → Prop) : Prop :=
  ∀ value, P value → ∀ child ∈ value.children, P child

/-- The node is the value itself or lies below it. -/
def Contains (value node : Json) : Prop := ∃ location, value.descendant? location = some node

lemma descendant?_concat {value node child : Json} {location : List Nat} {i : Nat}
    (hnode : value.descendant? location = some node) (hchild : node.children[i]? = some child) :
    value.descendant? (location ++ [i]) = some child := by
  induction location generalizing value with
  | nil =>
    obtain rfl : value = node := Option.some.inj hnode
    rw [List.nil_append, descendant?, hchild]
    rfl
  | cons j rest ih =>
    obtain ⟨next, hnext, hrest⟩ := Option.bind_eq_some_iff.1 hnode
    rw [List.cons_append, descendant?, hnext]
    exact ih hrest

lemma hereditary_contains (value : Json) : Hereditary value.Contains := by
  rintro node ⟨location, hnode⟩ child hmem
  obtain ⟨i, hchild⟩ := List.getElem?_of_mem hmem
  exact ⟨location ++ [i], descendant?_concat hnode hchild⟩

/-- What a child contains its parent contains. -/
lemma Contains.of_child {value child node : Json} (hchild : child ∈ value.children)
    (hnode : child.Contains node) : value.Contains node := by
  obtain ⟨location, hnode⟩ := hnode
  obtain ⟨i, hi⟩ := List.getElem?_of_mem hchild
  refine ⟨i :: location, ?_⟩
  rw [descendant?, hi]
  exact hnode

variable {P : Json → Prop}

/-- All nodes that a scan visits have the property. -/
lemma Hereditary.forall_mem_scan (hP : Hereditary P) (value : Json) (h : P value) :
    ∀ entry ∈ value.scan, P entry.node := by
  induction value using induction_children with
  | step value ih =>
    have hchild (child : Json) (hmem : child ∈ value.children) :
        P child ∧ ∀ entry ∈ child.scan, P entry.node :=
      ⟨hP value h child hmem, ih child hmem (hP value h child hmem)⟩
    intro entry hentry
    cases value with
    | array elements =>
      rw [scan, scanElements_eq_flatMap, List.mem_cons, List.mem_flatMap] at hentry
      rcases hentry with rfl | ⟨x, hx, hentry⟩
      · exact h
      · exact (hchild x hx).2 entry hentry
    | object members =>
      rw [scan, scanMembers_eq_flatMap, List.mem_cons, List.mem_flatMap] at hentry
      rcases hentry with rfl | ⟨member, hmember, hentry⟩
      · exact h
      · have hvalue := hchild member.2 (List.mem_map_of_mem hmember)
        rcases List.mem_cons.1 hentry with rfl | hentry
        · exact hvalue.1
        · exact hvalue.2 entry hentry
    | _ =>
      obtain rfl := List.mem_singleton.1 hentry
      exact h

lemma Hereditary.forall_mem_map_scan (hP : Hereditary P) (value : Json) (h : P value) :
    ∀ node ∈ value.scan.map (·.node), P node :=
  List.forall_mem_map.2 (hP.forall_mem_scan value h)

/-! ## Integers only -/

/-- No float is the value itself or lies below it. -/
def IntegersOnly (value : Json) : Prop := ∀ x, ¬value.Contains (.number (.float x))

lemma integersOnly_iff {value : Json} :
    value.IntegersOnly ↔
      (∀ x, value ≠ .number (.float x)) ∧ ∀ child ∈ value.children, child.IntegersOnly := by
  constructor
  · intro h
    refine ⟨?_, fun child hchild x hfloat => h x (hfloat.of_child hchild)⟩
    rintro x rfl
    exact h x ⟨[], rfl⟩
  · rintro ⟨hvalue, hchildren⟩ x ⟨location, hfloat⟩
    cases location with
    | nil => exact hvalue x (Option.some.inj hfloat)
    | cons i rest =>
      obtain ⟨child, hchild, hrest⟩ := Option.bind_eq_some_iff.1 hfloat
      exact hchildren child (List.mem_of_getElem? hchild) x ⟨rest, hrest⟩

lemma hereditary_integersOnly : Hereditary IntegersOnly :=
  fun _ h => (integersOnly_iff.1 h).2

end PathQuery.Json
