/-
# Matches come in document order

A step *descends* if it selects among the children of a node, at most once each and in their order:
steps to a member, to an element, slices that go forwards and queries.  Steps one after the other
then go down level by level, and what is selected below one child comes before what is selected
below the next.  A scan at the end selects among all nodes below, in the order of the document.
-/
import PathQuery.Proofs.Evaluation.Steps
import PathQuery.Proofs.Json.Order

namespace PathQuery

/-! ## Runs -/

namespace Run

lemma sublist_nodes_append (r s : Run) : (r ++ s).nodes.Sublist (r.nodes ++ s.nodes) := by
  rcases h : r.failure with _ | cause
  · rw [append_of_failure_eq_none h]
  · rw [append_of_failure h]
    exact List.sublist_append_left _ _

lemma sublist_nodes_chain (next : Json → Run) (last : Run) (nodes : List Json) :
    (chain next last nodes).nodes.Sublist
      (nodes.flatMap (fun node => (next node).nodes) ++ last.nodes) := by
  induction nodes with
  | nil => exact List.Sublist.refl _
  | cons node rest ih =>
    rw [List.flatMap_cons, List.append_assoc]
    exact (sublist_nodes_append _ _).trans ((List.Sublist.refl _).append ih)

lemma sublist_nodes_bind (r : Run) (next : Json → Run) :
    (r.bind next).nodes.Sublist (r.nodes.flatMap fun node => (next node).nodes) := by
  have hchain := sublist_nodes_chain next ⟨[], r.failure⟩ r.nodes
  rwa [List.append_nil] at hchain

end Run

/-! ## Slices -/

/-- The elements at increasing indexes come in the order of the array. -/
lemma sublist_drop_of_increasing (elements : List Json) {is : List Int}
    (his : is.Pairwise (· < ·)) (k : Nat) (hk : ∀ i ∈ is, 0 ≤ i → (k : Int) ≤ i) :
    (is.filterMap fun i => if 0 ≤ i then elements[i.toNat]? else none).Sublist
      (elements.drop k) := by
  induction is generalizing k with
  | nil => exact List.nil_sublist _
  | cons i rest ih =>
    obtain ⟨hi, hrest⟩ := List.pairwise_cons.1 his
    obtain ⟨hki, hkrest⟩ := List.forall_mem_cons.1 hk
    rw [List.filterMap_cons]
    split
    · exact ih hrest k hkrest
    · next x hx =>
      obtain ⟨hpos, hget⟩ := Option.ite_none_right_eq_some.1 hx
      obtain ⟨hlt, rfl⟩ := List.getElem?_eq_some_iff.1 hget
      have hnext : ∀ j ∈ rest, 0 ≤ j → ((i.toNat + 1 : Nat) : Int) ≤ j := by
        intro j hj _
        have hij := hi j hj
        omega
      have hdrop : (elements.drop i.toNat).Sublist (elements.drop k) := by
        refine List.drop_sublist_drop_left _ ?_
        have hki := hki hpos
        omega
      refine List.Sublist.trans ?_ hdrop
      rw [List.drop_eq_getElem_cons hlt]
      exact (ih hrest _ hnext).cons_cons _

lemma Slice.pairwise_indexes {slice : Slice} (h : 0 < slice.stride) (length : Nat) :
    (slice.indexes length).Pairwise (· < ·) := by
  refine List.pairwise_lt_range.map _ fun a b hab => ?_
  have hab : (a : Int) < b := Int.ofNat_lt.2 hab
  exact Int.add_lt_add_left (Int.mul_lt_mul_of_pos_right hab h) _

/-- A slice that goes forwards takes elements in their order. -/
lemma Slice.sublist_elements {slice : Slice} (h : 0 < slice.stride) (elements : List Json) :
    (slice.elements elements).Sublist elements := by
  have hsublist := sublist_drop_of_increasing elements
    (slice.pairwise_indexes h elements.toArray.size) 0 fun _ _ hpos => hpos
  simpa [Slice.elements] using hsublist

/-! ## Selecting from one node -/

namespace Json

variable (strict : Bool) (node : Json)

lemma sublist_unresolved (cause : EvaluationError) (nodes : List Json) :
    (Run.unresolved strict cause).nodes.Sublist nodes := by
  cases strict with
  | false => exact List.nil_sublist _
  | true => exact List.nil_sublist _

lemma sublist_selectField (name : Option String) :
    (node.selectField strict name).nodes.Sublist node.children := by
  unfold selectField
  split
  · next members =>
    split
    · split
      · next name _ value hvalue =>
        obtain ⟨before, after, hmembers, -⟩ := List.lookup_eq_some_iff.1 hvalue
        refine List.singleton_sublist.2 (List.mem_map.2 ⟨(name, value), ?_, rfl⟩)
        simp [hmembers]
      · exact sublist_unresolved strict _ _
    · exact List.Sublist.refl _
  · exact sublist_unresolved strict _ _

lemma sublist_selectIndex (i : Option Int) :
    (node.selectIndex strict i).nodes.Sublist node.children := by
  unfold selectIndex
  split
  · next elements =>
    split
    · split
      · next value hvalue =>
        obtain ⟨-, hget⟩ := Option.ite_none_right_eq_some.1 hvalue
        exact List.singleton_sublist.2 (List.mem_of_getElem? hget)
      · exact sublist_unresolved strict _ _
    · exact List.Sublist.refl _
  · exact sublist_unresolved strict _ _

lemma sublist_selectSlice {slice : Slice} (h : 0 < slice.stride) :
    (node.selectSlice strict slice).nodes.Sublist node.children := by
  unfold selectSlice
  split
  · next elements =>
    split
    · exact sublist_unresolved strict _ _
    · exact slice.sublist_elements h elements
  · exact sublist_unresolved strict _ _

end Json

/-- A filter leaves nodes out. -/
lemma Run.sublist_keep (holds : Json → Except EvaluationError Bool) (candidates : List Json) :
    (Run.chain (fun node => Run.keep node (holds node)) Run.none candidates).nodes.Sublist
      candidates := by
  induction candidates with
  | nil => exact List.Sublist.refl _
  | cons candidate rest ih =>
    refine (sublist_nodes_append _ _).trans ?_
    have hkeep : (keep candidate (holds candidate)).nodes.Sublist [candidate] := by
      rcases holds candidate with cause | _ | _
      · exact List.nil_sublist _
      · exact List.nil_sublist _
      · exact List.Sublist.refl _
    exact hkeep.append ih

/-! ## Steps -/

namespace Step

/-- The step selects among the children of a node, in their order. -/
def Descends : Step → Prop
  | .field _ | .index _ | .query _ => True
  | .slice _ _ stride => ∀ k ∈ stride, 0 < k
  | _ => False

/-- The step scans for all nodes or for names. -/
def Scans : Step → Prop
  | .scan _ | .scanFields _ => True
  | _ => False

lemma Descends.isLocal {step : Step} (h : step.Descends) : step.IsLocal := by
  cases step with
  | slice start stop stride =>
    rintro rfl
    exact absurd (h 0 rfl) (Int.lt_irrefl 0)
  | root => exact h.elim
  | _ => trivial

lemma Scans.isLocal {step : Step} (h : step.Scans) : step.IsLocal := by
  cases step with
  | slice => exact h.elim
  | root => exact h.elim
  | _ => trivial

lemma Descends.sublist_children {step : Step} (h : step.Descends) (root : Json) (strict : Bool)
    (node : Json) : (step.select root strict node).nodes.Sublist node.children := by
  cases step with
  | field name => exact node.sublist_selectField strict name
  | index i => exact node.sublist_selectIndex strict i
  | slice start stop stride =>
    have hlocal : stride ≠ some 0 := h.isLocal
    have hstride : 0 < stride.getD 1 := by
      cases stride with
      | none => exact Int.one_pos
      | some k => exact h k rfl
    rw [select, if_neg hlocal]
    exact node.sublist_selectSlice strict hstride
  | query filter => exact Run.sublist_keep _ _
  | _ => exact h.elim

lemma Scans.sublist_preorder {step : Step} (h : step.Scans) (root : Json) (strict : Bool)
    (node : Json) : (step.select root strict node).nodes.Sublist node.preorder := by
  have hkeyed {p : Entry → Bool} (hp : ∀ node, p ⟨none, node⟩ = false) :
      ((node.scan.filter p).map (·.node)).Sublist node.preorder := by
    rw [Json.preorder_eq]
    exact (Json.sublist_preorder_of_keyed hp node).cons node
  cases step with
  | scan name =>
    cases name with
    | none => exact List.Sublist.refl _
    | some name => exact hkeyed fun _ => rfl
  | scanFields names => exact hkeyed fun _ => rfl
  | _ => exact h.elim

end Step

/-! ## Paths -/

namespace Path

lemma inDocumentOrder_evaluateFrom {descent : Path} {final : Option Step}
    (hdescent : ∀ step ∈ descent, step.Descends) (hfinal : ∀ step ∈ final, step.Scans)
    (strict : Bool) (root start : Json) :
    start.InDocumentOrder
      (Path.evaluateFrom (descent ++ final.toList) strict root start).nodes := by
  induction descent generalizing start with
  | nil =>
    cases final with
    | none =>
      have hstart := Json.inDocumentOrder_preorder start
      rw [Json.preorder_eq] at hstart
      exact hstart.sublist (List.singleton_sublist.2 List.mem_cons_self)
    | some step =>
      have hstep := hfinal step rfl
      have hnodes := hstep.sublist_preorder root strict start
      rw [← Step.apply_single hstep.isLocal] at hnodes
      exact (Json.inDocumentOrder_preorder start).sublist hnodes
  | cons step rest ih =>
    obtain ⟨hstep, hrest⟩ := List.forall_mem_cons.1 hdescent
    have hlocal : ∀ step ∈ rest ++ final.toList, step.IsLocal := by
      intro step hmem
      rcases List.mem_append.1 hmem with hmem | hmem
      · exact (hrest step hmem).isLocal
      · exact (hfinal step (Option.mem_toList.1 hmem)).isLocal
    -- below every child of the start, the other steps select in document order
    have hchildren : start.InDocumentOrder (start :: start.children.flatMap fun child =>
        (Path.evaluateFrom (rest ++ final.toList) strict root child).nodes) :=
      Json.inDocumentOrder_children fun child _ => ih hrest child
    have hrun : Path.evaluateFrom (step :: rest ++ final.toList) strict root start
        = (step.select root strict start).bind fun child =>
            Path.evaluateFrom (rest ++ final.toList) strict root child := by
      show Step.applyAll root strict (rest ++ final.toList) (step.apply root strict (.single start))
        = _
      rw [Step.applyAll_eq_bind hlocal, Step.apply_single hstep.isLocal]
      rfl
    rw [hrun]
    refine hchildren.sublist ((Run.sublist_nodes_bind _ _).trans ?_)
    exact ((hstep.sublist_children root strict start).flatMap _).cons start

/-- **Matches come in document order.**  A path of steps that descend, with or without a scan at its
end, gives nodes at strictly increasing locations: none of them twice, and none out of order. -/
theorem items_inDocumentOrder {descent : Path} {final : Option Step}
    (hdescent : ∀ step ∈ descent, step.Descends) (hfinal : ∀ step ∈ final, step.Scans)
    (strict : Bool) (root start : Json) :
    ∃ locations : List (List Nat), locations.Pairwise (· < ·) ∧
      locations.map start.descendant?
        = ((Path.evaluateFrom (descent ++ final.toList) strict root start).items.filterMap
            Except.toOption).map some := by
  rw [Run.filterMap_toOption_items]
  exact inDocumentOrder_evaluateFrom hdescent hfinal strict root start

/-- A slice, a query and a scan for two names, in strict mode. -/
theorem items_inDocumentOrder_sample :
    let filter : Expression := .comparison .exists (.path [.field (some "a")]) none
    let descent : Path := [.slice none none (some 2), .query filter]
    let final : Option Step := some (.scanFields ["a", "b"])
    let document : Json :=
      .array [.array [.object [("b", .null), ("a", .object [("b", .bool true)])], .null], .null]
    (∀ step ∈ descent, step.Descends) ∧ (∀ step ∈ final, step.Scans) ∧
      ∃ locations : List (List Nat), locations.Pairwise (· < ·) ∧
        locations.map document.descendant?
          = ((Path.evaluateFrom (descent ++ final.toList) true document document).items.filterMap
              Except.toOption).map some := by
  intro filter descent final document
  have hdescent : ∀ step ∈ descent, step.Descends := by
    simp [descent, Step.Descends]
  have hfinal : ∀ step ∈ final, step.Scans := by
    simp [final, Step.Scans]
  exact ⟨hdescent, hfinal, items_inDocumentOrder hdescent hfinal true document document⟩

end Path

end PathQuery
