/-
# Lists of names and indexes

A step with a list of names, or of indexes, selects from a node what the steps with one of them
each select, one after the other.  Whatever local steps follow can be taken from each of these
selections by itself, because continuing a run distributes over joining runs: a failure ends the
result at the same place, whether it is one of the list itself or one of a step behind it.

Only where the node is no object there is a difference.  A list of names then fails as a whole, with
a message that has all of them, while the first name by itself fails with its own.
-/
import PathQuery.Proofs.Evaluation.Composition

namespace PathQuery

open Item (untilFailure)

/-! ## Joining many runs -/

namespace Run

/-- The runs, one after the other. -/
def join : List Run → Run
  | [] => none
  | r :: rest => r ++ join rest

lemma join_bind (runs : List Run) (next : Json → Run) :
    (join runs).bind next = join (runs.map (·.bind next)) := by
  induction runs with
  | nil => rfl
  | cons r rest ih => rw [join, bind_append, ih, List.map_cons, join]

lemma ofItems_flatMap_items (runs : List Run) : ofItems (runs.flatMap items) = join runs := by
  induction runs with
  | nil => rfl
  | cons r rest ih => rw [List.flatMap_cons, ofItems_append, ofItems_items, ih, join]

end Run

/-! ## What a list selects -/

namespace Json

lemma selectFields_object (strict : Bool) (names : List String) (members : List (String × Json)) :
    (object members).selectFields strict names
      = .join (names.map fun name => (object members).selectField strict (some name)) := by
  induction names with
  | nil => rfl
  | cons name rest ih => exact congrArg (_ ++ ·) ih

lemma selectIndexes_eq_join (strict : Bool) (is : List Int) (node : Json) :
    node.selectIndexes strict is = .join (is.map fun i => node.selectIndex strict (some i)) := by
  induction is with
  | nil => rfl
  | cons i rest ih => rw [selectIndexes, ih, List.map_cons, Run.join]

lemma selectField_of_kind_ne {node : Json} (h : node.kind ≠ .object) (strict : Bool)
    (name : Option String) :
    node.selectField strict name = .unresolved strict (.noProperty name node.kind) := by
  cases node with
  | object members => exact absurd rfl h
  | _ => rfl

lemma selectFields_of_kind_ne {node : Json} (h : node.kind ≠ .object) (strict : Bool)
    (names : List String) :
    node.selectFields strict names = .unresolved strict (.noProperties names node.kind) := by
  cases node with
  | object members => exact absurd rfl h
  | _ => rfl

end Json

/-! ## What follows a list -/

namespace Path

variable {q : Path} {strict : Bool} {root node : Json}

/-- The items of a path with each of some steps in front of it, one after the other, up to the first
failure. -/
def itemsOneByOne (steps : List Step) (q : Path) (strict : Bool) (root node : Json) : List Item :=
  untilFailure (steps.flatMap fun step => (evaluateFrom (step :: q) strict root node).items)

lemma evaluateFrom_cons {step : Step} (hstep : step.IsLocal) (hlocal : ∀ step ∈ q, step.IsLocal) :
    evaluateFrom (step :: q) strict root node
      = (step.select root strict node).bind (q.evaluateFrom strict root) := by
  rw [← List.singleton_append, evaluateFrom_append_of_isLocal hlocal]
  congr 1
  exact Step.apply_single hstep root strict node

/-- If a step selects what several others select one after the other, it may be taken apart into
them, whatever follows. -/
lemma items_evaluateFrom_eq_itemsOneByOne {step : Step} {steps : List Step}
    (hstep : step.IsLocal) (hsteps : ∀ step ∈ steps, step.IsLocal)
    (hlocal : ∀ step ∈ q, step.IsLocal)
    (hselect : step.select root strict node
      = .join (steps.map fun s => s.select root strict node)) :
    (evaluateFrom (step :: q) strict root node).items = itemsOneByOne steps q strict root node := by
  have hruns : steps.map (fun step => evaluateFrom (step :: q) strict root node)
      = (steps.map fun step => step.select root strict node).map
          (·.bind (q.evaluateFrom strict root)) := by
    rw [List.map_map]
    exact List.map_congr_left fun step hmem => evaluateFrom_cons (hsteps step hmem) hlocal
  rw [evaluateFrom_cons hstep hlocal, hselect, Run.join_bind, ← hruns, ← Run.ofItems_flatMap_items,
    Run.items_ofItems, List.flatMap_map, itemsOneByOne]

lemma items_fields_of_object (hlocal : ∀ step ∈ q, step.IsLocal) (hnode : node.kind = .object)
    (names : List String) :
    (evaluateFrom (.fields names :: q) strict root node).items
      = itemsOneByOne (names.map fun name => .field (some name)) q strict root node := by
  refine items_evaluateFrom_eq_itemsOneByOne trivial ?_ hlocal ?_
  · exact List.forall_mem_map.2 fun _ _ => trivial
  · rw [List.map_map]
    cases node with
    | object members => exact Json.selectFields_object strict names members
    | bool value => cases value <;> exact nomatch hnode
    | _ => exact nomatch hnode

lemma items_indexes (hlocal : ∀ step ∈ q, step.IsLocal) (is : List Int) :
    (evaluateFrom (.indexes is :: q) strict root node).items
      = itemsOneByOne (is.map fun i => .index (some i)) q strict root node := by
  refine items_evaluateFrom_eq_itemsOneByOne trivial ?_ hlocal ?_
  · exact List.forall_mem_map.2 fun _ _ => trivial
  · rw [List.map_map]
    exact Json.selectIndexes_eq_join strict is node

/-! ## Names of what is no object -/

lemma items_unresolved_bind (cause : EvaluationError) (next : Json → Run) :
    ((Run.unresolved strict cause).bind next).items
      = if strict then [.error cause] else [] := by
  cases strict <;> rfl

lemma items_fields_of_kind_ne (hlocal : ∀ step ∈ q, step.IsLocal) (hnode : node.kind ≠ .object)
    (names : List String) :
    (evaluateFrom (.fields names :: q) strict root node).items
      = if strict then [.error (.noProperties names node.kind)] else [] := by
  have hstep : (Step.fields names).IsLocal := trivial
  rw [evaluateFrom_cons hstep hlocal, Step.select, Json.selectFields_of_kind_ne hnode,
    items_unresolved_bind]

lemma itemsOneByOne_fields_of_kind_ne (hlocal : ∀ step ∈ q, step.IsLocal)
    (hnode : node.kind ≠ .object) {names : List String} (hnames : names ≠ []) :
    itemsOneByOne (names.map fun name => .field (some name)) q strict root node
      = if strict then [.error (.noProperty names.head? node.kind)] else [] := by
  have hname (name : String) : (evaluateFrom (.field (some name) :: q) strict root node).items
      = if strict then [.error (.noProperty (some name) node.kind)] else [] := by
    have hstep : (Step.field (some name)).IsLocal := trivial
    rw [evaluateFrom_cons hstep hlocal, Step.select, Json.selectField_of_kind_ne hnode,
      items_unresolved_bind]
  rw [itemsOneByOne, List.flatMap_map]
  simp only [hname]
  cases strict with
  | true =>
    obtain ⟨first, rest, rfl⟩ := List.exists_cons_of_ne_nil hnames
    rfl
  | false =>
    have hnil : (names.flatMap fun _ => ([] : List Item)) = [] :=
      List.flatMap_eq_nil_iff.2 fun _ _ => rfl
    exact congrArg untilFailure hnil

/-! ## Both kinds of lists -/

/-- **Lists of names and indexes distribute over what follows.**  A list of names gives the nodes
that its names give one after the other, up to the first failure, and it ends in a failure exactly
if they do.  On an object it is the same failure; on anything else the message of the list has all
names, where the first name by itself would have failed, and without strict mode there is nothing on
either side.  A list of indexes gives the same items as its indexes one after the other. -/
theorem items_lists_distribute (hlocal : ∀ step ∈ q, step.IsLocal) (strict : Bool)
    (root node : Json) :
    (∀ names : List String, names ≠ [] →
      let whole := (evaluateFrom (.fields names :: q) strict root node).items
      let parts := itemsOneByOne (names.map fun name => .field (some name)) q strict root node
      whole.filterMap Except.toOption = parts.filterMap Except.toOption ∧
        ((∃ cause, whole.getLast? = some (.error cause)) ↔
          ∃ cause, parts.getLast? = some (.error cause)) ∧
        (node.kind = .object → whole = parts) ∧
        (node.kind ≠ .object → strict = true →
          whole = [.error (.noProperties names node.kind)] ∧
            parts = [.error (.noProperty names.head? node.kind)] ∧
            (EvaluationError.noProperties names node.kind).message
              = "Properties " ++ String.intercalate ", " (names.map EvaluationError.quoted) ++
                " not valid on " ++ node.kind.typeName ++ ".") ∧
        (node.kind ≠ .object → strict = false → whole = [] ∧ parts = [])) ∧
      ∀ is : List Int, (evaluateFrom (.indexes is :: q) strict root node).items
        = itemsOneByOne (is.map fun i => .index (some i)) q strict root node := by
  refine ⟨?_, items_indexes hlocal⟩
  intro names hnames whole parts
  by_cases hnode : node.kind = .object
  · have hsame : whole = parts := items_fields_of_object hlocal hnode names
    rw [hsame]
    exact ⟨rfl, Iff.rfl, fun _ => rfl, fun hother => absurd hnode hother,
      fun hother => absurd hnode hother⟩
  · have hwhole : whole = _ := items_fields_of_kind_ne hlocal hnode names
    have hparts : parts = _ := itemsOneByOne_fields_of_kind_ne hlocal hnode hnames
    rw [hwhole, hparts]
    refine ⟨?_, ?_, fun hobject => absurd hobject hnode, fun _ hstrict => ?_, fun _ hlenient => ?_⟩
    · cases strict <;> rfl
    · cases strict <;> simp
    · rw [if_pos hstrict, if_pos hstrict]
      exact ⟨rfl, rfl, rfl⟩
    · rw [hlenient]
      exact ⟨rfl, rfl⟩

/-- The tail fails behind the first of the names before the second one, which is missing, can. -/
theorem items_lists_distribute_tail :
    let node : Json := .object [("a", .object [("c", .null)]), ("b", .array [])]
    let q : Path := [.field (some "c")]
    (∀ step ∈ q, step.IsLocal) ∧
      (evaluateFrom (.fields ["a", "b", "d", "a"] :: q) true node node).items
        = [.ok .null, .error (.noProperty (some "c") .array)] := by
  intro node q
  have hlocal : ∀ step ∈ q, step.IsLocal := fun step hstep => by
    obtain rfl := List.mem_singleton.1 hstep
    exact trivial
  obtain ⟨-, -, hobject, -⟩ :=
    (items_lists_distribute hlocal true node node).1 ["a", "b", "d", "a"] (by simp)
  exact ⟨hlocal, hobject rfl⟩

end Path

end PathQuery
