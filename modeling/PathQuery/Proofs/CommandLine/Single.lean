/-
# Asking for a single match

All nodes of a run, the first one and the only one are three selections that pull a different
number of items.  They agree wherever they can: there is an only node, or none, exactly if there are
no more nodes and no failure, and neither the first nor the only node depends on what is not pulled.

On the command line the flag for a single match puts one selection in the place of another.  With it
there is an answer exactly if there is one without it that has a line at most, and it is the same.
-/
import PathQuery.CommandLine.Answer
import PathQuery.Proofs.Evaluation.Selection

namespace PathQuery

lemma mapError_eq_ok {ε ε' α : Type} {x : Except ε α} {f : ε → ε'} {a : α} :
    x.mapError f = .ok a ↔ x = .ok a := by
  cases x <;> simp [Except.mapError]

/-! ## Selecting by a text -/

namespace Json

lemma selectAll_eq_ok_iff {document : Json} {text : String} {strict : Bool} {nodes : List Json} :
    document.selectAll text strict = .ok nodes ↔
      ∃ path, Path.read text = .ok path ∧ (path.evaluate strict document).all = .ok nodes := by
  rw [selectAll, bind_eq_ok]
  simp only [mapError_eq_ok]

lemma selectOnly_eq_ok_iff {document : Json} {text : String} {strict : Bool}
    {match? : Option Json} :
    document.selectOnly text strict = .ok match? ↔
      ∃ path, Path.read text = .ok path ∧ (path.evaluate strict document).only = .ok match? := by
  rw [selectOnly, bind_eq_ok]
  simp only [mapError_eq_ok]

/-- The only node is the node of a list with one at most. -/
lemma selectOnly_eq_ok_iff_selectAll {document : Json} {text : String} {strict : Bool}
    {match? : Option Json} :
    document.selectOnly text strict = .ok match? ↔
      document.selectAll text strict = .ok match?.toList := by
  rw [selectOnly_eq_ok_iff, selectAll_eq_ok_iff]
  refine exists_congr fun path => and_congr_right fun _ => ?_
  rw [Run.only_eq_ok_iff]
  constructor
  · rintro ⟨nodes, hall, hlength, rfl⟩
    rw [hall]
    rcases nodes with _ | ⟨node, _ | ⟨other, rest⟩⟩
    · rfl
    · rfl
    · simp at hlength
  · intro hall
    refine ⟨match?.toList, hall, ?_, ?_⟩ <;> cases match? <;> simp

end Json

/-! ## Lines -/

namespace CommandLine.Arguments

/-- The nodes of a document that the arguments ask for. -/
def nodes (arguments : Arguments) (document : Json) : Except SelectionError (List Json) :=
  if arguments.single then
    (document.selectOnly arguments.path arguments.strict).map Option.toList
  else document.selectAll arguments.path arguments.strict

/-- There is one line for each node. -/
lemma lines_eq (arguments : Arguments) (document : Json) :
    arguments.lines document = (arguments.nodes document).map (List.map arguments.line) := by
  unfold lines nodes
  split
  · cases (document.selectOnly arguments.path arguments.strict).map Option.toList <;> rfl
  · cases document.selectAll arguments.path arguments.strict <;> rfl

lemma lines_eq_ok_iff {arguments : Arguments} {document : Json} {lines : List String} :
    arguments.lines document = .ok lines ↔
      ∃ nodes, arguments.nodes document = .ok nodes ∧ nodes.map arguments.line = lines := by
  rw [lines_eq, map_eq_ok]

lemma nodes_single_eq_ok_iff {arguments : Arguments} {document : Json} {nodes : List Json} :
    ({ arguments with single := true } : Arguments).nodes document = .ok nodes ↔
      ({ arguments with single := false } : Arguments).nodes document = .ok nodes ∧
        nodes.length ≤ 1 := by
  show (document.selectOnly arguments.path arguments.strict).map Option.toList = .ok nodes ↔
    document.selectAll arguments.path arguments.strict = .ok nodes ∧ nodes.length ≤ 1
  rw [map_eq_ok]
  constructor
  · rintro ⟨match?, honly, rfl⟩
    refine ⟨Json.selectOnly_eq_ok_iff_selectAll.1 honly, ?_⟩
    cases match? <;> simp
  · rintro ⟨hall, hlength⟩
    refine ⟨nodes.head?, Json.selectOnly_eq_ok_iff_selectAll.2 ?_, ?_⟩ <;>
      rcases nodes with _ | ⟨node, _ | ⟨other, rest⟩⟩ <;> simp_all

lemma lines_single_eq_ok_iff {arguments : Arguments} {document : Json} {lines : List String} :
    ({ arguments with single := true } : Arguments).lines document = .ok lines ↔
      ({ arguments with single := false } : Arguments).lines document = .ok lines ∧
        lines.length ≤ 1 := by
  rw [lines_eq_ok_iff, lines_eq_ok_iff]
  constructor
  · rintro ⟨nodes, hnodes, rfl⟩
    obtain ⟨hall, hlength⟩ := nodes_single_eq_ok_iff.1 hnodes
    exact ⟨⟨nodes, hall, rfl⟩, by rwa [List.length_map]⟩
  · rintro ⟨⟨nodes, hall, rfl⟩, hlength⟩
    rw [List.length_map] at hlength
    exact ⟨nodes, nodes_single_eq_ok_iff.2 ⟨hall, hlength⟩, rfl⟩

end CommandLine.Arguments

/-! ## Agreement -/

open CommandLine (Arguments)

/-- **The selections of a path agree.**  The first node takes one pull, the only one takes two.  The
only node is the one of a list of all nodes with one at most; with two or more there is a failure of
its own, and the first node is the first of the list.  A failure among the first two items is the
failure of the only node, two nodes in front are too many whatever comes behind them, and the first
node fails by a failure in front alone.  On the command line a single match is answered exactly if
the answer without the flag has a line at most. -/
theorem Path.selections_agree (path : Path) (strict : Bool) (document : Json) :
    let run := path.evaluate strict document
    run.first = Item.first ((Cursor.start run).pull 1).1 ∧
    run.only = Item.only ((Cursor.start run).pull 2).1 ∧
    (∀ match?, run.only = .ok match? ↔
      ∃ nodes, run.all = .ok nodes ∧ nodes.length ≤ 1 ∧ match? = nodes.head?) ∧
    (∀ nodes, run.all = .ok nodes → 2 ≤ nodes.length →
      run.only = .error .multipleMatches ∧
        EvaluationError.multipleMatches.message = "Path returned multiple tokens." ∧
        run.first = .ok nodes.head?) ∧
    (∀ cause rest, run.items = .error cause :: rest → run.only = .error cause) ∧
    (∀ node cause rest, run.items = .ok node :: .error cause :: rest →
      run.only = .error cause) ∧
    (∀ a b rest, run.items = .ok a :: .ok b :: rest → run.only = .error .multipleMatches) ∧
    (∀ cause, run.first = .error cause ↔ ∃ rest, run.items = .error cause :: rest) ∧
    (∀ nodes, run.all = .ok nodes ↔ run.items = nodes.map .ok) ∧
    (∀ (arguments : Arguments) (lines : List String),
      ({ arguments with single := true } : Arguments).lines document = .ok lines ↔
        ({ arguments with single := false } : Arguments).lines document = .ok lines ∧
          lines.length ≤ 1) := by
  intro run
  refine ⟨run.first_eq_pull, run.only_eq_pull, ?_, ?_, ?_, ?_, ?_, ?_, ?_, ?_⟩
  · intro match?
    exact Run.only_eq_ok_iff
  · intro nodes hall hlength
    exact ⟨Run.only_of_two_le hall hlength, rfl, Run.first_of_all hall⟩
  · intro cause rest hitems
    rw [Run.only_eq_items, hitems]
    rfl
  · intro node cause rest hitems
    rw [Run.only_eq_items, hitems]
    rfl
  · intro a b rest hitems
    rw [Run.only_eq_items, hitems]
    rfl
  · intro cause
    exact Run.first_eq_error_iff
  · intro nodes
    exact Run.all_eq_ok_iff
  · intro arguments lines
    exact Arguments.lines_single_eq_ok_iff

/-- Two members, one member before a missing one, and two before a missing one. -/
theorem Path.selections_agree_samples :
    let document : Json := .object [("a", .null), ("b", .bool true)]
    let run (names : List String) := Path.evaluate [.fields names] true document
    ((run ["a", "b"]).all = .ok [.null, .bool true] ∧
        (run ["a", "b"]).only = .error .multipleMatches ∧
        (run ["a", "b"]).first = .ok (some .null)) ∧
      ((run ["a", "c"]).items = [.ok .null, .error (.missingProperty "c")] ∧
        (run ["a", "c"]).only = .error (.missingProperty "c")) ∧
      ((run ["a", "b", "c"]).items
          = [.ok .null, .ok (.bool true), .error (.missingProperty "c")] ∧
        (run ["a", "b", "c"]).only = .error .multipleMatches) ∧
      (run ["c", "a"]).items = [.error (.missingProperty "c")] ∧
        (run ["c", "a"]).only = .error (.missingProperty "c") := by
  intro document run
  have htwo : (run ["a", "b"]).all = .ok [.null, .bool true] := rfl
  have hlate : (run ["a", "c"]).items = [.ok .null, .error (.missingProperty "c")] := rfl
  have hbehind : (run ["a", "b", "c"]).items
      = [.ok .null, .ok (.bool true), .error (.missingProperty "c")] := rfl
  have hfront : (run ["c", "a"]).items = [.error (.missingProperty "c")] := rfl
  obtain ⟨-, -, -, hmany, -⟩ := Path.selections_agree [.fields ["a", "b"]] true document
  obtain ⟨-, -, -, -, -, hsecond, -⟩ := Path.selections_agree [.fields ["a", "c"]] true document
  obtain ⟨-, -, -, -, -, -, htoo, -⟩ :=
    Path.selections_agree [.fields ["a", "b", "c"]] true document
  obtain ⟨-, -, -, -, hfirst, -⟩ := Path.selections_agree [.fields ["c", "a"]] true document
  obtain ⟨honly, -, hhead⟩ := hmany [.null, .bool true] htwo (Nat.le_refl 2)
  exact ⟨⟨htwo, honly, hhead⟩, ⟨hlate, hsecond _ _ [] hlate⟩, ⟨hbehind, htoo _ _ _ hbehind⟩,
    hfront, hfirst _ [] hfront⟩

end PathQuery
