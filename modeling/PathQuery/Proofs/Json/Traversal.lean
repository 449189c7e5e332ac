/-
# A traversal is a scan

A traversal keeps what is still to be visited on a stack, `Json.scan` recurses on the document.  The
invariant is what a stack still gives, `Traversal.remaining`: a turn reports the entry at its front
or leaves it as it is.  Since every turn leaves less work, the traversal comes to an end, and it has
given the entries of the scan by then.
-/
import PathQuery.Proofs.Json.Locations

namespace PathQuery

open Json (scan scanElements scanMembers)

namespace Traversal

/-! ## What a stack still gives -/

/-- The entries that a part still gives. -/
def Frame.remaining : Frame → List Entry
  | .node value => value.scan
  | .elements rest => scanElements rest
  | .members rest => scanMembers rest

/-- The entries that a traversal still gives. -/
def remaining (traversal : Traversal) : List Entry := traversal.flatMap Frame.remaining

lemma remaining_cons (frame : Frame) (rest : Traversal) :
    remaining (frame :: rest) = frame.remaining ++ remaining rest := List.flatMap_cons

lemma remaining_start (value : Json) : (start value).remaining = value.scan :=
  List.flatMap_singleton _ _

lemma scan_eq_remaining_below (value : Json) :
    value.scan = ⟨none, value⟩ :: (below value).remaining := by
  cases value <;> simp [scan, below, remaining, Frame.remaining]

/-- A turn gives the entry that it reports, and what is left gives the others. -/
lemma remaining_turn (frame : Frame) (rest : Traversal) :
    remaining (frame :: rest)
      = (turn rest frame).1.toList ++ (turn rest frame).2.remaining := by
  cases frame with
  | node value =>
    have hbelow : (below value ++ rest).remaining = (below value).remaining ++ remaining rest :=
      List.flatMap_append
    rw [remaining_cons, Frame.remaining, scan_eq_remaining_below, turn, hbelow]
    rfl
  | elements elements =>
    cases elements with
    | nil => rfl
    | cons x xs => simp [turn, remaining_cons, Frame.remaining, scanElements]
  | members members =>
    rcases members with _ | ⟨⟨key, value⟩, more⟩
    · rfl
    · simp [turn, remaining_cons, Frame.remaining, scanMembers]

lemma remaining_of_next?_eq_none {traversal : Traversal} (h : traversal.next? = none) :
    traversal.remaining = [] := by
  fun_induction next? traversal with
  | case1 => rfl
  | case2 frame rest entry after hturn => simp at h
  | case3 frame rest after hturn _ ih =>
    rw [remaining_turn, hturn]
    exact ih h

lemma remaining_of_next?_eq_some {traversal rest : Traversal} {entry : Entry}
    (h : traversal.next? = some (entry, rest)) : traversal.remaining = entry :: rest.remaining := by
  fun_induction next? traversal with
  | case1 => simp at h
  | case2 frame rest' entry' after hturn =>
    obtain ⟨rfl, rfl⟩ := Prod.mk.inj (Option.some.inj h)
    rw [remaining_turn, hturn]
    rfl
  | case3 frame rest' after hturn _ ih =>
    rw [remaining_turn, hturn]
    exact ih h

/-! ## Whole traversals -/

/-- The traversal gives the entries one by one and then ends. -/
inductive Yields : Traversal → List Entry → Prop
  | done {traversal : Traversal} (h : traversal.next? = none) : Yields traversal []
  | next {traversal rest : Traversal} {entry : Entry} {entries : List Entry}
      (h : traversal.next? = some (entry, rest)) (hrest : Yields rest entries) :
      Yields traversal (entry :: entries)

/-- Every traversal ends, having given all that remained. -/
lemma yields_remaining (traversal : Traversal) : Yields traversal traversal.remaining := by
  generalize hentries : traversal.remaining = entries
  induction entries generalizing traversal with
  | nil =>
    cases hnext : traversal.next? with
    | none => exact .done hnext
    | some found =>
      rw [remaining_of_next?_eq_some hnext] at hentries
      exact absurd hentries (List.cons_ne_nil _ _)
  | cons entry entries ih =>
    cases hnext : traversal.next? with
    | none =>
      rw [remaining_of_next?_eq_none hnext] at hentries
      exact absurd hentries.symm (List.cons_ne_nil _ _)
    | some found =>
      rw [remaining_of_next?_eq_some hnext] at hentries
      obtain ⟨rfl, hrest⟩ := List.cons.inj hentries
      exact .next hnext (ih found.2 hrest)

/-- Taking some entries takes them off the front of all of them. -/
lemma Yields.take_eq {traversal : Traversal} {entries : List Entry} (h : Yields traversal entries)
    (count : Nat) : traversal.take count = entries.take count := by
  induction h generalizing count with
  | done hnext =>
    cases count with
    | zero => rfl
    | succ count => rw [take, hnext, List.take_nil]
  | next hnext _ ih =>
    cases count with
    | zero => rfl
    | succ count =>
      rw [take, hnext, List.take_succ_cons, ← ih]

end Traversal

open Traversal

/-- **A traversal is a scan.**  Taken entry by entry, a traversal ends and gives the entries of the
recursive scan.  These are, location by location, the node there, just behind an entry with its key
if it is the value of a member; every node has one location in the list, and there are as many
entries as nodes and members. -/
theorem Json.traversal_scan (value : Json) :
    Yields (Traversal.start value) value.scan ∧
      (∀ count, (Traversal.start value).take count = value.scan.take count) ∧
      value.scan = value.locations.flatMap value.reports ∧
      (value.locations.Pairwise (· < ·) ∧
        ∀ location, location ∈ value.locations ↔ ∃ node, value.descendant? location = some node) ∧
      value.scan.length = value.locations.length + value.memberCount := by
  have hyields : Yields (Traversal.start value) value.scan := by
    rw [← remaining_start]
    exact yields_remaining _
  exact ⟨hyields, hyields.take_eq, value.scan_eq_flatMap_reports,
    ⟨value.pairwise_locations, fun _ => mem_locations_iff⟩, value.length_scan⟩

end PathQuery
