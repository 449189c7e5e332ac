/-
# Every node has a canonical text

A location leads down from the root of a document, one key or index at a time.  Its canonical text
has an indexer for every way down: a quoted key or an index in decimal.  Selecting with this text
finds the node at the location, whatever characters the keys have.  Where a location leads nowhere,
nothing is selected, and in strict mode the first way down that cannot be taken is the failure.
-/
import PathQuery.Evaluation.Selection
import PathQuery.Proofs.Evaluation.Steps
import PathQuery.Proofs.Path.RoundTrip

namespace PathQuery

open Json (Access)
open Spelling

namespace Json.Access

/-! ## One way down -/

/-- The step that takes one way down. -/
def step : Access → Step
  | key name => .field (some name)
  | index i => .index (some i)

/-- The indexer for one way down. -/
def indexer : Access → List Char
  | key name => '[' :: quoted name ++ [']']
  | index i => '[' :: decimalText i ++ [']']

/-- Why one way down cannot be taken from a node. -/
def failure : Access → Json → EvaluationError
  | key name, .object _ => .missingProperty name
  | key name, node => .noProperty (some name) node.kind
  | index i, .array _ => .outOfBounds i
  | index i, node => .noIndex (some i) node.kind

lemma failure_ne_multipleMatches (access : Access) (node : Json) :
    access.failure node ≠ .multipleMatches := by
  unfold failure
  split <;> simp

lemma isLocal_step (access : Access) : access.step.IsLocal := by
  cases access <;> trivial

/-- A step gives the node one way down, or fails in strict mode alone. -/
lemma select_step (root : Json) (strict : Bool) (access : Access) (node : Json) :
    access.step.select root strict node = match node.child? access with
      | some child => .single child
      | none => .unresolved strict (access.failure node) := by
  cases access with
  | key name => cases node <;> rfl
  | index i =>
    cases node with
    | array elements =>
      show (match if 0 ≤ (i : Int) then elements[(i : Int).toNat]? else none with
        | some value => Run.single value
        | none => Run.unresolved strict (.outOfBounds i)) = _
      rw [if_pos (Int.natCast_nonneg i), Int.toNat_natCast]
      rfl
    | _ => rfl

lemma spellsPart_step {access : Access} (hword : ∀ i : Nat, access = .index i → i < signedReach) :
    SpellsPart false [access.step] access.indexer := by
  cases access with
  | key name =>
    have hspells := SpellsPart.quoted false 0 0 0 name
    simpa [bracketed, dots, spaces, step, indexer] using hspells
  | index i =>
    have hi : IsSignedWord i := by
      have hlt := hword i rfl
      have hnonneg : -signedReach ≤ 0 := by decide
      exact ⟨by omega, hlt⟩
    have htext : integerText i = decimalText i := if_neg (by omega)
    have hspells := SpellsPart.elements false 0 0 0 (.index (spellsInteger_integerText hi))
    simpa [bracketed, dots, spaces, step, indexer, htext] using hspells

/-- Both kinds of indexers end in a bracket. -/
lemma exists_indexer_eq_append (access : Access) : ∃ text, access.indexer = text ++ [']'] := by
  cases access with
  | key name => exact ⟨'[' :: quoted name, rfl⟩
  | index i => exact ⟨'[' :: decimalText i, rfl⟩

end Json.Access

/-! ## Locations -/

namespace Path

/-- The path to a location. -/
def toLocation (location : List Access) : Path := location.map Access.step

lemma isLocal_of_mem_toLocation {location : List Access} :
    ∀ step ∈ toLocation location, step.IsLocal := by
  intro step hstep
  obtain ⟨access, -, rfl⟩ := List.mem_map.1 hstep
  exact access.isLocal_step

/-- The canonical text of a location. -/
def canonicalText (location : List Access) : String :=
  String.ofList ('$' :: location.flatMap Access.indexer)

lemma spellsSteps_toLocation : ∀ {location : List Access},
    (∀ i : Nat, .index i ∈ location → i < signedReach) →
    SpellsSteps false (toLocation location) (location.flatMap Access.indexer)
  | [], _ => .nil false
  | access :: rest, hword => by
    have hpart : SpellsPart false [access.step] access.indexer :=
      Access.spellsPart_step fun i hi => hword i (by simp [hi])
    exact .cons hpart (spellsSteps_toLocation fun i hi => hword i (List.mem_cons_of_mem access hi))

lemma isBlank_last_indexer (location : List Access) :
    ∀ c ∈ (location.flatMap Access.indexer).getLast?, isBlank c = false := by
  intro c hc
  cases location using List.reverseRecOn with
  | nil => simp at hc
  | append_singleton before access =>
    obtain ⟨text, htext⟩ := access.exists_indexer_eq_append
    rw [List.flatMap_append, List.flatMap_singleton, htext, ← List.append_assoc,
      List.getLast?_concat] at hc
    obtain rfl : ']' = c := Option.some.inj hc
    decide

lemma read_canonicalText {location : List Access}
    (hword : ∀ i : Nat, .index i ∈ location → i < signedReach) :
    read (canonicalText location) = .ok (toLocation location) := by
  refine read_of_spells ?_
  rw [canonicalText, String.toList_ofList]
  exact spellsPath_of_spellsSteps (spellsSteps_toLocation hword) (isBlank_last_indexer location)

example : canonicalText [.key "it's", .index 12] = "$['it\\'s'][12]" := by decide

/-- The path to a location gives the node there, in both modes. -/
lemma evaluateFrom_toLocation {location : List Access} {start node : Json}
    (hnode : start.at? location = some node) (strict : Bool) (root : Json) :
    (toLocation location).evaluateFrom strict root start = .single node := by
  induction location generalizing start with
  | nil =>
    obtain rfl : start = node := Option.some.inj hnode
    rfl
  | cons access rest ih =>
    obtain ⟨child, hchild, hrest⟩ := Option.bind_eq_some_iff.1 hnode
    have hstep : access.step.apply root strict (.single start) = .single child := by
      rw [Step.apply_single access.isLocal_step, access.select_step, hchild]
    calc (toLocation (access :: rest)).evaluateFrom strict root start
        = Step.applyAll root strict (toLocation rest)
            (access.step.apply root strict (.single start)) := rfl
      _ = (toLocation rest).evaluateFrom strict root child := by rw [hstep]; rfl
      _ = .single node := ih hrest

/-- Behind a way down that cannot be taken the path gives nothing, or fails in strict mode alone. -/
lemma evaluateFrom_toLocation_append {before : List Access} {access : Access} {start node : Json}
    (hnode : start.at? before = some node) (hchild : node.child? access = none)
    (after : List Access) (strict : Bool) (root : Json) :
    (toLocation (before ++ access :: after)).evaluateFrom strict root start
      = .unresolved strict (access.failure node) := by
  have hstep : access.step.apply root strict (.single node)
      = .unresolved strict (access.failure node) := by
    rw [Step.apply_single access.isLocal_step, access.select_step, hchild]
  calc (toLocation (before ++ access :: after)).evaluateFrom strict root start
      = Step.applyAll root strict (toLocation (access :: after))
          ((toLocation before).evaluateFrom strict root start) := by
        rw [toLocation, List.map_append]
        exact evaluateFrom_append _ _ strict root start
    _ = Step.applyAll root strict (toLocation after)
          (access.step.apply root strict (.single node)) := by
        rw [evaluateFrom_toLocation hnode]
        rfl
    _ = Step.applyAll root strict (toLocation after)
          (.unresolved strict (access.failure node)) := by rw [hstep]
    _ = .unresolved strict (access.failure node) := by
        -- the steps that remain have no node to start from
        cases strict with
        | true => exact Step.applyAll_fail isLocal_of_mem_toLocation root true _
        | false => exact Step.applyAll_none isLocal_of_mem_toLocation root false

end Path

namespace Json

/-- A location that leads nowhere has a first way down that cannot be taken. -/
lemma exists_child?_eq_none {start : Json} {location : List Access}
    (h : start.at? location = none) :
    ∃ before access after node, location = before ++ access :: after ∧
      start.at? before = some node ∧ node.child? access = none := by
  induction location generalizing start with
  | nil => exact absurd h (Option.some_ne_none start)
  | cons access rest ih =>
    cases hchild : start.child? access with
    | none => exact ⟨[], access, rest, start, rfl, rfl, hchild⟩
    | some child =>
      have hrest : child.at? rest = none := by
        rwa [at?, hchild] at h
      obtain ⟨before, access', after, node, rfl, hnode, hnone⟩ := ih hrest
      refine ⟨access :: before, access', after, node, rfl, ?_, hnone⟩
      rw [at?, hchild]
      exact hnode

lemma selectOnly_of_read {text : String} {path : Path} (h : Path.read text = .ok path)
    (document : Json) (strict : Bool) :
    document.selectOnly text strict
      = (path.evaluateFrom strict document document).only.mapError .evaluation := by
  rw [selectOnly, h]
  rfl

/-- **Every node has a canonical text.**  The text of a location with indexes below `2 ^ 63`
selects the node there, in both modes.  If there is none, nothing is selected, and strict mode fails
because of the first way down that cannot be taken, never because of a second match. -/
theorem selectOnly_canonicalText {location : List Access}
    (hword : ∀ i : Nat, .index i ∈ location → i < signedReach) (document : Json) :
    match document.at? location with
    | some node => ∀ strict,
        document.selectOnly (Path.canonicalText location) strict = .ok (some node)
    | none => document.selectOnly (Path.canonicalText location) false = .ok none ∧
        ∃ before access after node, location = before ++ access :: after ∧
          document.at? before = some node ∧ node.child? access = none ∧
          document.selectOnly (Path.canonicalText location) true
            = .error (.evaluation (access.failure node)) ∧
          access.failure node ≠ .multipleMatches := by
  have hselect := selectOnly_of_read (Path.read_canonicalText hword) document
  cases hat : document.at? location with
  | some node =>
    intro strict
    rw [hselect, Path.evaluateFrom_toLocation hat]
    rfl
  | none =>
    obtain ⟨before, access, after, node, hlocation, hnode, hchild⟩ := exists_child?_eq_none hat
    have hrun (strict : Bool) :
        (Path.toLocation location).evaluateFrom strict document document
          = .unresolved strict (access.failure node) := by
      rw [hlocation]
      exact Path.evaluateFrom_toLocation_append hnode hchild after strict document
    refine ⟨?_, before, access, after, node, hlocation, hnode, hchild, ?_,
      access.failure_ne_multipleMatches node⟩
    · rw [hselect, hrun]
      rfl
    · rw [hselect, hrun]
      rfl

/-- A key with a quote, and indexes within and beyond the bounds. -/
theorem selectOnly_canonicalText_quote :
    (∀ strict, (object [("it's", array [null, bool true])]).selectOnly
        (Path.canonicalText [.key "it's", .index 1]) strict = .ok (some (bool true))) ∧
      (object [("it's", array [null, bool true])]).selectOnly
        (Path.canonicalText [.key "it's", .index 2]) false = .ok none := by
  have hword (i : Nat) (hi : i < signedReach) :
      ∀ j : Nat, Access.index j ∈ [Access.key "it's", Access.index i] → j < signedReach := by
    simpa using hi
  constructor
  · exact selectOnly_canonicalText (hword 1 (by decide))
      (object [("it's", array [null, bool true])])
  · exact (selectOnly_canonicalText (hword 2 (by decide))
      (object [("it's", array [null, bool true])])).1

end Json

end PathQuery
