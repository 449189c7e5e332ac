/-
# Every reading with a cursor ends

What a state tracks is kept by every step, so it holds of every state that the reading comes to: the
cursor and the marks lie between characters and in order, and nothing goes out of range.  Two kinds
of step need not move the cursor on, the one into the first loop and the one out of the loop over a
chain.  The first is taken once, and behind the second the cursor moves on, so the reading ends, and
it ends with the answer of reading by moves.
-/
import PathQuery.Proofs.Path.Cursor.Chains
import Mathlib

namespace PathQuery.Path.Cursor

open Relation (ReflTransGen TransGen)

variable {text : String} {state next : State} {answer : Except SyntaxError Path}
  {after : List Char}

/-! ## Where the cursor and the marks are -/

/-- The marks of a state lie between characters, and none lies behind the cursor. -/
def Phase.MarksPlaced (text : String) (pos : Offset) : Phase → Prop
  | .chain _ start | .pattern start _ => start.IsValid text ∧ start ≤ pos
  | .elements _ slot => slot.start.IsValid text ∧ (slot.stop.getD pos).IsValid text ∧
      slot.start ≤ slot.stop.getD pos ∧ slot.stop.getD pos ≤ pos ∧ slot.colons ≤ 2
  | _ => True

/-- The cursor lies between characters of the text, the marks lie between characters before it, and
no more queries are open than bytes have been read. -/
structure State.WellPlaced (text : String) (state : State) : Prop where
  valid : state.pos.IsValid text
  le_end : state.pos ≤ text.rawEndPos
  marks : state.phase.MarksPlaced text state.pos
  depth : state.opened.length ≤ state.pos.byteIdx

lemma offset_le_end (h : after <:+ text.toList) : offset text after ≤ text.rawEndPos :=
  offset_le h List.nil_suffix

lemma MarksName.placed {inQuery : Bool} {chain marked : Chain} {start : Offset}
    (hmark : MarksName text inQuery chain start after marked) (h : after <:+ text.toList) :
    start.IsValid text ∧ start ≤ offset text after := by
  cases hmark with
  | fresh => exact ⟨isValid_offset h, offset_le h List.suffix_rfl⟩
  | word hword => exact ⟨isValid_offset hword, offset_le hword (List.suffix_append _ _)⟩

lemma MarksNumber.placed {number source : List Char} {start : Offset} {stop : Option Offset}
    (hmark : MarksNumber text number start stop source after) (h : source <:+ text.toList) :
    start.IsValid text ∧ (stop.getD (offset text after)).IsValid text ∧
      start ≤ stop.getD (offset text after) ∧
      stop.getD (offset text after) ≤ offset text after := by
  cases hmark with
  | «open» =>
    have hafter := (List.suffix_append number after).trans h
    exact ⟨isValid_offset h, isValid_offset hafter, offset_le h (List.suffix_append _ _),
      offset_le hafter List.suffix_rfl⟩
  | closed n =>
    have hspaces := (List.suffix_append number (Spelling.spaces (n + 1) ++ after)).trans h
    exact ⟨isValid_offset h, isValid_offset hspaces, offset_le h (List.suffix_append _ _),
      offset_le hspaces (List.suffix_append _ _)⟩

/-- A state that has an answer stands where it should. -/
lemma Tracks.placed (h : Tracks text state answer) :
    state.pos.IsValid text ∧ state.pos ≤ text.rawEndPos ∧
      state.phase.MarksPlaced text state.pos := by
  cases h with
  | anchor => exact ⟨String.Pos.Raw.isValid_zero, Nat.zero_le _, trivial⟩
  | chain h hmark => exact ⟨isValid_offset h, offset_le_end h, hmark.placed h⟩
  | elements slot h hmark hnumber hread =>
    have hafter := hmark.after_suffix.trans h
    obtain ⟨hstart, hstop, hle, hpos⟩ := hmark.placed h
    exact ⟨isValid_offset hafter, offset_le_end hafter, hstart, hstop, hle, hpos,
      Nat.le_of_lt_succ hread.colons_lt⟩
  | pattern h hbody =>
    have hafter := (List.suffix_append _ _).trans ((List.suffix_cons _ _).trans h)
    exact ⟨isValid_offset hafter, offset_le_end hafter, isValid_offset h,
      offset_le h ((List.suffix_append _ _).trans (List.suffix_cons _ _))⟩
  | names h => exact ⟨isValid_offset h, offset_le_end h, trivial⟩
  | quoted h => exact ⟨isValid_offset h, offset_le_end h, trivial⟩
  | side h => exact ⟨isValid_offset h, offset_le_end h, trivial⟩
  | sideRead h => exact ⟨isValid_offset h, offset_le_end h, trivial⟩
  | closing h => exact ⟨isValid_offset h, offset_le_end h, trivial⟩

/-! ## One step -/

/-- The reading is at the head of a loop: over the parts of a chain, quoted names, the characters of
quoted text, the characters of an index, the sides of comparisons, or the characters of a
pattern. -/
def Phase.IsLoopHead : Phase → Prop
  | .chain .. | .names .. | .quoted .. | .elements .. | .side .. | .pattern .. => True
  | .anchor | .sideRead .. | .closing .. => False

/-- One state is followed by another. -/
def Steps (text : String) (state next : State) : Prop := step text state = .ok next

/-- One state is followed by another after any number of steps. -/
def Reaches (text : String) : State → State → Prop := ReflTransGen (Steps text)

lemma Tracks.steps (hlast : text.toList.getLast? ≠ some ' ') (h : Tracks text state answer)
    (hstep : Steps text state next) : Tracks text next answer ∧ Forward state next := by
  have hfollows := h.follows hlast
  rw [hstep] at hfollows
  exact hfollows

lemma Tracks.halts (hlast : text.toList.getLast? ≠ some ' ') (h : Tracks text state answer)
    {halt : Halt} (hstep : step text state = .error halt) : halt = .ofAnswer answer := by
  have hfollows := h.follows hlast
  rw [hstep] at hfollows
  exact hfollows

namespace Forward

lemma pos_le (h : Forward state next) : state.pos ≤ next.pos := by
  cases h with
  | turn hpos => exact Nat.le_of_lt hpos
  | leave => exact Nat.le_refl _
  | enter => exact Nat.zero_le _

/-- A query that is opened takes a byte at least. -/
lemma depth_le (h : Forward state next) (hdepth : state.opened.length ≤ state.pos.byteIdx) :
    next.opened.length ≤ next.pos.byteIdx := by
  cases h with
  | turn hpos hopened => exact hopened.trans ((Nat.succ_le_succ hdepth).trans hpos)
  | leave => exact (Nat.le_succ _).trans hdepth
  | enter => exact Nat.zero_le _

end Forward

/-! ## The steps that are left -/

/-- The steps that a reading may take from here without moving on. -/
def Phase.idleSteps : Phase → Nat
  | .anchor => 2
  | .chain .. => 1
  | _ => 0

/-- A bound for the steps that are left: each byte pays for one that moves over it and one that does
not move. -/
def State.stepsLeft (text : String) (state : State) : Nat :=
  2 * (text.utf8ByteSize - state.pos.byteIdx) + state.phase.idleSteps

/-- Once the cursor has moved on, the reading is not at the start of the text any more. -/
lemma Tracks.idleSteps_le (h : Tracks text state answer) (hpos : 0 < state.pos) :
    state.phase.idleSteps ≤ 1 := by
  cases h with
  | anchor => exact absurd hpos (Nat.lt_irrefl 0)
  | _ => simp [Phase.idleSteps]

lemma Forward.stepsLeft_lt (h : Forward state next) (hnext : Tracks text next answer) :
    next.stepsLeft text < state.stepsLeft text := by
  have hend : next.pos.byteIdx ≤ text.utf8ByteSize := hnext.placed.2.1
  unfold State.stepsLeft
  cases h with
  | turn hpos hopened =>
    have hlt : state.pos.byteIdx < next.pos.byteIdx := hpos
    have hidle := hnext.idleSteps_le (Nat.lt_of_le_of_lt (Nat.zero_le _) hlt)
    omega
  | leave => exact Nat.lt_succ_self _
  | enter pos =>
    show 2 * (text.utf8ByteSize - pos.byteIdx) + 1 < 2 * (text.utf8ByteSize - 0) + 2
    omega

/-! ## Whole readings -/

section Reaches

variable (hlast : text.toList.getLast? ≠ some ' ')
include hlast

/-- An answer is kept on the way to any later state. -/
lemma Tracks.reaches (h : Tracks text state answer) (hreach : Reaches text state next) :
    Tracks text next answer := by
  induction hreach with
  | refl => exact h
  | tail _ hstep ih => exact (ih.steps hlast hstep).1

lemma Tracks.depth_le (h : Tracks text state answer)
    (hdepth : state.opened.length ≤ state.pos.byteIdx) (hreach : Reaches text state next) :
    next.opened.length ≤ next.pos.byteIdx := by
  induction hreach with
  | refl => exact hdepth
  | tail hmid hstep ih => exact ((h.reaches hlast hmid).steps hlast hstep).2.depth_le ih

/-- Between two heads of loops the cursor moves on. -/
lemma Tracks.pos_lt (h : Tracks text state answer) (hhead : state.phase.IsLoopHead)
    (hpass : TransGen (Steps text) state next) :
    state.pos < next.pos ∨
      state.pos ≤ next.pos ∧ ∃ side query, next.phase = .sideRead side query := by
  induction hpass with
  | single hstep =>
    cases (h.steps hlast hstep).2 with
    | turn hpos => exact .inl hpos
    | leave _ _ _ side query => exact .inr ⟨Nat.le_refl _, side, query, rfl⟩
    | enter => exact absurd hhead id
  | tail hmid hstep ih =>
    -- a chain may have ended at the cursor, but what is read behind it takes a character
    have hforward := ((h.reaches hlast hmid.to_reflTransGen).steps hlast hstep).2
    rcases ih with hlt | ⟨hle, side, query, hphase⟩
    · exact .inl (String.Pos.Raw.lt_of_lt_of_le hlt hforward.pos_le)
    · cases hforward with
      | turn hpos => exact .inl (String.Pos.Raw.lt_of_le_of_lt hle hpos)
      | leave => exact absurd hphase (by simp)
      | enter => exact absurd hphase (by simp [State.start])

/-- From every state with an answer the reading goes on until it halts with the answer. -/
lemma Tracks.exists_halt (h : Tracks text state answer) :
    ∃ last, Reaches text state last ∧ step text last = .error (.ofAnswer answer) := by
  induction hleft : state.stepsLeft text using Nat.strong_induction_on generalizing state with
  | _ n ih =>
    cases hstep : step text state with
    | error halt =>
      rw [h.halts hlast hstep] at hstep
      exact ⟨state, .refl, hstep⟩
    | ok next =>
      obtain ⟨hnext, hforward⟩ := h.steps hlast hstep
      obtain ⟨last, hreach, hhalt⟩ :=
        ih _ (hleft ▸ hforward.stepsLeft_lt hnext) hnext rfl
      exact ⟨last, .head hstep hreach, hhalt⟩

end Reaches

lemma getLast?_trimmed (text : String) : (trimmed text).toList.getLast? ≠ some ' ' := by
  rw [trimmed, String.toList_ofList, trimBlanks, List.getLast?_reverse]
  intro h
  have hnot := List.head?_dropWhile_not isBlank ((text.toList.dropWhile isBlank).reverse)
  rw [h] at hnot
  exact absurd hnot (by decide)

lemma tracks_start (text : String) : Tracks (trimmed text) .start (read text) := by
  have hanchor : Tracks (trimmed text) .start
      (Progress.run (.steps (.start []) []) (dropAnchor (trimmed text).toList)) := .anchor
  rwa [trimmed, String.toList_ofList] at hanchor

/-- A text is read to its end or to what is wrong with it, however malformed it is.  In all states
of the reading the cursor and the marks lie between characters and in order, and nothing goes out of
range.  From one head of a loop to the next, be it that of the same loop, of one within it or of the
path of an operand, the cursor moves on.  So each reading halts, with the answer of `read`. -/
theorem reading_halts (text : String) :
    (∀ state, Reaches (trimmed text) .start state →
      state.WellPlaced (trimmed text) ∧ step (trimmed text) state ≠ .error .outOfRange) ∧
    (∀ state next, Reaches (trimmed text) .start state →
      TransGen (Steps (trimmed text)) state next → state.phase.IsLoopHead →
      next.phase.IsLoopHead → state.pos < next.pos) ∧
    ∀ state, Reaches (trimmed text) .start state → ∃ last, Reaches (trimmed text) state last ∧
      step (trimmed text) last = .error (.ofAnswer (read text)) := by
  have hlast := getLast?_trimmed text
  have hstart := tracks_start text
  refine ⟨fun state hreach => ?_, fun state next hreach hpass hstate hnext => ?_,
    fun state hreach => (hstart.reaches hlast hreach).exists_halt hlast⟩
  · have htracks := hstart.reaches hlast hreach
    have hdepth := hstart.depth_le hlast (Nat.zero_le _) hreach
    obtain ⟨hvalid, hend, hmarks⟩ := htracks.placed
    refine ⟨⟨hvalid, hend, hmarks, hdepth⟩, fun hrange => ?_⟩
    have hhalt := htracks.halts hlast hrange
    cases hread : read text <;> simp [hread, Halt.ofAnswer] at hhalt
  · have htracks := hstart.reaches hlast hreach
    rcases htracks.pos_lt hlast hstate hpass with hlt | ⟨-, side, query, hside⟩
    · exact hlt
    · rw [hside] at hnext
      exact absurd hnext id

/-- The name takes two bytes, and the cursor passes over both at once. -/
theorem reading_halts_behind_name :
    Reaches (trimmed " é[0]") .start ⟨0, .chain (.start []) 0, []⟩ ∧
      TransGen (Steps (trimmed " é[0]")) ⟨0, .chain (.start []) 0, []⟩
        ⟨⟨2⟩, .chain (.start []) 0, []⟩ ∧
      (0 : Offset) < ⟨2⟩ ∧
      State.WellPlaced (trimmed " é[0]") ⟨0, .chain (.start []) 0, []⟩ ∧
      ∃ last, Reaches (trimmed " é[0]") ⟨0, .chain (.start []) 0, []⟩ last ∧
        step (trimmed " é[0]") last = .error (.ofAnswer (read " é[0]")) := by
  have hstart : Steps "é[0]" .start ⟨0, .chain (.start []) 0, []⟩ := by
    unfold Steps
    cbv
  have hname : Steps "é[0]" ⟨0, .chain (.start []) 0, []⟩ ⟨⟨2⟩, .chain (.start []) 0, []⟩ := by
    unfold Steps
    cbv
  have htrim : trimmed " é[0]" = "é[0]" := by cbv
  rw [← htrim] at hstart hname
  have hfirst : Reaches (trimmed " é[0]") .start ⟨0, .chain (.start []) 0, []⟩ := .single hstart
  obtain ⟨hplaced, hpos, hhalt⟩ := reading_halts " é[0]"
  exact ⟨hfirst, .single hname, hpos _ _ hfirst (.single hname) trivial trivial,
    (hplaced _ hfirst).1, hhalt _ hfirst⟩

/-- No reading comes to a mark within a character, where the text cannot be cut. -/
example : step "é[0]" ⟨⟨2⟩, .chain (.start []) ⟨1⟩, []⟩ = .error .outOfRange := by cbv

end PathQuery.Path.Cursor
