/-
# What a state of the cursor comes to

Each state of a reading with a cursor has an answer: what reading by moves gives for the characters
that are left.  The relation `Tracks` says which, and with it where the cursor and the marks are:
the cursor before the characters that are left, a mark before the characters that it encloses with
the cursor.
-/
import PathQuery.Proofs.Path.Cursor.Offset
import PathQuery.Proofs.Path.ElementIndexer
import PathQuery.Proofs.Path.Inversion

namespace PathQuery.Path.Cursor

/-! ## Spaces -/

lemma ne_space_of_skipSpaces {after gap : List Char} {c : Char} (h : skipSpaces after = c :: gap) :
    c ≠ ' ' := by
  have hnot := List.head?_dropWhile_not (· == ' ') after
  rw [← skipSpaces, h] at hnot
  simpa using hnot

/-- What passes over a space passes over all of them. -/
lemma run_skipSpaces {progress : Progress}
    (hspace : ∀ rest, progress.advance ' ' rest = .ok (progress, rest)) (after : List Char) :
    progress.run after = progress.run (skipSpaces after) := by
  obtain ⟨n, hn⟩ := exists_eq_spaces_append after
  conv_lhs => rw [hn]
  exact Progress.run_spaces hspace n _

/-! ## Answers within an indexer, a string or a pattern -/

/-- The answer before a quoted name. -/
def namesAnswer (chain : Chain) (names : List String) (opened : List OpenQuery) :
    List Char → Except SyntaxError Path
  | [] => .error .openIndexer
  | '\'' :: after => (Indexer.takeNames after).bind fun (more, after) =>
    (Progress.steps (chain.addNames (names ++ more)) opened).run after
  | c :: _ => .error (.unexpected .indexer c)

/-- The answer behind a closing quote. -/
def useAnswer (content : List Char) (opened : List OpenQuery) (after : List Char) :
    Use → Except SyntaxError Path
  | .literal query =>
    (Progress.operandRead (.literal (.string (String.ofList content))) query opened).run after
  | .name chain names =>
    match skipSpaces after with
    | [] => .error .openIndexer
    | ']' :: after =>
      (Progress.steps (chain.addNames (names ++ [String.ofList content])) opened).run after
    | ',' :: after => namesAnswer chain (names ++ [String.ofList content]) opened (skipSpaces after)
    | c :: _ => .error (.unexpected .indexer c)

/-- The answer within quotes. -/
def quotedAnswer (content : List Char) (use : Use) (opened : List OpenQuery) (after : List Char) :
    Except SyntaxError Path :=
  (Quoted.take after).bind fun (more, after) => useAnswer (content ++ more) opened after use

/-- The answer in an indexer for elements, of which the text from the mark on has to be read. -/
def elementsAnswer (chain : Chain) (opened : List OpenQuery)
    (taken : Except SyntaxError (Step × List Char)) : Except SyntaxError Path :=
  taken.bind fun (step, after) => (Progress.steps (chain.addElements step) opened).run after

/-- The answer before the closing bracket of an indexer that is complete. -/
def closeAnswer (chain : Chain) (opened : List OpenQuery) (after : List Char) :
    Except SyntaxError Path :=
  match skipSpaces after with
  | [] => .error .openIndexer
  | ']' :: after => (Progress.steps chain opened).run after
  | c :: _ => .error (.unexpected .indexer c)

/-- The answer in a pattern. -/
def patternAnswer (query : OpenQuery) (opened : List OpenQuery)
    (taken : Except SyntaxError (Json × List Char)) : Except SyntaxError Path :=
  taken.bind fun (value, after) => (Progress.operandRead (.literal value) query opened).run after

/-- Reading a pattern passes over the first part of its body. -/
def PassesBody (body after : List Char) : Prop :=
  Literal.takeBody (body ++ after)
    = (Literal.takeBody after).map fun (more, rest) => (body ++ more, rest)

lemma passesBody_nil (after : List Char) : PassesBody [] after := by
  rw [PassesBody, List.nil_append]
  rcases Literal.takeBody after with cause | found <;> rfl

/-! ## Marks -/

/-- The chain as it stands at the cursor: the name between the mark and the cursor, if there is one,
is part of it, and it ends there. -/
inductive MarksName (text : String) (inQuery : Bool) (chain : Chain) :
    Offset → List Char → Chain → Prop
  | fresh (after : List Char) : MarksName text inQuery chain (offset text after) after chain
  | word {word after : List Char} (hword : word ++ after <:+ text.toList) (hne : word ≠ [])
      (hend : ∀ c ∈ after.head?, isNameChar inQuery c = false) :
      MarksName text inQuery chain (offset text (word ++ after)) after (chain.addName word)

/-- The rest of a list of indexes, put behind those that have been read. -/
def takeMoreIndexes (indexes : List Int) (source : List Char) :
    Except SyntaxError (Step × List Char) :=
  (Indexer.takeIndexes source).map fun (more, after) => (.indexes (indexes ++ more), after)

/-- How the text from the mark on is read: as a first index, an index of a list, the stop of a slice
or its stride. -/
inductive ReadsSlot : Option (List Int) → Vector (Option Int) 3 → Nat →
    (List Char → Except SyntaxError (Step × List Char)) → Prop
  | first : ReadsSlot none #v[none, none, none] 0 Indexer.takeElements
  | list (indexes : List Int) :
      ReadsSlot (some indexes) #v[none, none, none] 0 (takeMoreIndexes indexes)
  | stop (start : Option Int) : ReadsSlot none #v[start, none, none] 1 (Indexer.takeStop start)
  | stride (start stop : Option Int) :
      ReadsSlot none #v[start, stop, none] 2 (Indexer.takeStride start stop)

/-- The number from the mark to the cursor, or to a space before the cursor. -/
inductive MarksNumber (text : String) (number : List Char) :
    Offset → Option Offset → List Char → List Char → Prop
  | open (after : List Char) :
      MarksNumber text number (offset text (number ++ after)) none (number ++ after) after
  | closed (n : Nat) {after : List Char} (hafter : ∀ c ∈ after.head?, c ≠ ' ') :
      MarksNumber text number (offset text (number ++ (Spelling.spaces (n + 1) ++ after)))
        (some (offset text (Spelling.spaces (n + 1) ++ after)))
        (number ++ (Spelling.spaces (n + 1) ++ after)) after

lemma MarksNumber.nil (text : String) (after : List Char) :
    MarksNumber text [] (offset text after) none after after := .open after

/-! ## States and answers -/

/-- The state stands where it should, and the reading has the answer if it goes on from there. -/
inductive Tracks (text : String) : State → Except SyntaxError Path → Prop
  | anchor : Tracks text .start (Progress.run (.steps (.start []) []) (dropAnchor text.toList))
  | chain {after : List Char} {chain marked : Chain} {start : Offset} {opened : List OpenQuery}
      (h : after <:+ text.toList)
      (hmark : MarksName text (!opened.isEmpty) chain start after marked) :
      Tracks text ⟨offset text after, .chain chain start, opened⟩
        ((Progress.steps marked opened).run after)
  | names {after : List Char} (h : after <:+ text.toList) (chain : Chain) (names : List String)
      (opened : List OpenQuery) :
      Tracks text ⟨offset text after, .names chain names, opened⟩
        (namesAnswer chain names opened after)
  | quoted {after : List Char} (h : after <:+ text.toList) (content : List Char) (use : Use)
      (opened : List OpenQuery) :
      Tracks text ⟨offset text after, .quoted content use, opened⟩
        (quotedAnswer content use opened after)
  | elements {number source after : List Char} (slot : Slot)
      {read : List Char → Except SyntaxError (Step × List Char)} (h : source <:+ text.toList)
      (hmark : MarksNumber text number slot.start slot.stop source after)
      (hnumber : ∀ c ∈ number, Indexer.isIndexChar c)
      (hread : ReadsSlot slot.indexes slot.bounds slot.colons read)
      (chain : Chain) (opened : List OpenQuery) :
      Tracks text ⟨offset text after, .elements chain slot, opened⟩
        (elementsAnswer chain opened (read source))
  | side {after : List Char} (h : after <:+ text.toList) (query : OpenQuery)
      (opened : List OpenQuery) :
      Tracks text ⟨offset text after, .side query, opened⟩
        ((Progress.operand query opened).run after)
  | sideRead {after : List Char} (h : after <:+ text.toList) (side : Operand) (query : OpenQuery)
      (opened : List OpenQuery) :
      Tracks text ⟨offset text after, .sideRead side query, opened⟩
        ((Progress.operandRead side query opened).run after)
  | pattern {body after : List Char} (h : '/' :: (body ++ after) <:+ text.toList)
      (hbody : PassesBody body after)
      (query : OpenQuery) (opened : List OpenQuery) :
      Tracks text ⟨offset text after, .pattern (offset text ('/' :: (body ++ after))) query, opened⟩
        (patternAnswer query opened (Literal.takePattern (body ++ after)))
  | closing {after : List Char} (h : after <:+ text.toList) (filter : Expression) (chain : Chain)
      (opened : List OpenQuery) :
      Tracks text ⟨offset text after, .closing filter chain, opened⟩
        ((Progress.closing filter chain opened).run after)

/-! ## Steps -/

/-- The ways of a step: the cursor moves on, the loop over a chain is left, or the first loop is
entered. -/
inductive Forward : State → State → Prop
  | turn {state next : State} (hpos : state.pos < next.pos)
      (hopened : next.opened.length ≤ state.opened.length + 1) : Forward state next
  | leave (pos : Offset) (chain : Chain) (start : Offset) (side : Operand) (query : OpenQuery)
      (opened : List OpenQuery) :
      Forward ⟨pos, .chain chain start, query :: opened⟩ ⟨pos, .sideRead side query, opened⟩
  | enter (pos : Offset) (chain : Chain) (start : Offset) :
      Forward .start ⟨pos, .chain chain start, []⟩

/-- A step keeps the answer of a state and goes forward, or it halts with the answer. -/
def Follows (text : String) (state : State) (answer : Except SyntaxError Path) :
    Except Halt State → Prop
  | .ok next => Tracks text next answer ∧ Forward state next
  | .error halt => halt = .ofAnswer answer

variable {text : String} {state next : State} {answer : Except SyntaxError Path}
  {after tail : List Char} {c : Char} {opened : List OpenQuery}

lemma follows_ok {answer' : Except SyntaxError Path} (h : Tracks text next answer')
    (hforward : Forward state next) (hanswer : answer = answer') :
    Follows text state answer (.ok next) := by
  rw [hanswer]
  exact ⟨h, hforward⟩

lemma follows_rejected {cause : SyntaxError} (h : answer = .error cause) :
    Follows text state answer (.error (.rejected cause)) := by
  rw [h]
  rfl

lemma forward_cons {phase phase' : Phase} (h : c :: tail <:+ text.toList)
    (hafter : after <:+ tail) :
    Forward ⟨offset text (c :: tail), phase, opened⟩ ⟨offset text after, phase', opened⟩ :=
  .turn (offset_lt_cons h hafter) (Nat.le_succ _)

/-- Spaces are skipped, and the text must go on behind them. -/
lemma follows_skip {cause : SyntaxError} {f : Offset → Char → Except Halt State}
    (h : after <:+ text.toList) (hend : skipSpaces after = [] → answer = .error cause)
    (hnext : ∀ c gap, skipSpaces after = c :: gap → c :: gap <:+ after →
      Follows text state answer (f (offset text (c :: gap)) c)) :
    Follows text state answer (do
      let pos ← skip text (offset text after)
      let c ← current text pos cause
      f pos c) := by
  have hskip := skipSpaces_suffix after
  rw [skip_offset h, ok_bind]
  rcases hgap : skipSpaces after with _ | ⟨c, gap⟩
  · rw [current_offset_nil]
    exact follows_rejected (hend hgap)
  · rw [hgap] at hskip
    rw [current_offset_cons (hskip.trans h)]
    exact hnext c gap hgap hskip

/-- The same where the text must not have ended before. -/
lemma follows_current_skip {cause : SyntaxError} {f : Offset → Char → Except Halt State}
    (h : after <:+ text.toList) (hend : skipSpaces after = [] → answer = .error cause)
    (hnext : ∀ c gap, skipSpaces after = c :: gap → c :: gap <:+ after →
      Follows text state answer (f (offset text (c :: gap)) c)) :
    Follows text state answer (do
      let _ ← current text (offset text after) cause
      let pos ← skip text (offset text after)
      let c ← current text pos cause
      f pos c) := by
  cases after with
  | nil =>
    rw [current_offset_nil]
    exact follows_rejected (hend rfl)
  | cons c tail =>
    rw [current_offset_cons h, ok_bind]
    exact follows_skip h hend hnext

lemma follows_closeIndexer {state : State} (h : after <:+ text.toList)
    (hpos : state.pos ≤ offset text after) (hopened : state.opened = opened) (chain : Chain) :
    Follows text state (closeAnswer chain opened after)
      (closeIndexer text (offset text after) opened chain) := by
  refine follows_current_skip h (fun hgap => by rw [closeAnswer, hgap]) fun c gap hgap hskip => ?_
  have hgap' := (List.suffix_cons c gap).trans hskip
  rw [closeAnswer, hgap, bump_offset_cons (hskip.trans h)]
  by_cases hclosed : c = ']'
  · subst hclosed
    have hbracket := offset_lt h hgap' (Nat.lt_of_lt_of_le (Nat.lt_succ_self _) hskip.length_le)
    exact follows_ok (.chain (hgap'.trans h) (.fresh gap))
      (.turn (String.Pos.Raw.lt_of_le_of_lt hpos hbracket) (hopened ▸ Nat.le_succ _)) rfl
  · simp only
    exact follows_rejected rfl

end PathQuery.Path.Cursor
