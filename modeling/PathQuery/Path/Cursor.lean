/-
# Reading with a cursor

Here the text of a path stays whole, and a cursor moves over its bytes.  What a mark and the cursor
enclose is cut out of the text, and the three bounds of a slice are written to numbered places.
A cut fails if an offset lies within a character or outside the text or if the mark is behind the
cursor, and a bound cannot be written to a place that there is not.

The reading has six loops: over the parts of a chain, quoted names, the characters of quoted text,
the characters of an index, comparisons, and the characters of a pattern.  A step leads from the
head of a loop to the next place where the reading can go on: to the same head again, to the head of
another loop, or out of the loop.
-/
import PathQuery.Path.Reader

namespace PathQuery.Path.Cursor

/-- A number of bytes from the start of the text. -/
abbrev Offset := String.Pos.Raw

/-- Why a reading does not go on. -/
inductive Halt where
  /-- The text spells a path. -/
  | accepted (path : Path)
  | rejected (cause : SyntaxError)
  /-- The text was to be cut where it cannot be, or a bound was to be written that is not there. -/
  | outOfRange

/-- The end of a reading that gives an answer. -/
def Halt.ofAnswer : Except SyntaxError Path → Halt
  | .ok path => .accepted path
  | .error cause => .rejected cause

/-- A judgement on a part of the text, which halts the reading if it is refused. -/
def judge {α : Type} : Except SyntaxError α → Except Halt α
  | .ok a => .ok a
  | .error cause => .error (.rejected cause)

/-! ## The text at an offset -/

section Text

variable (text : String)

/-- The characters from one offset to another. -/
def cut (start stop : Offset) : Except Halt (List Char) :=
  if start.isValid text ∧ stop.isValid text ∧ start ≤ stop then
    .ok (start.extract text stop).toList
  else .error .outOfRange

/-- The characters from an offset on. -/
def rest (pos : Offset) : Except Halt (List Char) := cut text pos text.rawEndPos

/-- The character at an offset, if the text has not ended. -/
def peek (pos : Offset) : Except Halt (Option Char) := do return (← rest text pos).head?

/-- The character at an offset, where the text must not have ended. -/
def current (pos : Offset) (cause : SyntaxError) : Except Halt Char := do
  match ← peek text pos with
  | some c => .ok c
  | none => .error (.rejected cause)

/-- The offset behind the character at an offset. -/
def bump (pos : Offset) : Except Halt Offset := do
  match ← peek text pos with
  | some c => .ok (pos + c)
  | none => .ok pos

/-- The offset before the last characters of the text, which a token reader has left over. -/
def before (after : List Char) : Except Halt Offset :=
  if (String.ofList after).utf8ByteSize ≤ text.utf8ByteSize then
    .ok ⟨text.utf8ByteSize - (String.ofList after).utf8ByteSize⟩
  else .error .outOfRange

/-- The offset behind the spaces at an offset. -/
def skip (pos : Offset) : Except Halt Offset := do before text (skipSpaces (← rest text pos))

end Text

/-! ## States -/

/-- The index that is being read: where it starts, where it ends if a space has ended it, the
indexes of a list before it, and the bounds of a slice with the number of colons before it. -/
structure Slot where
  start : Offset
  stop : Option Offset
  indexes : Option (List Int)
  bounds : Vector (Option Int) 3
  colons : Nat

namespace Slot

/-- The first index of an indexer. -/
def first (pos : Offset) : Slot := ⟨pos, none, none, .replicate 3 none, 0⟩

/-- The next index of an indexer. -/
def next (slot : Slot) (pos : Offset) : Slot := { slot with start := pos, stop := none }

/-- The slot with the number written to the bound after so many colons; without a number the bound
is left out. -/
def setBound (slot : Slot) (number : List Char) : Except Halt Slot :=
  if number = [] then .ok slot
  else do
    let i ← judge (Indexer.readIndex number)
    if h : slot.colons < 3 then .ok { slot with bounds := slot.bounds.set slot.colons (some i) h }
    else .error .outOfRange

/-- The slot after a number and a comma. -/
def addIndex (slot : Slot) (number : List Char) : Except Halt Slot := do
  let i ← judge (Indexer.readIndex number)
  return { slot with indexes := some (slot.indexes.getD [] ++ [i]) }

/-- The slot after a number, which may be left out, and a colon. -/
def addBound (slot : Slot) (number : List Char) : Except Halt Slot := do
  let slot ← slot.setBound number
  return { slot with colons := slot.colons + 1 }

/-- The step that the indexer spells if it is closed after the number. -/
def close (slot : Slot) (number : List Char) : Except Halt Step :=
  match slot.indexes with
  | some indexes => do return .indexes (indexes ++ [← judge (Indexer.readIndex number)])
  | none =>
    if 0 < slot.colons then do
      let slot ← slot.setBound number
      return .slice slot.bounds[0] slot.bounds[1] slot.bounds[2]
    else do return .index (some (← judge (Indexer.readIndex number)))

end Slot

/-- What quoted text is read for. -/
inductive Use where
  /-- The next of the names of a chain's indexer. -/
  | name (chain : Chain) (names : List String)
  /-- A side of a comparison. -/
  | literal (query : OpenQuery)

/-- Where a reading stands. -/
inductive Phase where
  /-- At the start of the text. -/
  | anchor
  /-- In a chain; if the mark is before the cursor, a name has been read from there. -/
  | chain (chain : Chain) (start : Offset)
  /-- Before a quoted name. -/
  | names (chain : Chain) (names : List String)
  /-- Within quotes, behind the given characters. -/
  | quoted (content : List Char) (use : Use)
  /-- In an indexer for elements. -/
  | elements (chain : Chain) (slot : Slot)
  /-- Before a side of a comparison. -/
  | side (query : OpenQuery)
  /-- Behind a side of a comparison. -/
  | sideRead (side : Operand) (query : OpenQuery)
  /-- In a pattern that starts at the mark. -/
  | pattern (start : Offset) (query : OpenQuery)
  /-- Behind the parenthesis of a query. -/
  | closing (filter : Expression) (chain : Chain)

/-- The cursor, where the reading stands, and the queries that are open around it. -/
structure State where
  pos : Offset
  phase : Phase
  opened : List OpenQuery

/-- The state before a text is read. -/
def State.start : State := ⟨0, .anchor, []⟩

/-! ## Steps -/

section Steps

variable (text : String) (pos : Offset) (opened : List OpenQuery)

/-- The step to the first loop, over a `$` that stands for the root. -/
def stepAnchor : Except Halt State := do
  if text = "" ∨ text = "$" then .error (.accepted [])
  else
    let more ← rest text pos
    let pos ← if more.head? = some '$' ∧ (more[1]? = some '.' ∨ more[1]? = some '[') then
      bump text pos else pure pos
    return ⟨pos, .chain (.start []) pos, []⟩

/-- The chain with the name that has been read from the mark on, if there is one. -/
def closeName (chain : Chain) (start : Offset) : Except Halt Chain :=
  if start < pos then do return chain.addName (← cut text start pos) else .ok chain

/-- The step behind an opening bracket: to the loop over names, over characters of an index, or over
comparisons. -/
def openIndexer (chain : Chain) : Except Halt State := do
  let pos ← bump text pos
  let _ ← current text pos .openIndexer
  let pos ← skip text pos
  match ← current text pos .openIndexer with
  | '\'' => return ⟨pos, .names chain [], opened⟩
  | '?' =>
    let pos ← bump text pos
    let pos ← skip text pos
    match ← current text pos .openIndexer with
    | '(' => return ⟨← bump text pos, .side (.start chain), opened⟩
    | c => .error (.rejected (.unexpected .indexer c))
  | _ => return ⟨pos, .elements chain (.first pos), opened⟩

/-- The step out of the loop over the parts of a chain. -/
def endChain (chain : Chain) (start : Offset) : Except Halt State := do
  let ended := decide (text.rawEndPos ≤ pos)
  if ¬start < pos ∧ chain.place = .dot ∧ (ended ∨ opened ≠ []) then
    .error (.rejected .unexpectedEnd)
  else
    let chain ← closeName text pos chain start
    match opened with
    | [] =>
      if ended then .error (.accepted chain.steps)
      else
        let stopped ← peek text pos
        let pos ← skip text pos
        match stopped, decide (text.rawEndPos ≤ pos) with
        | some c, false => .error (.rejected (.unexpected .path c))
        | _, _ => .error (.accepted chain.steps)
    | query :: opened =>
      if ended then .error (.rejected .openQuery)
      else return ⟨pos, .sideRead (.path chain.steps) query, opened⟩

/-- A turn of the loop over the parts of a chain. -/
def stepChain (chain : Chain) (start : Offset) : Except Halt State := do
  match ← peek text pos with
  | none => endChain text pos opened chain start
  | some c =>
    if c = '[' then openIndexer text pos opened (← closeName text pos chain start)
    else if c = '.' then
      let chain ← closeName text pos chain start
      let pos ← bump text pos
      if (← peek text pos) = some '.' then
        let pos ← bump text pos
        return ⟨pos, .chain (chain.addDots true) pos, opened⟩
      else return ⟨pos, .chain (chain.addDots false) pos, opened⟩
    else if endsChain (!opened.isEmpty) c then endChain text pos opened chain start
    else if chain.place = .indexer then .error (.rejected (.unexpected .afterIndexer c))
    else
      let more ← rest text pos
      let after := more.dropWhile (isNameChar (!opened.isEmpty))
      let pos ← if after.length < more.length then before text after else bump text pos
      return ⟨pos, .chain chain start, opened⟩

/-- The step over the closing bracket of an indexer that is complete, to the chain with it. -/
def closeIndexer (chain : Chain) : Except Halt State := do
  let _ ← current text pos .openIndexer
  let pos ← skip text pos
  match ← current text pos .openIndexer with
  | ']' =>
    let pos ← bump text pos
    return ⟨pos, .chain chain pos, opened⟩
  | c => .error (.rejected (.unexpected .indexer c))

/-- A turn of the loop over quoted names. -/
def stepNames (chain : Chain) (names : List String) : Except Halt State := do
  match ← current text pos .openIndexer with
  | '\'' => return ⟨← bump text pos, .quoted [] (.name chain names), opened⟩
  | c => .error (.rejected (.unexpected .indexer c))

/-- The step behind a closing quote. -/
def closeQuote (content : List Char) : Use → Except Halt State
  | .literal query =>
    .ok ⟨pos, .sideRead (.literal (.string (String.ofList content))) query, opened⟩
  | .name chain names => do
    let names := names ++ [String.ofList content]
    let pos ← skip text pos
    match ← current text pos .openIndexer with
    | ']' =>
      let pos ← bump text pos
      return ⟨pos, .chain (chain.addNames names) pos, opened⟩
    | ',' =>
      let pos ← bump text pos
      return ⟨← skip text pos, .names chain names, opened⟩
    | c => .error (.rejected (.unexpected .indexer c))

/-- A turn of the loop over the characters of quoted text. -/
def stepQuoted (content : List Char) (use : Use) : Except Halt State := do
  match ← peek text pos with
  | none => .error (.rejected .openString)
  | some c =>
    let pos ← bump text pos
    if c = '\\' then
      match ← peek text pos with
      | none => .error (.rejected .openString)
      | some d =>
        if d = '\'' ∨ d = '\\' then
          return ⟨← bump text pos, .quoted (content ++ [d]) use, opened⟩
        else .error (.rejected (.unknownEscape d))
    else if c = '\'' then closeQuote text pos opened content use
    else return ⟨pos, .quoted (content ++ [c]) use, opened⟩

/-- The step over a comma or colon to the next index. -/
def nextSlot (chain : Chain) (slot : Slot) : Except Halt State := do
  let pos ← bump text pos
  let pos ← skip text pos
  return ⟨pos, .elements chain (slot.next pos), opened⟩

/-- A turn of the loop over the characters of an index. -/
def stepElements (chain : Chain) (slot : Slot) : Except Halt State := do
  match ← peek text pos with
  | none => .error (.rejected .openIndexer)
  | some c =>
    let number ← cut text slot.start (slot.stop.getD pos)
    if c = ' ' then
      return ⟨← skip text pos, .elements chain { slot with stop := some pos }, opened⟩
    else if c = ']' then
      let pos ← bump text pos
      return ⟨pos, .chain (chain.addElements (← slot.close number)) pos, opened⟩
    else if c = ',' ∧ slot.colons = 0 then
      nextSlot text pos opened chain (← slot.addIndex number)
    else if c = ':' ∧ slot.indexes = none ∧ slot.colons < 2 then
      nextSlot text pos opened chain (← slot.addBound number)
    else if c = '*' ∧ slot.indexes = none ∧ slot.colons = 0 ∧ number = [] then
      closeIndexer text (← bump text pos) opened (chain.addElements (.index none))
    else if Indexer.isIndexChar c ∧ slot.stop = none then
      return ⟨← bump text pos, .elements chain slot, opened⟩
    else .error (.rejected (.unexpected .indexer c))

/-- The step to a side of a comparison: a path, which is a chain of its own, or a literal. -/
def stepSide (query : OpenQuery) : Except Halt State := do
  let _ ← current text pos .openQuery
  let pos ← skip text pos
  match ← current text pos .openQuery with
  | '$' =>
    let pos ← bump text pos
    return ⟨pos, .chain (.start [.root]) pos, query :: opened⟩
  | '@' =>
    let pos ← bump text pos
    return ⟨pos, .chain (.start []) pos, query :: opened⟩
  | '\'' => return ⟨← bump text pos, .quoted [] (.literal query), opened⟩
  | '/' => return ⟨← bump text pos, .pattern pos query, opened⟩
  | c =>
    match Literal.takeScalar? (← rest text pos) with
    | some (value, after) => return ⟨← before text after, .sideRead (.literal value) query, opened⟩
    | none => .error (.rejected (.unexpected .query c))

/-- The step behind a comparison: the query goes on or is closed. -/
def concludeSide (comparison : Expression) (query : OpenQuery) : Except Halt State := do
  let c ← current text pos .openQuery
  match ← rest text pos with
  | ')' :: _ => return ⟨← bump text pos, .closing (query.close comparison) query.chain, opened⟩
  | '&' :: '&' :: after => return ⟨← before text after, .side (query.joinAnd comparison), opened⟩
  | '|' :: '|' :: after => return ⟨← before text after, .side (query.joinOr comparison), opened⟩
  | _ => .error (.rejected (.unexpected .query c))

/-- The step behind a side of a comparison. -/
def stepSideRead (side : Operand) (query : OpenQuery) : Except Halt State := do
  let pos ← skip text pos
  let c ← current text pos .openQuery
  match query.pending with
  | some (left, comparator) =>
    concludeSide text pos opened (.comparison comparator left (some side)) query
  | none =>
    if c = ')' ∨ c = '|' ∨ c = '&' then
      concludeSide text pos opened (.comparison .exists side none) query
    else
      let (comparator, after) ← judge (Comparator.take (← rest text pos))
      let query := { query with pending := some (side, comparator) }
      return ⟨← before text after, .side query, opened⟩

/-- A turn of the loop over the characters of a pattern. -/
def stepPattern (start : Offset) (query : OpenQuery) : Except Halt State := do
  match ← peek text pos with
  | none => .error (.rejected .openPattern)
  | some c =>
    let pos ← bump text pos
    if c = '\\' then return ⟨← bump text pos, .pattern start query, opened⟩
    else if c = '/' then
      let pos ← before text ((← rest text pos).dropWhile isAlphabetic)
      let literal := String.ofList (← cut text start pos)
      return ⟨pos, .sideRead (.literal (.string literal)) query, opened⟩
    else return ⟨pos, .pattern start query, opened⟩

end Steps

/-- A step of the reading, or why it halts. -/
def step (text : String) (state : State) : Except Halt State :=
  match state.phase with
  | .anchor => stepAnchor text state.pos
  | .chain chain start => stepChain text state.pos state.opened chain start
  | .names chain names => stepNames text state.pos state.opened chain names
  | .quoted content use => stepQuoted text state.pos state.opened content use
  | .elements chain slot => stepElements text state.pos state.opened chain slot
  | .side query => stepSide text state.pos state.opened query
  | .sideRead side query => stepSideRead text state.pos state.opened side query
  | .pattern start query => stepPattern text state.pos state.opened start query
  | .closing filter chain => closeIndexer text state.pos state.opened (chain.addQuery filter)

/-- The text that is read: without the white space at either end. -/
def trimmed (text : String) : String := String.ofList (trimBlanks text.toList)

end PathQuery.Path.Cursor
