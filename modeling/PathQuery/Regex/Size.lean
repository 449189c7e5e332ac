/-
# The size of an expression

An expression is refused if its automaton takes too much memory, in either direction, unless no
automaton is needed.  The states of a layout are counted in the order in which they are made.  The
states for a set of characters share equal ends of encodings as far as a table remembers them.  The
table has a fixed number of places; a state is kept at the place that the hash of its links gives,
where it replaces the one before.
-/
import PathQuery.Regex.Layout

namespace PathQuery.Regex

open Unicode (ByteRange)

/-- The size of one state, in bytes. -/
def stateSize : Nat := 32

/-- The largest size that is accepted: ten mebibytes. -/
def sizeLimit : Nat := 10 * 0x100000

/-! ## Counting states -/

/-- The states counted so far, the bytes of their links, and the table of states that can be shared:
their links and their numbers. -/
structure Tally where
  states : Nat
  links : Nat
  table : Array (List Nat × Nat)

namespace Tally

/-- How many states the table remembers. -/
def places : Direction → Nat
  | .forwards => 10000
  | .backwards => 1000

/-- Nothing has been counted. -/
def start (direction : Direction) : Tally := ⟨0, 0, Array.replicate (places direction) ([], 0)⟩

/-- The tally with some more states, unless they are too many. -/
def add (tally : Tally) (states links : Nat) : Option Tally :=
  let states := tally.states + states
  let links := tally.links + links
  if stateSize * states + links ≤ sizeLimit then some ⟨states, links, tally.table⟩ else none

/-- The hash of a list of numbers (FNV-1a). -/
def hash (key : List Nat) : UInt64 :=
  key.foldl (fun hash word => (hash ^^^ word.toUInt64) * 1099511628211) 14695981039346656037

/-- The number of a state with the given links, made after the state `base`: one that the table
remembers or a new one. -/
def share (tally : Tally) (base : Nat) (key : List Nat) (links : Nat) : Option (Nat × Tally) :=
  let place := (hash key).toNat % tally.table.size
  let (known, state) := tally.table.getD place ([], 0)
  if base < state ∧ known = key then some (state, tally)
  else
    let state := tally.states
    match tally.add 1 links with
    | some ⟨states, links, table⟩ =>
      some (state, ⟨states, links, table.setIfInBounds place (key, state)⟩)
    | none => none

end Tally

/-! ## Characters, forwards -/

/-- A state that may still get links: the numbers that describe its finished links, the latest
first, and the range of bytes of the next one. -/
structure OpenState where
  links : List Nat
  range : ByteRange

/-- The links with the open one finished, which goes to the state `next`. -/
def OpenState.finish (state : OpenState) (next : Nat) : List Nat :=
  next :: state.range.last :: state.range.first :: state.links

/-- The number of the first one of some open states, of which each leads to the one after it and the
last one to the state `base`, when nothing is added to them any more. -/
def closeStates (base : Nat) : List OpenState → Tally → Option (Nat × Tally)
  | [], tally => some (base, tally)
  | state :: deeper, tally => do
    let (next, tally) ← closeStates base deeper tally
    let links := (state.finish next).reverse
    tally.share base links (8 * (links.length / 3))

/-- The open states after one more sequence of byte ranges, which shares those that it has in common
with the sequence before it. -/
def addSequence (base : Nat) : List OpenState → List ByteRange → Tally →
    Option (List OpenState × Tally)
  | [], ranges, tally => some (ranges.map fun range => ⟨[], range⟩, tally)
  | _ :: _, [], tally => some ([], tally)
  | state :: deeper, range :: ranges, tally =>
    if state.range = range then do
      let (deeper, tally) ← addSequence base deeper ranges tally
      return (state :: deeper, tally)
    else do
      let (next, tally) ← closeStates base deeper tally
      return (⟨state.finish next, range⟩ :: ranges.map fun range => ⟨[], range⟩, tally)

/-- The tally with the states for one character, read forwards. -/
def Tally.addForwards (tally : Tally) (sequences : List (List ByteRange)) : Option Tally := do
  let base := tally.states
  let tally ← tally.add 1 0
  let (states, tally) ← sequences.foldlM
    (fun (states, tally) ranges => addSequence base states ranges tally) ([], tally)
  let (_, tally) ← closeStates base states tally
  return tally

/-! ## Characters, backwards -/

/-- The tally with the states for one character, read backwards: a way for each sequence of byte
ranges, which shares the states that follow. -/
def Tally.addBackwards (tally : Tally) (sequences : List (List ByteRange)) : Option Tally := do
  let base := tally.states + 1
  let tally ← tally.add 2 0
  sequences.foldlM (fun tally ranges => do
    let (_, tally) ← ranges.foldlM
      (fun (next, tally) range => tally.share base [next, range.first, range.last] 0) (base, tally)
    tally.add 0 Layout.waySize) tally

/-! ## Layouts -/

/-- A step repeated so many times, as long as it succeeds. -/
def repeatedly (step : Tally → Option Tally) : Nat → Tally → Option Tally
  | 0, tally => some tally
  | count + 1, tally =>
    match step tally with
    | some tally => repeatedly step count tally
    | none => none

/-- The tally with the states of a layout. -/
def Layout.tally (direction : Direction) : Layout → Tally → Option Tally
  | states count links, tally => tally.add count links
  | characters sequences, tally =>
    match direction with
    | .forwards => tally.addForwards sequences
    | .backwards => tally.addBackwards sequences
  | both first second, tally =>
    match first.tally direction tally with
    | some tally => second.tally direction tally
    | none => none
  | copies count body, tally => repeatedly (body.tally direction) count tally

/-- Is the automaton for the expression small enough? -/
def fits (direction : Direction) (expression : Regex) : Bool :=
  ((expression.automaton direction).tally direction (.start direction)).isSome

/-- The expression in the form in which it is searched for.  If the automata for both directions are
small enough, it is searched for as it is, else at most word by word. -/
def searchable? (expression : Regex) : Option Regex :=
  if expression.fits .forwards && expression.fits .backwards then some expression
  else expression.wordSearch?.map fun texts => ofAlternatives (texts.map literal)

end PathQuery.Regex
