/-
# The states of an automaton

An expression is searched for by an automaton that reads the encoding of a text byte by byte, either
forwards or backwards.  A `Layout` lists the states of the automaton in the order in which they are
made.  Only their number and the sizes of their links are listed, except for sets of characters,
where states are shared: there it depends on the states before them how many are made.
-/
import PathQuery.Regex.Words

namespace PathQuery.Regex

/-- The direction in which an automaton reads a text. -/
inductive Direction where
  | forwards
  | backwards
deriving DecidableEq, Repr

/-- The states of an automaton, in the order in which they are made. -/
inductive Layout where
  /-- So many states, with so many bytes for their links. -/
  | states (count : Nat) (links : Nat)
  /-- The states for one character, given by sequences of byte ranges. -/
  | characters (sequences : List (List Unicode.ByteRange))
  | both (first second : Layout)
  | copies (count : Nat) (body : Layout)

namespace Layout

/-- One state with one link, which takes no further space. -/
def step : Layout := states 1 0

/-- A state with a link for each of so many ranges of bytes. -/
def byteLinks (count : Nat) : Layout := states 1 (8 * count)

/-- How many bytes a state takes for each way to go on without reading. -/
def waySize : Nat := 4

/-- A state with so many ways to go on without reading. -/
def branch (ways : Nat) : Layout := states 1 (waySize * ways)

/-- The states of two layouts. -/
def join : Layout → Layout → Layout
  | states count links, states count' links' => states (count + count') (links + links')
  | first, second => both first second

/-- So many copies of the states. -/
def times (count : Nat) : Layout → Layout
  | states inner links => states (count * inner) (count * links)
  | body => copies count body

end Layout

open Layout

/-! ## Lists of words

Alternatives that are all literals share the states of what they start with.  Since alternatives
are tried in order, a word that ends within a longer one separates those before it from those after
it, which share nothing beyond its end. -/

/-- The words between those that are empty. -/
def sections : List Word → List (List Word)
  | [] => [[]]
  | [] :: rest => [] :: sections rest
  | word :: rest =>
    match sections rest with
    | first :: others => (word :: first) :: others
    | [] => [[word]]

/-- The words by their first bytes, in the order in which these occur first, without them. -/
def byFirstByte (words : List Word) : List (List Word) :=
  let bytes := (words.filterMap List.head?).eraseDups
  bytes.map fun byte => words.filterMap fun word =>
    match word with
    | first :: rest => if first = byte then some rest else none
    | [] => none

/-- The words with those that are empty at the front reduced to one. -/
def withoutRepeatedEnds : List Word → List Word
  | [] :: rest => [] :: rest.dropWhile List.isEmpty
  | words => words

/-- The states for words with at most `length` bytes after a place, where at least one of them goes
on. -/
def wordStates : (length : Nat) → List Word → Layout
  | 0, _ => states 0 0
  | length + 1, words =>
    let sections := sections (withoutRepeatedEnds words)
    let groups := (sections.map byFirstByte).filter (!·.isEmpty)
    let inner := groups.flatten.filter fun rests => !rests.all List.isEmpty
    let own := groups.map fun group => if group.length = 1 then step else byteLinks group.length
    (inner.map (wordStates length) ++ own).foldl join
      (branch (groups.length + (sections.length - 1)))

/-- The states for the choice between words. -/
def wordList (words : List Word) : Layout :=
  step.join (wordStates ((words.map List.length).foldl max 0) words)

/-! ## Expressions -/

/-- The states for one character of a set: two if all of them are ASCII characters. -/
def setLayout (set : CharSet) : Layout :=
  if set.isAscii then step.join (byteLinks set.ranges.size)
  else characters (Unicode.byteSequences set)

/-- The states of an alternative after `before` others, with those of the choice, which are made
after its second alternative. -/
def alternative (before : Nat) (body : Layout) : Layout :=
  if before = 0 then body
  else if before = 1 then body.join ((branch 2).join step)
  else body.join (states 0 waySize)

/-- The states of a repetition. -/
def iterateLayout (body : Layout) (needsText : Bool) : Nat → Option Nat → Layout
  | 0, none =>
    if needsText then (branch 2).join body
    else body.join ((branch 2).join ((branch 2).join step))
  | least, none => (body.times least).join (branch 2)
  | least, some most =>
    if least = most then body.times least
    else if least = 0 ∧ most = 1 then (branch 2).join (body.join step)
    else
      (if least = 0 then step else body.times least).join
        (step.join (((branch 2).join body).times (most - least)))

/-- The states of an expression that stands after `before` other alternatives of a choice. -/
def layout (direction : Direction) (before : Nat) : Regex → Layout
  | empty => alternative before step
  | literal text => alternative before (states (text.foldl (· + ·.utf8Size) 0) 0)
  | chars set _ => alternative before (setLayout set)
  | look _ => alternative before step
  | seq first second =>
    alternative before <| match direction with
      | .forwards => (first.layout direction 0).join (second.layout direction 0)
      | .backwards => (second.layout direction 0).join (first.layout direction 0)
  | alt first second =>
    match if before = 0 then literals? (alt first second) else none with
    | some texts =>
      let words := texts.map fun text => text.flatMap Unicode.encode
      match direction with
      | .forwards => wordList words
      | .backwards => wordList (words.map List.reverse)
    | none =>
      (alternative before (first.layout direction 0)).join (second.layout direction (before + 1))
  | iterate body least most _ =>
    alternative before
      (iterateLayout (body.layout direction 0) (body.leastLength.any (0 < ·)) least most)
  | group _ body =>
    alternative before <| match direction with
      | .forwards => step.join ((body.layout direction 0).join step)
      | .backwards => body.layout direction 0

/-- The states of the automaton for an expression: those that let it start anywhere, unless the
expression is anchored, those of the expression, those that record where it was found, and the last
one. -/
def automaton (direction : Direction) (expression : Regex) : Layout :=
  let anchored := match direction with
    | .forwards => expression.startsAtTextStart
    | .backwards => expression.endsAtTextFinish
  let entry := if anchored then step else (branch 2).join (step.join (byteLinks 1))
  let body := expression.layout direction 0
  entry.join <| match direction with
    | .forwards => step.join (body.join (step.join step))
    | .backwards => body.join step

end PathQuery.Regex
