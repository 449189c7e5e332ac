/-
# Sets in brackets

A set lists characters, ranges, escapes, named ASCII sets and further sets in brackets.  Lists may
be joined by the operations `&&`, `--` and `~~`, which group to the left.  What has been read of a
set is a list of items and a stack of what is around it: sets that are open and operations that wait
for their right side.
-/
import PathQuery.Regex.Escape

namespace PathQuery.Regex

/-! ## Repeated moves -/

/-- Repeats a move, which reads a part of the text, until it gives a result.  Every move reads at
least one character, so one move more than there are characters is enough. -/
def moveOn {State Result : Type}
    (move : State → List Char → Except Error ((State ⊕ Result) × List Char)) :
    Nat → State → List Char → Except Error (Result × List Char)
  | 0, _, _ => .error .tooDeep
  | fuel + 1, state, text => do
    match ← move state text with
    | (.inl next, rest) => moveOn move fuel next rest
    | (.inr result, rest) => .ok (result, rest)

/-- Repeats a move from a state until it gives a result. -/
def moveAll {State Result : Type}
    (move : State → List Char → Except Error ((State ⊕ Result) × List Char)) (state : State)
    (text : List Char) : Except Error (Result × List Char) :=
  moveOn move (text.length + 1) state text

/-! ## Named ASCII sets -/

/-- The ASCII set with a name. -/
def asciiSet? (name : List Char) : Option CharSet :=
  match String.ofList name with
  | "alnum" => some (.unions [.range '0' '9', .range 'A' 'Z', .range 'a' 'z'])
  | "alpha" => some (.unions [.range 'A' 'Z', .range 'a' 'z'])
  | "ascii" => some (.range '\x00' '\x7f')
  | "blank" => some (.ofChars ['\t', ' '])
  | "cntrl" => some (.unions [.range '\x00' '\x1f', .singleton '\x7f'])
  | "digit" => some (.range '0' '9')
  | "graph" => some (.range '!' '~')
  | "lower" => some (.range 'a' 'z')
  | "print" => some (.range ' ' '~')
  | "punct" => some (.unions [.range '!' '/', .range ':' '@', .range '[' (Char.ofNat 96),
      .range '\x7b' '~'])
  | "space" => some (.unions [.range '\t' '\r', .singleton ' '])
  | "upper" => some (.range 'A' 'Z')
  | "word" => some (.unions [.range '0' '9', .range 'A' 'Z', .range 'a' 'z', .singleton '_'])
  | "xdigit" => some (.unions [.range '0' '9', .range 'A' 'F', .range 'a' 'f'])
  | _ => none

/-- A named ASCII set whose first bracket has been read, whether it is negated, and what follows. -/
def takeAsciiSet? (text : List Char) : Option (CharSet × Bool × List Char) :=
  match text with
  | ':' :: rest =>
    let (negated, rest) := match rest with
      | '^' :: rest => (true, rest)
      | rest => (false, rest)
    match rest.dropWhile (· != ':') with
    | ':' :: ']' :: after =>
      (asciiSet? (rest.takeWhile (· != ':'))).map fun members => (members, negated, after)
    | _ => none
  | _ => none

/-! ## Items -/

/-- The items of a list: their characters, how many they are, and how deep brackets and operations
are nested in them. -/
structure Items where
  sets : List CharSet
  depth : Nat

namespace Items

/-- No items. -/
def none : Items := ⟨[], 0⟩

/-- The items with one more. -/
def add (items : Items) (members : CharSet) (depth : Nat) : Items :=
  ⟨members :: items.sets, max items.depth depth⟩

/-- The characters of all items. -/
def members (items : Items) : CharSet :=
  match items.sets with
  | [single] => single
  | sets => .unions sets

/-- How deep the list is nested; two items or more are one level by themselves. -/
def nesting (items : Items) : Nat :=
  if items.sets.length ≥ 2 then items.depth + 1 else items.depth

end Items

/-- The set of one character of a list. -/
def Flags.member (flags : Flags) (c : Char) (isByte : Bool) : Except Error CharSet :=
  if flags.unicode ∨ c.toNat < 128 then .ok (.singleton c)
  else .error (if isByte ∧ c.toNat < 256 then .splitsCharacter else .needsUnicode)

/-- The set that one item denotes. -/
def Flags.atomMembers (flags : Flags) : Atom → Except Error CharSet
  | .char c isByte => flags.member c isByte
  | .set members => .ok members
  | .look _ => .error .notInSet

/-- A character or an escape in a list. -/
def takeAtom (flags : Flags) : List Char → Except Error (Atom × List Char)
  | [] => .error .unclosedSet
  | '\\' :: rest => takeEscape flags rest
  | c :: rest => .ok (.char c false, rest)

/-- The range between two items. -/
def rangeMembers (flags : Flags) : Atom → Atom → Except Error CharSet
  | .char first firstIsByte, .char last lastIsByte => do
    let _ ← flags.member first firstIsByte
    let _ ← flags.member last lastIsByte
    if first ≤ last then .ok (.range first last) else .error .invalidRange
  | _, _ => .error .invalidRange

/-- The character that decides whether a hyphen before the text makes a range.  Of a comment only
its sign is looked past. -/
def deciding? (flags : Flags) (text : List Char) : Option Char :=
  if !flags.ignoreSpace then text.head?
  else
    match text.dropWhile isBlank with
    | '#' :: rest => (rest.dropWhile isBlank).head?
    | rest => rest.head?

/-- Does a hyphen before the text make a range?  It does not before the end of the list or before
another hyphen. -/
def makesRange (flags : Flags) (text : List Char) : Bool :=
  deciding? flags text != some ']' && deciding? flags text != some '-'

/-- An item or a range at the front of a text. -/
def takeRange (flags : Flags) (text : List Char) : Except Error (CharSet × List Char) := do
  let (first, rest) ← takeAtom flags text
  match flags.skip rest with
  | [] => .error .unclosedSet
  | '-' :: after =>
    if makesRange flags after then do
      let (last, rest) ← takeAtom flags (flags.skip after)
      let members ← rangeMembers flags first last
      .ok (members, rest)
    else do
      let members ← flags.atomMembers first
      .ok (members, '-' :: after)
  | rest => do
    let members ← flags.atomMembers first
    .ok (members, rest)

/-! ## Sets -/

/-- An operation on sets. -/
inductive SetOperation where
  | intersection
  | difference
  | symmetricDifference

/-- The result of an operation. -/
def SetOperation.apply : SetOperation → CharSet → CharSet → CharSet
  | intersection => .inter
  | difference => .diff
  | symmetricDifference => .symmDiff

/-- What is around the items being read: a set, with the items before it in the set around it, or an
operation with its left side. -/
inductive Surrounding where
  | set (negated : Bool) (before : Items)
  | operation (kind : SetOperation) (left : CharSet) (depth : Nat)

/-- What has been read of a set. -/
structure OpenSet where
  items : Items
  around : List Surrounding

namespace OpenSet

/-- The characters and the nesting of the operand that ends here, joined to the left side of an
operation that waits for it, and what is around them. -/
def endOperand (flags : Flags) (state : OpenSet) : CharSet × Nat × List Surrounding :=
  let members := state.items.members
  let depth := state.items.nesting
  match state.around with
  | .operation kind left leftDepth :: around =>
    (kind.apply (flags.fold left) (flags.fold members), max leftDepth depth + 1, around)
  | around => (members, depth, around)

/-- The set after an operation sign. -/
def operate (flags : Flags) (state : OpenSet) (kind : SetOperation) : OpenSet :=
  let (members, depth, around) := state.endOperand flags
  ⟨.none, .operation kind members depth :: around⟩

/-- A set whose bracket has just been read, up to the literal hyphens and bracket at its front. -/
def start (flags : Flags) (around : OpenSet) (text : List Char) :
    Except Error (OpenSet × List Char) := do
  let (negated, text) := match flags.skip text with
    | '^' :: rest => (true, flags.skip rest)
    | rest => (false, rest)
  let (items, text) := hyphens flags .none text.length text
  let (items, text) := match items.sets, text with
    | [], ']' :: rest => (items.add (.singleton ']') 0, flags.skip rest)
    | _, text => (items, text)
  if text.isEmpty then .error .unclosedSet
  else .ok (⟨items, .set negated around.items :: around.around⟩, text)
where
  /-- The hyphens at the front as items, at most so many. -/
  hyphens (flags : Flags) (items : Items) : Nat → List Char → Items × List Char
    | fuel + 1, '-' :: rest =>
      hyphens flags (items.add (.singleton '-') 0) fuel (flags.skip rest)
    | _, text => (items, text)

/-- The set after its closing bracket: an item of the set around it, or the result. -/
def close (flags : Flags) (state : OpenSet) : Except Error (OpenSet ⊕ (CharSet × Nat)) :=
  let (members, depth, around) := state.endOperand flags
  match around with
  | .set negated before :: around => do
    let members ← flags.negate negated (flags.fold members)
    if around.isEmpty then .ok (.inr (members, depth + 1))
    else .ok (.inl ⟨before.add members (depth + 1), around⟩)
  | _ => .error .unclosedSet

/-- The move at the front of a text. -/
def move (flags : Flags) (state : OpenSet) (text : List Char) :
    Except Error ((OpenSet ⊕ (CharSet × Nat)) × List Char) :=
  match flags.skip text with
  | [] => .error .unclosedSet
  | '[' :: rest =>
    match takeAsciiSet? rest with
    | some (members, negated, rest) => do
      let members ← flags.negate negated (flags.fold members)
      .ok (.inl { state with items := state.items.add members 0 }, rest)
    | none => do
      let (inner, rest) ← start flags state rest
      .ok (.inl inner, rest)
  | ']' :: rest => do
    let next ← state.close flags
    .ok (next, rest)
  | '&' :: '&' :: rest => .ok (.inl (state.operate flags .intersection), rest)
  | '-' :: '-' :: rest => .ok (.inl (state.operate flags .difference), rest)
  | '~' :: '~' :: rest => .ok (.inl (state.operate flags .symmetricDifference), rest)
  | text => do
    let (members, rest) ← takeRange flags text
    .ok (.inl { state with items := state.items.add members 0 }, rest)

end OpenSet

/-- The set whose opening bracket has been read, and how deep it is nested. -/
def takeSet (flags : Flags) (text : List Char) : Except Error ((CharSet × Nat) × List Char) := do
  let (state, rest) ← OpenSet.start flags ⟨.none, []⟩ text
  moveAll (OpenSet.move flags) state rest

end PathQuery.Regex
