/-
# Reading regular expressions

The text of a pattern is read from left to right.  What has been read is a stack of groups that are
still open, each with its flags, the alternatives before its last bar and the items since then.
Flags set within a group last to its end.
-/
import PathQuery.Regex.Matching
import PathQuery.Regex.Set
import PathQuery.Regex.Size
import PathQuery.Number.Numeral

namespace PathQuery.Regex

/-! ## Items and groups -/

/-- An item of a sequence: its expression, how deep it is nested, and whether it can be repeated,
which a change of flags cannot. -/
structure Item where
  expression : Regex
  depth : Nat
  repeatable : Bool

/-- How deep a pattern may be nested. -/
def nestLimit : Nat := 250

/-- The depth of parts that are joined; two parts or more are one level by themselves. -/
def joinedDepth (parts : List Item) : Nat :=
  let depth := (parts.map (·.depth)).foldl max 0
  if parts.length ≥ 2 then depth + 1 else depth

/-- The parts one after the other. -/
def joinSequence (parts : List Item) : Item :=
  ⟨sequence (parts.map (·.expression)), joinedDepth parts, true⟩

/-- Any of the parts. -/
def joinChoice (parts : List Item) : Item :=
  ⟨choice (parts.map (·.expression)), joinedDepth parts, true⟩

/-- A group that is open: its flags, the alternatives that are complete and the items since then,
both with the latest first, and its number if it is remembered. -/
structure OpenGroup where
  flags : Flags
  alternatives : List Item
  items : List Item
  index : Option Nat

namespace OpenGroup

/-- A group that has just been opened. -/
def start (flags : Flags) (index : Option Nat) : OpenGroup := ⟨flags, [], [], index⟩

/-- The group with one more item. -/
def add (group : OpenGroup) (expression : Regex) (depth : Nat) : OpenGroup :=
  { group with items := ⟨expression, depth, true⟩ :: group.items }

/-- The group after a bar. -/
def bar (group : OpenGroup) : OpenGroup :=
  { group with alternatives := joinSequence group.items.reverse :: group.alternatives, items := [] }

/-- What the group describes. -/
def finish (group : OpenGroup) : Item := joinChoice group.bar.alternatives.reverse

/-- The group with its last item repeated; a question mark after the repetition is `isLazy`. -/
def repeatLast (group : OpenGroup) (least : Nat) (most : Option Nat) (isLazy : Bool) :
    Except Error OpenGroup :=
  match group.items with
  | item :: rest =>
    if item.repeatable then
      let longFirst := isLazy == group.flags.preferShort
      .ok { group with
        items := ⟨repeated item.expression least most longFirst, item.depth + 1, true⟩ :: rest }
    else .error .nothingToRepeat
  | [] => .error .nothingToRepeat

end OpenGroup

/-! ## Counts -/

/-- Whether a question mark after a repetition is at the front, which turns around what is
preferred, and the text after it. -/
def takeLazy : List Char → Bool × List Char
  | '?' :: rest => (true, rest)
  | text => (false, text)

/-- The digits at the front without ignored characters between them. -/
def takeCountDigits (ignoreSpace inComment : Bool) : List Char → List Char × List Char
  | [] => ([], [])
  | c :: rest =>
    if inComment then takeCountDigits ignoreSpace (c != '\n') rest
    else if ignoreSpace && isBlank c then takeCountDigits ignoreSpace false rest
    else if ignoreSpace && c == '#' then takeCountDigits ignoreSpace true rest
    else if c.isDigit then
      let (digits, rest) := takeCountDigits ignoreSpace false rest
      (c :: digits, rest)
    else ([], c :: rest)

/-- The number at the front, with white space around it; absent without a digit. -/
def takeCount (flags : Flags) (text : List Char) : Except Error (Option Nat × List Char) :=
  let (digits, rest) := takeCountDigits flags.ignoreSpace false (text.dropWhile isBlank)
  let rest := flags.skip (rest.dropWhile isBlank)
  if digits.isEmpty then .ok (none, rest)
  else if digitsValue digits < 0x100000000 then .ok (some (digitsValue digits), rest)
  else .error .invalidCount

/-- The least and the most repetitions that braces give, the opening one of which has been read, and
the text after them. -/
def takeCounts (flags : Flags) (text : List Char) :
    Except Error ((Nat × Option Nat) × List Char) := do
  let (least, rest) ← takeCount flags (flags.skip text)
  let least ← match least with
    | some least => .ok least
    | none => .error .invalidCount
  let ((least, most), rest) ← match rest with
    | ',' :: rest =>
      match flags.skip rest with
      | '}' :: rest => .ok ((least, none), '}' :: rest)
      | rest => do
        match ← takeCount flags rest with
        | (some most, rest) => .ok ((least, some most), rest)
        | (none, _) => .error .invalidCount
    | rest => .ok ((least, some least), rest)
  match rest with
  | '}' :: rest =>
    if most.any (· < least) then .error .invalidCount
    else .ok ((least, most), flags.skip rest)
  | _ => .error .invalidCount

/-! ## Openings of groups -/

/-- What a parenthesis opens: a group, or a change of flags, which ends at once. -/
inductive Opening where
  | remembered (name : Option (List Char))
  | plain (flags : Flags)
  | directive (flags : Flags)

/-- The flags up to a colon or the closing parenthesis, after those in `seen`; a minus sign clears
the flags after it. -/
def takeFlags (seen : List Char) (flags : Flags) : List Char → Except Error (Opening × List Char)
  | [] => .error .invalidFlags
  | c :: rest =>
    if c = ':' ∨ c = ')' then
      if seen.head? = some '-' then .error .invalidFlags
      else if c = ':' then .ok (.plain flags, rest)
      else if seen = [] then .error .nothingToRepeat
      else .ok (.directive flags, rest)
    else if seen.contains c then .error .invalidFlags
    else if c = '-' then takeFlags (c :: seen) flags rest
    else
      match flags.set? c (!seen.contains '-') with
      | some flags => takeFlags (c :: seen) flags rest
      | none => .error .invalidFlags

/-- Can the character stand in the name of a group? -/
def isNameChar (first : Bool) (c : Char) : Bool :=
  if first then c == '_' || isAlphabetic c
  else c == '_' || c == '.' || c == '[' || c == ']' || isAlphanumeric c

/-- The name of a group up to the closing angle. -/
def takeName (text : List Char) : Except Error (Opening × List Char) :=
  match text.takeWhile (· != '>'), text.dropWhile (· != '>') with
  | c :: name, '>' :: rest =>
    if isNameChar true c && name.all (isNameChar false) then
      .ok (.remembered (some (c :: name)), rest)
    else .error .invalidGroupName
  | _, _ => .error .invalidGroupName

/-- The opening of a group after its parenthesis. -/
def takeOpening (flags : Flags) (text : List Char) : Except Error (Opening × List Char) :=
  match flags.skip text with
  | '?' :: '=' :: _ | '?' :: '!' :: _ | '?' :: '<' :: '=' :: _ | '?' :: '<' :: '!' :: _ =>
    .error .lookAround
  | '?' :: 'P' :: '<' :: rest | '?' :: '<' :: rest => takeName rest
  | '?' :: rest => takeFlags [] flags rest
  | rest => .ok (.remembered none, rest)

/-! ## Moves -/

/-- What has been read of a pattern: the innermost open group, the groups around it, innermost
first, the names of groups so far and how many groups are remembered. -/
structure Reading where
  group : OpenGroup
  around : List OpenGroup
  names : List (List Char)
  groupCount : Nat

namespace Reading

/-- Nothing has been read. -/
def start : Reading := ⟨.start .initial none, [], [], 0⟩

/-- The pattern with one more item. -/
def add (reading : Reading) (expression : Regex) (depth : Nat) : Reading :=
  { reading with group := reading.group.add expression depth }

/-- The pattern after the opening of a group. -/
def «open» (reading : Reading) : Opening → Except Error Reading
  | .remembered name =>
    let index := reading.groupCount + 1
    if name.any reading.names.contains then .error .repeatedGroupName
    else .ok ⟨.start reading.group.flags (some index), reading.group :: reading.around,
      name.toList ++ reading.names, index⟩
  | .plain flags =>
    .ok { reading with group := .start flags none, around := reading.group :: reading.around }
  | .directive flags =>
    .ok { reading with group := { reading.group with
      flags := flags, items := ⟨.empty, 0, false⟩ :: reading.group.items } }

/-- The pattern after a closing parenthesis. -/
def close (reading : Reading) : Except Error Reading :=
  match reading.around with
  | [] => .error .unopenedGroup
  | outer :: around =>
    let item := reading.group.finish
    let expression := match reading.group.index with
      | some index => .group index item.expression
      | none => item.expression
    .ok { reading with group := outer.add expression (item.depth + 1), around := around }

/-- The expression of the whole pattern. -/
def finish (reading : Reading) : Except Error Regex :=
  if !reading.around.isEmpty then .error .unclosedGroup
  else if reading.group.finish.depth > nestLimit then .error .tooDeep
  else .ok reading.group.finish.expression

/-- The pattern with its last item repeated, and the text after the repetition. -/
def repeatLast (reading : Reading) (least : Nat) (most : Option Nat) (text : List Char) :
    Except Error (Reading × List Char) := do
  let (isLazy, rest) := takeLazy text
  let group ← reading.group.repeatLast least most isLazy
  .ok ({ reading with group := group }, rest)

/-- The pattern with an escape. -/
def addAtom (reading : Reading) : Atom → Except Error Reading
  | .char c isByte =>
    if !reading.group.flags.unicode ∧ isByte ∧ 128 ≤ c.toNat then .error .splitsCharacter
    else .ok (reading.add (reading.group.flags.literal c) 0)
  | .set members => .ok (reading.add (reading.group.flags.oneOf members) 0)
  | .look condition => .ok (reading.add (.look condition) 0)

/-- The move at the front of a text. -/
def move (reading : Reading) (text : List Char) :
    Except Error ((Reading ⊕ Regex) × List Char) := do
  let flags := reading.group.flags
  let goOn (reading : Reading) (rest : List Char) :
      Except Error ((Reading ⊕ Regex) × List Char) := .ok (.inl reading, rest)
  let repeatWith (least : Nat) (most : Option Nat) (rest : List Char) :
      Except Error ((Reading ⊕ Regex) × List Char) := do
    let (reading, rest) ← reading.repeatLast least most rest
    goOn reading rest
  match flags.skip text with
  | [] => do
    let expression ← reading.finish
    .ok (.inr expression, [])
  | c :: rest =>
    match c with
    | '(' => do
      let (opening, rest) ← takeOpening flags rest
      goOn (← reading.open opening) rest
    | ')' => do goOn (← reading.close) rest
    | '|' => goOn { reading with group := reading.group.bar } rest
    | '[' => do
      let ((members, depth), rest) ← takeSet flags rest
      goOn (reading.add (flags.oneOf members) depth) rest
    | '?' => repeatWith 0 (some 1) rest
    | '*' => repeatWith 0 none rest
    | '+' => repeatWith 1 none rest
    | '{' => do
      let ((least, most), rest) ← takeCounts flags rest
      repeatWith least most rest
    | '\\' => do
      let (atom, rest) ← takeEscape flags rest
      goOn (← reading.addAtom atom) rest
    | '.' => do goOn (reading.add (flags.oneOf (← flags.dot)) 0) rest
    | '^' => goOn (reading.add (.look flags.caret) 0) rest
    | '$' => goOn (reading.add (.look flags.dollar) 0) rest
    | c => goOn (reading.add (flags.literal c) 0) rest

end Reading

/-- The regular expression that a text spells, if it is not too large. -/
def read (text : List Char) : Except Error Regex := do
  let (expression, _) ← moveAll Reading.move .start text
  match expression.searchable? with
  | some expression => .ok expression
  | none => .error .tooLarge

end PathQuery.Regex
