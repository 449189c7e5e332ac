/-
# Reading paths

A text is read from left to right.  What has been read so far is a chain of steps, or a stack of
queries that are still open with a chain inside the innermost one.  Each move reads one part of the
text: a name, a dot or two, an indexer, a literal, a comparator, a connective or a space.  Every
move leaves a shorter text, so the reading ends.

Within a query the characters of comparators and connectives end a name; outside they are part of
it.
-/
import PathQuery.Path.Indexer
import PathQuery.Path.Literal
import PathQuery.Path.Step

namespace PathQuery

namespace Path

/-! ## Chains of steps -/

/-- What was read last. -/
inductive Place where
  /-- The opening of the chain or a name. -/
  | open
  | dot
  | indexer
deriving DecidableEq, Repr

/-- The steps read so far, whether two dots stand before the next one, and what was read last. -/
structure Chain where
  steps : Path
  scanning : Bool
  place : Place

namespace Chain

/-- A chain that starts with the given steps. -/
def start (steps : Path) : Chain := ⟨steps, false, .open⟩

/-- The chain with one more dot, or two. -/
def addDots (chain : Chain) (two : Bool) : Chain :=
  { chain with scanning := chain.scanning || two, place := .dot }

/-- The chain with a plain name, in which a star stands for all names. -/
def addName (chain : Chain) (word : List Char) : Chain :=
  let name := if word = ['*'] then none else some (String.ofList word)
  ⟨chain.steps ++ [if chain.scanning then .scan name else .field name], false, .open⟩

/-- The step to quoted names: a step of its own for a single name. -/
def namesStep (scanning : Bool) : List String → Step
  | [name] => if scanning then .scan (some name) else .field (some name)
  | names => if scanning then .scanFields names else .fields names

/-- The chain with an indexer of quoted names. -/
def addNames (chain : Chain) (names : List String) : Chain :=
  ⟨chain.steps ++ [namesStep chain.scanning names], false, .indexer⟩

/-- The chain with an indexer of elements; after two dots it applies to every node of a scan. -/
def addElements (chain : Chain) (step : Step) : Chain :=
  ⟨chain.steps ++ (if chain.scanning then [.scan none, step] else [step]), false, .indexer⟩

/-- The chain with a query. -/
def addQuery (chain : Chain) (filter : Expression) : Chain :=
  ⟨chain.steps ++ [if chain.scanning then .queryScan filter else .query filter], false, .indexer⟩

end Chain

/-- Does the character end a chain of steps? -/
def endsChain (inQuery : Bool) (c : Char) : Bool :=
  c == ']' || c == ')' || c == ' ' ||
    (inQuery && (c == '=' || c == '<' || c == '!' || c == '>' || c == '|' || c == '&'))

/-- Can the character stand in a plain name? -/
def isNameChar (inQuery : Bool) (c : Char) : Bool :=
  !(c == '.' || c == '[' || endsChain inQuery c)

/-! ## Open queries -/

/-- A query whose expression is being read: the chain that it will be added to, the alternatives
before the last `||`, the comparisons since then, and the left side and comparator of the comparison
being read, if its right side is next. -/
structure OpenQuery where
  chain : Chain
  alternatives : List Expression
  conjunction : List Expression
  pending : Option (Operand × Comparator)

/-- The expressions joined by a connective; a single one stands for itself. -/
def combine (connective : Connective) : List Expression → Expression
  | [single] => single
  | parts => .composite connective parts

namespace OpenQuery

/-- A query that has just been opened. -/
def start (chain : Chain) : OpenQuery := ⟨chain, [], [], none⟩

/-- The query after a comparison and `&&`. -/
def joinAnd (query : OpenQuery) (comparison : Expression) : OpenQuery :=
  { query with conjunction := query.conjunction ++ [comparison], pending := none }

/-- The query after a comparison and `||`. -/
def joinOr (query : OpenQuery) (comparison : Expression) : OpenQuery :=
  { query with
    alternatives := query.alternatives ++ [combine .and (query.conjunction ++ [comparison])]
    conjunction := []
    pending := none }

/-- The expression of the query after its last comparison. -/
def close (query : OpenQuery) (comparison : Expression) : Expression :=
  combine .or (query.alternatives ++ [combine .and (query.conjunction ++ [comparison])])

end OpenQuery

/-! ## Moves -/

/-- What has been read of a text and what may come next. -/
inductive Progress where
  /-- Steps of a chain, in the innermost open query if there is one. -/
  | steps (chain : Chain) (opened : List OpenQuery)
  /-- An operand has to come. -/
  | operand (query : OpenQuery) (opened : List OpenQuery)
  /-- An operand is complete. -/
  | operandRead (side : Operand) (query : OpenQuery) (opened : List OpenQuery)
  /-- An expression is complete, its parenthesis closed; the bracket has to come. -/
  | closing (filter : Expression) (chain : Chain) (opened : List OpenQuery)

namespace Progress

/-- A move within a chain, at a character that does not end it. -/
def extend (chain : Chain) (opened : List OpenQuery) (c : Char) (rest : List Char) :
    Except SyntaxError (Progress × List Char) :=
  if c = '[' then do
    match ← Indexer.take rest with
    | (.names names, rest) => .ok (.steps (chain.addNames names) opened, rest)
    | (.elements step, rest) => .ok (.steps (chain.addElements step) opened, rest)
    | (.query, rest) => .ok (.operand (.start chain) opened, rest)
  else if c = '.' then
    match rest with
    | '.' :: rest => .ok (.steps (chain.addDots true) opened, rest)
    | rest => .ok (.steps (chain.addDots false) opened, rest)
  else if chain.place = .indexer then .error (.unexpected .afterIndexer c)
  else
    let inName := isNameChar (!opened.isEmpty)
    .ok (.steps (chain.addName (c :: rest.takeWhile inName)) opened, rest.dropWhile inName)

/-- A move after a comparison: the query is closed or goes on. -/
def conclude (comparison : Expression) (query : OpenQuery) (opened : List OpenQuery) (c : Char)
    (rest : List Char) : Except SyntaxError (Progress × List Char) :=
  match c, rest with
  | ')', rest => .ok (.closing (query.close comparison) query.chain opened, rest)
  | '&', '&' :: rest => .ok (.operand (query.joinAnd comparison) opened, rest)
  | '|', '|' :: rest => .ok (.operand (query.joinOr comparison) opened, rest)
  | c, _ => .error (.unexpected .query c)

/-- A move after an operand: it is the right side of a comparison, the left side of one that goes
on, or a comparison by itself. -/
def compare (side : Operand) (query : OpenQuery) (opened : List OpenQuery) (c : Char)
    (rest : List Char) : Except SyntaxError (Progress × List Char) :=
  if c = ' ' then .ok (.operandRead side query opened, rest)
  else
    match query.pending with
    | some (left, comparator) =>
      conclude (.comparison comparator left (some side)) query opened c rest
    | none =>
      if c = ')' ∨ c = '|' ∨ c = '&' then
        conclude (.comparison .exists side none) query opened c rest
      else do
        let (comparator, rest) ← Comparator.take (c :: rest)
        .ok (.operand { query with pending := some (side, comparator) } opened, rest)

/-- The move at a character with the text after it. -/
def advance (progress : Progress) (c : Char) (rest : List Char) :
    Except SyntaxError (Progress × List Char) :=
  match progress with
  | .steps chain [] =>
    if endsChain false c then .error (.unexpected .path c) else extend chain [] c rest
  | .steps chain (query :: opened) =>
    if endsChain true c then
      if chain.place = .dot then .error .unexpectedEnd
      else compare (.path chain.steps) query opened c rest
    else extend chain (query :: opened) c rest
  | .operand query opened =>
    if c = ' ' then .ok (.operand query opened, rest)
    else if c = '$' then .ok (.steps (.start [.root]) (query :: opened), rest)
    else if c = '@' then .ok (.steps (.start []) (query :: opened), rest)
    else do
      let (value, rest) ← Literal.take (c :: rest)
      .ok (.operandRead (.literal value) query opened, rest)
  | .operandRead side query opened => compare side query opened c rest
  | .closing filter chain opened =>
    if c = ' ' then .ok (.closing filter chain opened, rest)
    else if c = ']' then .ok (.steps (chain.addQuery filter) opened, rest)
    else .error (.unexpected .indexer c)

/-- The steps, if the text may end here. -/
def finish : Progress → Except SyntaxError Path
  | .steps chain opened =>
    if chain.place = .dot then .error .unexpectedEnd
    else if opened.isEmpty then .ok chain.steps
    else .error .openQuery
  | .operand .. | .operandRead .. => .error .openQuery
  | .closing .. => .error .openIndexer

/-! ## Every move leaves a shorter text -/

theorem length_le_of_extend_eq_ok {chain : Chain} {opened : List OpenQuery} {c : Char}
    {rest after : List Char} {next : Progress}
    (moved : extend chain opened c rest = .ok (next, after)) : after.length ≤ rest.length := by
  unfold extend at moved
  split at moved
  · obtain ⟨⟨indexer, last⟩, taken, moved⟩ := bind_eq_ok.1 moved
    have shorter := Indexer.length_of_take_eq_ok taken
    cases indexer <;>
    · obtain ⟨-, rfl⟩ := Prod.mk.inj (Except.ok.inj moved)
      exact Nat.le_of_lt shorter
  · split at moved
    · split at moved <;>
      · obtain ⟨-, rfl⟩ := Prod.mk.inj (Except.ok.inj moved)
        simp
    · split at moved
      · simp at moved
      · obtain ⟨-, rfl⟩ := Prod.mk.inj (Except.ok.inj moved)
        exact (List.dropWhile_sublist _).length_le

theorem length_le_of_conclude_eq_ok {comparison : Expression} {query : OpenQuery}
    {opened : List OpenQuery} {c : Char} {rest after : List Char} {next : Progress}
    (moved : conclude comparison query opened c rest = .ok (next, after)) :
    after.length ≤ rest.length := by
  unfold conclude at moved
  split at moved
  all_goals simp only [Except.ok.injEq, Prod.mk.injEq, reduceCtorEq] at moved
  all_goals obtain ⟨-, rfl⟩ := moved
  all_goals simp

theorem length_le_of_compare_eq_ok {side : Operand} {query : OpenQuery} {opened : List OpenQuery}
    {c : Char} {rest after : List Char} {next : Progress}
    (moved : compare side query opened c rest = .ok (next, after)) :
    after.length ≤ rest.length := by
  unfold compare at moved
  split at moved
  · obtain ⟨-, rfl⟩ := Prod.mk.inj (Except.ok.inj moved)
    exact Nat.le_refl _
  · split at moved
    · exact length_le_of_conclude_eq_ok moved
    · split at moved
      · exact length_le_of_conclude_eq_ok moved
      · obtain ⟨⟨comparator, last⟩, taken, moved⟩ := bind_eq_ok.1 moved
        obtain ⟨-, rfl⟩ := Prod.mk.inj (Except.ok.inj moved)
        exact Nat.le_of_lt_succ (Comparator.length_of_take_eq_ok taken)

theorem length_le_of_advance_eq_ok {progress next : Progress} {c : Char} {rest after : List Char}
    (moved : progress.advance c rest = .ok (next, after)) : after.length ≤ rest.length := by
  unfold advance at moved
  split at moved
  · split at moved
    · simp at moved
    · exact length_le_of_extend_eq_ok moved
  · split at moved
    · split at moved
      · simp at moved
      · exact length_le_of_compare_eq_ok moved
    · exact length_le_of_extend_eq_ok moved
  · split at moved
    · obtain ⟨-, rfl⟩ := Prod.mk.inj (Except.ok.inj moved)
      exact Nat.le_refl _
    · split at moved
      · obtain ⟨-, rfl⟩ := Prod.mk.inj (Except.ok.inj moved)
        exact Nat.le_refl _
      · split at moved
        · obtain ⟨-, rfl⟩ := Prod.mk.inj (Except.ok.inj moved)
          exact Nat.le_refl _
        · obtain ⟨⟨value, last⟩, taken, moved⟩ := bind_eq_ok.1 moved
          obtain ⟨-, rfl⟩ := Prod.mk.inj (Except.ok.inj moved)
          exact Nat.le_of_lt_succ (Literal.length_of_take_eq_ok taken)
  · exact length_le_of_compare_eq_ok moved
  · split at moved
    · obtain ⟨-, rfl⟩ := Prod.mk.inj (Except.ok.inj moved)
      exact Nat.le_refl _
    · split at moved
      · obtain ⟨-, rfl⟩ := Prod.mk.inj (Except.ok.inj moved)
        exact Nat.le_refl _
      · simp at moved

/-- Moves to the end of a text. -/
def run (progress : Progress) (text : List Char) : Except SyntaxError Path :=
  match text with
  | [] => progress.finish
  | c :: rest =>
    match moved : progress.advance c rest with
    | .error cause => .error cause
    | .ok (next, after) =>
      have := length_le_of_advance_eq_ok moved
      run next after
termination_by text.length
decreasing_by exact Nat.lt_succ_of_le this

end Progress

/-! ## Whole texts -/

/-- The text without a leading `$` that stands for the root: one that is all of the text or comes
before a dot or an indexer. -/
def dropAnchor : List Char → List Char
  | ['$'] => []
  | '$' :: '.' :: rest => '.' :: rest
  | '$' :: '[' :: rest => '[' :: rest
  | text => text

/-- The path that a text spells, white space at either end aside. -/
def read (text : String) : Except SyntaxError Path :=
  Progress.run (.steps (.start []) []) (dropAnchor (trimBlanks text.toList))

end Path

end PathQuery
