/-
# What can be wrong with the text of a path

Each way in which a text fails to be a path is a cause of its own; `SyntaxError.message` words them.
-/

namespace PathQuery

/-- The part of a path in which a character was not expected. -/
inductive SyntaxError.Place where
  | path
  | indexer
  | query
  | afterIndexer
deriving DecidableEq, Repr

/-- What is wrong with the text of a path. -/
inductive SyntaxError where
  /-- The text ends within the brackets of an indexer. -/
  | openIndexer
  /-- The text ends within a query. -/
  | openQuery
  /-- The text ends within a quoted name or string. -/
  | openString
  /-- The text ends within a pattern. -/
  | openPattern
  /-- A name has to follow a dot, and none does. -/
  | unexpectedEnd
  | unexpected (place : SyntaxError.Place) (c : Char)
  | unknownEscape (c : Char)
  /-- No digit where an index has to stand. -/
  | indexExpected
  | invalidIndex (digits : List Char)
  /-- No comparator where one has to stand. -/
  | unreadableComparator
deriving DecidableEq, Repr

namespace SyntaxError

/-- The words for a part of a path. -/
def Place.words : Place → String
  | path => "while parsing path"
  | indexer => "while parsing path indexer"
  | query => "while parsing path query"
  | afterIndexer => "following indexer"

/-- The message for a cause. -/
def message : SyntaxError → String
  | openIndexer => "Path ended with open indexer."
  | openQuery => "Path ended with open query."
  | openString => "Path ended with open string."
  | openPattern => "Path ended with an open regex."
  | unexpectedEnd => "Unexpected end while parsing path."
  | unexpected place c => "Unexpected character " ++ place.words ++ ": " ++ String.singleton c
  | unknownEscape c => "Unknown escape character: \\" ++ String.singleton c
  | indexExpected => "Array index expected."
  | invalidIndex digits => "Invalid array index: " ++ String.ofList digits
  | unreadableComparator => "Could not read query operator."

end SyntaxError

/-! ## Readings that succeed

Readers return what they read, or what is wrong.  These two lemmas take a reading in steps apart. -/

theorem map_eq_ok {ε α β : Type} {x : Except ε α} {f : α → β} {b : β} :
    x.map f = .ok b ↔ ∃ a, x = .ok a ∧ f a = b := by
  cases x <;> simp [Except.map]

theorem bind_eq_ok {ε α β : Type} {x : Except ε α} {f : α → Except ε β} {b : β} :
    (x >>= f) = .ok b ↔ ∃ a, x = .ok a ∧ f a = .ok b := by
  cases x <;> simp [bind, Except.bind]

theorem exists_eq_ok_of_isOk {ε α : Type} {x : Except ε α} (h : x.isOk) : ∃ a, x = .ok a := by
  cases x with
  | error cause => exact absurd h Bool.false_ne_true
  | ok a => exact ⟨a, rfl⟩

end PathQuery
