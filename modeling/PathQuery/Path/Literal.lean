/-
# Literals and comparators

A literal in a query is a quoted string, a pattern, a number, `true`, `false` or `null`.  A pattern
is kept as it stands, slashes and flags included.  A number is an integer if it has neither a point
nor an exponent and fits a signed 64-bit word; else it is the nearest float, or `null` if that
overflows.
-/
import PathQuery.Path.Quoted
import PathQuery.Path.Step
import PathQuery.Number.Numeral

namespace PathQuery

namespace Literal

/-! ## Patterns -/

/-- The body of a pattern up to its closing slash, and what follows the slash.  A backslash takes
the next character with it. -/
def takeBody : List Char → Except SyntaxError (List Char × List Char)
  | [] => .error .openPattern
  | '/' :: rest => .ok ([], rest)
  | '\\' :: c :: rest => (takeBody rest).map fun (body, rest) => ('\\' :: c :: body, rest)
  | c :: rest => (takeBody rest).map fun (body, rest) => (c :: body, rest)

theorem length_of_takeBody_eq_ok {text body rest : List Char}
    (taken : takeBody text = .ok (body, rest)) : rest.length < text.length := by
  fun_induction takeBody text generalizing body with
  | case1 => simp at taken
  | case2 => simp_all
  | case3 c tail ih | case4 c tail _ _ ih =>
    obtain ⟨⟨inner, after⟩, found, same⟩ := map_eq_ok.1 taken
    obtain ⟨-, rfl⟩ := Prod.mk.inj same
    have := ih found
    simp only [List.length_cons]
    omega

/-- The pattern whose opening slash has been read, with its flags: all the letters that follow. -/
def takePattern (text : List Char) : Except SyntaxError (Json × List Char) :=
  (takeBody text).map fun (body, rest) =>
    (.string (String.ofList ('/' :: body ++ '/' :: rest.takeWhile isAlphabetic)),
      rest.dropWhile isAlphabetic)

/-! ## Numbers and words -/

/-- Does the text go on with a point or an exponent? -/
def continuesNumber : List Char → Bool
  | '.' :: _ | 'e' :: _ | 'E' :: _ => true
  | _ => false

/-- The integer at the front of a text that has no point or exponent. -/
def takeInteger? (text : List Char) : Option (Json × List Char) :=
  let sign := takeSign text
  let digits := takeDigits sign.2
  if digits.1 = [] ∨ continuesNumber digits.2 then none
  else
    ((signedWord? sign.1 digits.1).bind WordInt.ofInt?).map fun n =>
      (.number (.integer n), digits.2)

/-- A value as a literal: what is not finite is `null`. -/
def ofExtended : Extended → Json
  | .finite x => .number (.float x)
  | _ => .null

/-- The float at the front of a text. -/
def takeFloat? (text : List Char) : Option (Json × List Char) :=
  let sign := takeSign text
  (Decimal.read? sign.2).map fun (decimal, rest) => (ofExtended (decimal.toExtended sign.1), rest)

/-- The word at the front of a text. -/
def takeWord? : List Char → Option (Json × List Char)
  | 't' :: 'r' :: 'u' :: 'e' :: rest => some (.bool true, rest)
  | 'f' :: 'a' :: 'l' :: 's' :: 'e' :: rest => some (.bool false, rest)
  | 'n' :: 'u' :: 'l' :: 'l' :: rest => some (.null, rest)
  | _ => none

/-- The number or word at the front of a text. -/
def takeScalar? (text : List Char) : Option (Json × List Char) :=
  (takeInteger? text).or ((takeFloat? text).or (takeWord? text))

/-- The literal at the front of a text. -/
def take (text : List Char) : Except SyntaxError (Json × List Char) :=
  match text with
  | [] => .error .openQuery
  | '\'' :: rest => (Quoted.take rest).map fun (content, rest) =>
    (.string (String.ofList content), rest)
  | '/' :: rest => takePattern rest
  | c :: _ =>
    match takeScalar? text with
    | some found => .ok found
    | none => .error (.unexpected .query c)

/-! ## A literal leaves a shorter text -/

theorem length_of_takePattern_eq_ok {text rest : List Char} {value : Json}
    (taken : takePattern text = .ok (value, rest)) : rest.length < text.length := by
  obtain ⟨⟨body, after⟩, found, same⟩ := map_eq_ok.1 taken
  obtain ⟨-, rfl⟩ := Prod.mk.inj same
  exact Nat.lt_of_le_of_lt (List.dropWhile_sublist _).length_le (length_of_takeBody_eq_ok found)

theorem length_of_takeInteger?_eq_some {text rest : List Char} {value : Json}
    (taken : takeInteger? text = some (value, rest)) : rest.length < text.length := by
  have sign := length_takeSign_le text
  have digits := length_takeDigits (takeSign text).2
  simp only [takeInteger?, Option.ite_none_left_eq_some, Option.map_eq_some_iff, not_or,
    ← List.length_eq_zero_iff] at taken
  obtain ⟨⟨some_digit, -⟩, n, -, same⟩ := taken
  obtain ⟨-, rfl⟩ := Prod.mk.inj same
  omega

theorem length_of_takeFloat?_eq_some {text rest : List Char} {value : Json}
    (taken : takeFloat? text = some (value, rest)) : rest.length < text.length := by
  obtain ⟨⟨decimal, after⟩, found, same⟩ := Option.map_eq_some_iff.1 taken
  obtain ⟨-, rfl⟩ := Prod.mk.inj same
  exact Nat.lt_of_lt_of_le (Decimal.length_of_read?_eq_some found) (length_takeSign_le text)

theorem length_of_takeWord?_eq_some {text rest : List Char} {value : Json}
    (taken : takeWord? text = some (value, rest)) : rest.length < text.length := by
  unfold takeWord? at taken
  split at taken <;> simp_all <;> omega

theorem length_of_takeScalar?_eq_some {text rest : List Char} {value : Json}
    (taken : takeScalar? text = some (value, rest)) : rest.length < text.length := by
  rcases Option.or_eq_some_iff.1 taken with found | ⟨-, taken⟩
  · exact length_of_takeInteger?_eq_some found
  · rcases Option.or_eq_some_iff.1 taken with found | ⟨-, found⟩
    · exact length_of_takeFloat?_eq_some found
    · exact length_of_takeWord?_eq_some found

theorem length_of_take_eq_ok {text rest : List Char} {value : Json}
    (taken : take text = .ok (value, rest)) : rest.length < text.length := by
  unfold take at taken
  split at taken
  · simp at taken
  · obtain ⟨⟨content, after⟩, found, same⟩ := map_eq_ok.1 taken
    obtain ⟨-, rfl⟩ := Prod.mk.inj same
    exact Nat.lt_succ_of_lt (Quoted.length_of_take_eq_ok found)
  · exact Nat.lt_succ_of_lt (length_of_takePattern_eq_ok taken)
  · split at taken
    · next found =>
      obtain rfl := Except.ok.inj taken
      exact length_of_takeScalar?_eq_some found
    · simp at taken

end Literal

/-! ## Comparators -/

/-- The comparator at the front of a text, the longest one that stands there.  A single character
ends the text too early for any. -/
def Comparator.take (text : List Char) : Except SyntaxError (Comparator × List Char) :=
  match text with
  | [] | [_] => .error .openQuery
  | '=' :: '=' :: '=' :: rest => .ok (.strictEqual, rest)
  | '=' :: '=' :: rest => .ok (.equal, rest)
  | '=' :: '~' :: rest => .ok (.matchesPattern, rest)
  | '!' :: '=' :: '=' :: rest => .ok (.strictNotEqual, rest)
  | '!' :: '=' :: rest => .ok (.notEqual, rest)
  | '<' :: '>' :: rest => .ok (.notEqual, rest)
  | '<' :: '=' :: rest => .ok (.lessOrEqual, rest)
  | '<' :: rest => .ok (.less, rest)
  | '>' :: '=' :: rest => .ok (.greaterOrEqual, rest)
  | '>' :: rest => .ok (.greater, rest)
  | _ => .error .unreadableComparator

theorem Comparator.length_of_take_eq_ok {text rest : List Char} {comparator : Comparator}
    (taken : Comparator.take text = .ok (comparator, rest)) : rest.length < text.length := by
  unfold Comparator.take at taken
  split at taken <;> simp_all <;> omega

end PathQuery
