/-
# Quoted text

A name in an indexer and a string in a query stand between single quotes.  Between them a backslash
comes before a quote or a backslash, and nothing else; every other character stands for itself.
-/
import PathQuery.Path.SyntaxError

namespace PathQuery.Quoted

/-- The text as it stands between quotes. -/
def encode : List Char → List Char
  | [] => []
  | c :: rest => if c = '\'' ∨ c = '\\' then '\\' :: c :: encode rest else c :: encode rest

/-- The text up to the closing quote, and what follows the quote. -/
def take : List Char → Except SyntaxError (List Char × List Char)
  | [] => .error .openString
  | '\'' :: rest => .ok ([], rest)
  | '\\' :: c :: rest =>
    if c = '\'' ∨ c = '\\' then
      (take rest).map fun (text, rest) => (c :: text, rest)
    else .error (.unknownEscape c)
  | c :: rest => (take rest).map fun (text, rest) => (c :: text, rest)

theorem length_of_take_eq_ok {text content rest : List Char}
    (taken : take text = .ok (content, rest)) : rest.length < text.length := by
  fun_induction take text generalizing content with
  | case2 => simp_all
  | case3 c tail _ ih | case5 c tail _ _ ih =>
    obtain ⟨⟨inner, after⟩, found, same⟩ := map_eq_ok.1 taken
    obtain ⟨-, rfl⟩ := Prod.mk.inj same
    have := ih found
    simp only [List.length_cons]
    omega
  | _ => simp_all

end PathQuery.Quoted
