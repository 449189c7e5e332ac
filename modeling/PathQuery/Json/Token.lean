/-
# The tokens of a JSON text

A JSON text is a sequence of tokens with white space between them: brackets, braces, commas, colons,
strings and plain words, which spell the other scalars.  `Token.read?` takes the tokens of a text,
or nothing when some part of it is none.  A string is taken in three passes: up to its closing
quote, into pieces (an escape or a character each), and from pieces to characters, where two escaped
surrogates make one character and a single one is refused.
-/
import PathQuery.Json.Basic
import PathQuery.Number.Numeral

namespace PathQuery.Json

/-! ## Strings -/

/-- The content of a string up to its closing quote, escapes as they stand, and what follows the
quote. -/
def takeQuoted? : List Char → Option (List Char × List Char)
  | [] => none
  | '"' :: rest => some ([], rest)
  | '\\' :: c :: rest => (takeQuoted? rest).map fun (content, rest) => ('\\' :: c :: content, rest)
  | c :: rest => (takeQuoted? rest).map fun (content, rest) => (c :: content, rest)

theorem takeQuoted?_length {text content rest : List Char}
    (taken : takeQuoted? text = some (content, rest)) : rest.length < text.length := by
  fun_induction takeQuoted? text generalizing content with
  | case1 => simp at taken
  | case2 => simp_all
  | case3 c tail ih | case4 c tail _ _ ih =>
    simp only [Option.map_eq_some_iff, Prod.exists, Prod.mk.injEq] at taken
    obtain ⟨inner, after, found, _, rfl⟩ := taken
    have := ih found
    simp only [List.length_cons]
    omega

/-- A part of the content of a string: a character, or a 16-bit unit given by an escape. -/
inductive Piece where
  | char (c : Char)
  | unit (code : Nat)

/-- The value of a hexadecimal digit. -/
def hexDigit? (c : Char) : Option Nat :=
  if c.isDigit then some (c.toNat - 48)
  else if 'a' ≤ c ∧ c ≤ 'f' then some (c.toNat - 87)
  else if 'A' ≤ c ∧ c ≤ 'F' then some (c.toNat - 55)
  else none

/-- The character that a one-letter escape names. -/
def escaped? : Char → Option Char
  | '"' => some '"'
  | '\\' => some '\\'
  | '/' => some '/'
  | 'b' => some '\x08'
  | 'f' => some '\x0c'
  | 'n' => some '\n'
  | 'r' => some '\r'
  | 't' => some '\t'
  | _ => none

/-- The pieces of the content of a string; control characters are refused. -/
def pieces? : List Char → Option (List Piece)
  | [] => some []
  | '\\' :: 'u' :: a :: b :: c :: d :: rest => do
    let a ← hexDigit? a
    let b ← hexDigit? b
    let c ← hexDigit? c
    let d ← hexDigit? d
    let pieces ← pieces? rest
    some (.unit (((a * 16 + b) * 16 + c) * 16 + d) :: pieces)
  | '\\' :: c :: rest => do
    let c ← escaped? c
    let pieces ← pieces? rest
    some (.char c :: pieces)
  | c :: rest =>
    if c.toNat < 0x20 then none
    else do
      let pieces ← pieces? rest
      some (.char c :: pieces)

/-- The characters that pieces make; a surrogate without its partner makes none. -/
def joinPieces? : List Piece → Option (List Char)
  | [] => some []
  | .char c :: rest => (joinPieces? rest).map (c :: ·)
  | .unit high :: .unit low :: rest =>
    if 0xD800 ≤ high ∧ high < 0xDC00 then
      if 0xDC00 ≤ low ∧ low < 0xE000 then
        (joinPieces? rest).map
          (Char.ofNat (0x10000 + (high - 0xD800) * 0x400 + (low - 0xDC00)) :: ·)
      else none
    else if 0xDC00 ≤ high ∧ high < 0xE000 then none
    else (joinPieces? (.unit low :: rest)).map (Char.ofNat high :: ·)
  | .unit code :: rest =>
    if 0xD800 ≤ code ∧ code < 0xE000 then none
    else (joinPieces? rest).map (Char.ofNat code :: ·)

/-- The characters of a string, from its content with escapes. -/
def unescape? (content : List Char) : Option (List Char) :=
  (pieces? content).bind joinPieces?

/-! ## Tokens -/

/-- A token of a JSON text. -/
inductive Token where
  | openArray
  | closeArray
  | openObject
  | closeObject
  | comma
  | colon
  | string (value : String)
  | scalar (value : Json)

/-- White space of a JSON text. -/
def isSpace (c : Char) : Bool := c == ' ' || c == '\t' || c == '\n' || c == '\r'

/-- The token that a punctuation mark is by itself. -/
def mark? : Char → Option Token
  | '[' => some .openArray
  | ']' => some .closeArray
  | '{' => some .openObject
  | '}' => some .closeObject
  | ',' => some .comma
  | ':' => some .colon
  | _ => none

/-- Is the character part of a plain word? -/
def isPlain (c : Char) : Bool := !isSpace c && c != '"' && (mark? c).isNone

/-- The value that a plain word spells. -/
def ofWord? (word : List Char) : Option Json :=
  if word = ['n', 'u', 'l', 'l'] then some .null
  else if word = ['t', 'r', 'u', 'e'] then some (.bool true)
  else if word = ['f', 'a', 'l', 's', 'e'] then some (.bool false)
  else (Number.ofText? word).map .number

theorem length_dropWhile_le {α : Type} (p : α → Bool) (xs : List α) :
    (xs.dropWhile p).length ≤ xs.length :=
  (List.dropWhile_sublist p).length_le

/-- The tokens of a text. -/
def Token.read? (text : List Char) : Option (List Token) :=
  match text with
  | [] => some []
  | c :: rest =>
    if isSpace c then Token.read? rest
    else if c = '"' then
      match taken : takeQuoted? rest with
      | none => none
      | some (content, after) => do
        have := takeQuoted?_length taken
        let value ← unescape? content
        let tokens ← Token.read? after
        some (.string (String.ofList value) :: tokens)
    else
      match mark? c with
      | some token => (Token.read? rest).map (token :: ·)
      | none => do
        have := length_dropWhile_le isPlain rest
        let value ← ofWord? (c :: rest.takeWhile isPlain)
        let tokens ← Token.read? (rest.dropWhile isPlain)
        some (.scalar value :: tokens)
termination_by text.length
decreasing_by all_goals simp only [List.length_cons]; omega

end PathQuery.Json
