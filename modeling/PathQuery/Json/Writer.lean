/-
# Writing documents

A document has a compact text, without any white space, and an indented one, with two spaces for
each level, a line for each element or member, and `[]` or `{}` for empty containers.  Strings
escape the quote, the backslash and the control characters, and nothing else.
-/
import PathQuery.Json.Basic

namespace PathQuery.Json

/-! ## Strings -/

/-- The lower-case hexadecimal digit of a number below sixteen. -/
def hexDigit (n : Nat) : Char := Nat.digitChar n

/-- A character as it stands in a string. -/
def escape (c : Char) : List Char :=
  if c = '"' then ['\\', '"']
  else if c = '\\' then ['\\', '\\']
  else if c = '\x08' then ['\\', 'b']
  else if c = '\t' then ['\\', 't']
  else if c = '\n' then ['\\', 'n']
  else if c = '\x0c' then ['\\', 'f']
  else if c = '\r' then ['\\', 'r']
  else if c.toNat < 0x20 then
    ['\\', 'u', '0', '0', hexDigit (c.toNat / 16), hexDigit (c.toNat % 16)]
  else [c]

/-- The text of a string. -/
def quote (content : String) : List Char :=
  '"' :: content.toList.flatMap escape ++ ['"']

/-! ## The compact text -/

mutual

/-- The compact text of a value. -/
def compact : Json → List Char
  | null => ['n', 'u', 'l', 'l']
  | bool true => ['t', 'r', 'u', 'e']
  | bool false => ['f', 'a', 'l', 's', 'e']
  | number n => n.text
  | string s => quote s
  | array [] => ['[', ']']
  | array (x :: xs) => '[' :: compact x ++ compactElements xs
  | object [] => ['{', '}']
  | object ((key, value) :: rest) =>
    '{' :: quote key ++ ':' :: compact value ++ compactMembers rest

/-- The compact text of the elements after the first, with the closing bracket. -/
def compactElements : List Json → List Char
  | [] => [']']
  | x :: xs => ',' :: compact x ++ compactElements xs

/-- The compact text of the members after the first, with the closing brace. -/
def compactMembers : List (String × Json) → List Char
  | [] => ['}']
  | (key, value) :: rest => ',' :: quote key ++ ':' :: compact value ++ compactMembers rest

end

/-! ## The indented text -/

/-- The start of a line at the given level. -/
def newLine (level : Nat) : List Char := '\n' :: List.replicate (2 * level) ' '

mutual

/-- The indented text of a value that stands at the given level. -/
def indented (level : Nat) : Json → List Char
  | array [] => ['[', ']']
  | array (x :: xs) =>
    '[' :: newLine (level + 1) ++ indented (level + 1) x ++ indentedElements level xs
  | object [] => ['{', '}']
  | object ((key, value) :: rest) =>
    '{' :: newLine (level + 1) ++ quote key ++ ':' :: ' ' :: indented (level + 1) value
      ++ indentedMembers level rest
  | null => ['n', 'u', 'l', 'l']
  | bool true => ['t', 'r', 'u', 'e']
  | bool false => ['f', 'a', 'l', 's', 'e']
  | number n => n.text
  | string s => quote s

/-- The indented text of the elements after the first, with the closing bracket. -/
def indentedElements (level : Nat) : List Json → List Char
  | [] => newLine level ++ [']']
  | x :: xs =>
    ',' :: newLine (level + 1) ++ indented (level + 1) x ++ indentedElements level xs

/-- The indented text of the members after the first, with the closing brace. -/
def indentedMembers (level : Nat) : List (String × Json) → List Char
  | [] => newLine level ++ ['}']
  | (key, value) :: rest =>
    ',' :: newLine (level + 1) ++ quote key ++ ':' :: ' ' :: indented (level + 1) value
      ++ indentedMembers level rest

end

/-- The compact text as a string. -/
def toCompact (value : Json) : String := String.ofList value.compact

/-- The indented text as a string. -/
def toIndented (value : Json) : String := String.ofList (value.indented 0)

end PathQuery.Json
