/-
# Escapes

A backslash in a pattern takes away the meaning of a punctuation mark, or gives one to a letter: a
control character, a code point, a set or a look.
-/
import PathQuery.Json.Token
import PathQuery.Regex.Flags
import PathQuery.Unicode.Age
import PathQuery.Unicode.Segmentation

namespace PathQuery.Regex

/-- What an escape or a character of a pattern denotes.  A code point given by two hexadecimal
digits is a byte outside Unicode mode. -/
inductive Atom where
  | char (c : Char) (isByte : Bool)
  | set (members : CharSet)
  | look (condition : Look)

/-! ## Code points -/

/-- So many hexadecimal digits, and what follows them. -/
def takeHex (flags : Flags) : Nat → List Char → Except Error (List Char × List Char)
  | 0, text => .ok ([], text)
  | _ + 1, [] => .error .unfinishedEscape
  | count + 1, c :: rest =>
    match takeHex flags count (flags.skip rest) with
    | .ok (digits, rest) => .ok (c :: digits, rest)
    | .error cause => .error cause

/-- The text up to a closing brace without ignored characters, and what follows the brace. -/
def takeBraced (ignoreSpace inComment : Bool) : List Char → Except Error (List Char × List Char)
  | [] => .error .unfinishedEscape
  | c :: rest =>
    if inComment then takeBraced ignoreSpace (c != '\n') rest
    else if ignoreSpace && isBlank c then takeBraced ignoreSpace false rest
    else if ignoreSpace && c == '#' then takeBraced ignoreSpace true rest
    else if c = '}' then .ok ([], rest)
    else (takeBraced ignoreSpace false rest).map fun (content, rest) => (c :: content, rest)

/-- The character with the code point that hexadecimal digits spell. -/
def ofHexDigits? (digits : List Char) : Option Char := do
  let code ← digits.foldlM (fun code c => (Json.hexDigit? c).map (code * 16 + ·)) 0
  if digits = [] ∨ ¬ code.isValidChar then none else some (Char.ofNat code)

/-- How many digits a code point has, by the letter of its escape. -/
def codePointDigits (letter : Char) : Nat :=
  if letter = 'x' then 2 else if letter = 'u' then 4 else 8

/-- The code point after the letter of its escape; its digits may also stand in braces. -/
def takeCodePoint (flags : Flags) (letter : Char) (text : List Char) :
    Except Error (Atom × List Char) := do
  let text := flags.skip text
  let (digits, braced, rest) ← match text with
    | '{' :: rest => do
      let (digits, rest) ← takeBraced flags.ignoreSpace false rest
      .ok (digits, true, rest)
    | text => do
      let (digits, rest) ← takeHex flags (codePointDigits letter) text
      .ok (digits, false, rest)
  match ofHexDigits? digits with
  | some c => .ok (.char c (letter == 'x' && !braced), rest)
  | none => .error .invalidCodePoint

/-! ## Properties -/

/-- A name as it is looked up: without case, blanks, hyphens and underscores, and without a leading
`is`. -/
def normalizedName (name : List Char) : String :=
  let lower := name.map Char.toLower
  let plain (name : List Char) : List Char :=
    name.filter fun c => c != ' ' && c != '_' && c != '-' && c.toNat < 128
  match lower with
  | 'i' :: 's' :: rest => if plain rest = ['c'] then "isc" else String.ofList (plain rest)
  | lower => String.ofList (plain lower)

/-- The set that a name alone stands for: a binary property, a category or a script. -/
def propertySet? (name : List Char) : Option CharSet :=
  let name := normalizedName name
  let binary := if name = "cf" ∨ name = "sc" ∨ name = "lc" then none
    else Unicode.binaryProperty? name
  binary.or ((Unicode.category? name).or (Unicode.script? name))

/-- The characters with a value of a property. -/
def valueSet? (property value : List Char) : Option CharSet :=
  let value := normalizedName value
  match normalizedName property with
  | "gc" | "generalcategory" => Unicode.category? value
  | "sc" | "script" => Unicode.script? value
  | "scx" | "scriptextensions" => Unicode.scriptExtension? value
  | "age" => Unicode.age? value
  | "gcb" | "graphemeclusterbreak" => Unicode.graphemeBreak? value
  | "wb" | "wordbreak" => Unicode.wordBreak? value
  | "sb" | "sentencebreak" => Unicode.sentenceBreak? value
  | _ => none

/-- The text before and after the first place where a sign stands. -/
def splitAt? (sign : List Char) : List Char → Option (List Char × List Char)
  | [] => none
  | c :: rest =>
    if sign.isPrefixOf (c :: rest) then some ([], (c :: rest).drop sign.length)
    else (splitAt? sign rest).map fun (before, after) => (c :: before, after)

/-- The set that the content of the braces of a property stands for, and whether it stands for the
complement: a name alone, or a name and a value with a sign between them. -/
def contentSet? (content : List Char) : Option CharSet × Bool :=
  match splitAt? ['!', '='] content with
  | some (property, value) => (valueSet? property value, true)
  | none =>
    match (splitAt? [':'] content).or (splitAt? ['='] content) with
    | some (property, value) => (valueSet? property value, false)
    | none => (propertySet? content, false)

/-- The set of a property after the letter of its escape; a capital letter stands for the
complement. -/
def takeProperty (flags : Flags) (negated : Bool) (text : List Char) :
    Except Error (Atom × List Char) := do
  let ((found, others), rest) ← match flags.skip text with
    | '{' :: rest => do
      let (content, rest) ← takeBraced flags.ignoreSpace false rest
      .ok (contentSet? content, rest)
    | c :: rest =>
      if c = '\\' then .error .unknownProperty else .ok ((propertySet? [c], false), rest)
    | [] => .error .unfinishedEscape
  if !flags.unicode then .error .needsUnicode
  else
    match found with
    | none => .error .unknownProperty
    | some members => do
      let members ← flags.negate (negated != others) (flags.fold members)
      .ok (.set members, rest)

/-! ## Sets and looks -/

/-- The digits, white space or word characters, by the small letter of the escape. -/
def namedSet (flags : Flags) (letter : Char) : CharSet :=
  if letter = 'd' then
    if flags.unicode then Unicode.decimalNumber else .range '0' '9'
  else if letter = 's' then
    if flags.unicode then Unicode.whiteSpace else .ofChars ['\t', '\n', '\x0b', '\x0c', '\r', ' ']
  else if flags.unicode then Unicode.wordCharacter
  else .unions [.range 'a' 'z', .range 'A' 'Z', .range '0' '9', .singleton '_']

/-- A named look of `\b`, if a letter or hyphen follows the opening brace; else the brace belongs to
what comes next. -/
def takeWordLook (flags : Flags) (text : List Char) : Except Error (WordLook × List Char) :=
  match text with
  | '{' :: inside =>
    let isNameChar (c : Char) : Bool := c.isAlpha || c == '-'
    match flags.skip inside with
    | [] => .error .unfinishedEscape
    | c :: _ =>
      if !isNameChar c then .ok (.boundary, text)
      else do
        let (name, rest) ← takeBraced flags.ignoreSpace false inside
        match String.ofList name with
        | "start" => .ok (.start, rest)
        | "end" => .ok (.finish, rest)
        | "start-half" => .ok (.startHalf, rest)
        | "end-half" => .ok (.finishHalf, rest)
        | _ => .error .unknownEscape
  | text => .ok (.boundary, text)

/-! ## Any escape -/

/-- Punctuation and control characters stand for themselves after a backslash. -/
def isEscapable (c : Char) : Bool :=
  c.toNat < 128 && !c.isAlphanum && c != '<' && c != '>'

/-- The control character that a letter stands for after a backslash. -/
def control? : Char → Option Char
  | 'a' => some '\x07'
  | 'f' => some '\x0c'
  | 't' => some '\t'
  | 'n' => some '\n'
  | 'r' => some '\r'
  | 'v' => some '\x0b'
  | _ => none

/-- The look that a character stands for after a backslash, braces aside. -/
def look? (flags : Flags) : Char → Option Look
  | 'A' => some .textStart
  | 'z' => some .textFinish
  | 'B' => some (.word .noBoundary flags.unicode)
  | '<' => some (.word .start flags.unicode)
  | '>' => some (.word .finish flags.unicode)
  | _ => none

/-- The escape whose backslash has been read. -/
def takeEscape (flags : Flags) (text : List Char) : Except Error (Atom × List Char) :=
  match text with
  | [] => .error .unfinishedEscape
  | c :: rest =>
    if c.isDigit then .error .backReference
    else if c = 'x' ∨ c = 'u' ∨ c = 'U' then takeCodePoint flags c rest
    else if c = 'p' ∨ c = 'P' then takeProperty flags (c == 'P') rest
    else if c = 'd' ∨ c = 's' ∨ c = 'w' then .ok (.set (namedSet flags c), rest)
    else if c = 'D' ∨ c = 'S' ∨ c = 'W' then do
      let members ← flags.negate true (namedSet flags c.toLower)
      .ok (.set members, rest)
    else if c = 'b' then do
      let (kind, rest) ← takeWordLook flags rest
      .ok (.look (.word kind flags.unicode), rest)
    else if isEscapable c then .ok (.char c false, rest)
    else
      match control? c, look? flags c with
      | some control, _ => .ok (.char control false, rest)
      | none, some condition => .ok (.look condition, rest)
      | none, none => .error .unknownEscape

end PathQuery.Regex
