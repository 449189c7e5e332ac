/-
# How paths are spelled

A path has many spellings.  Names stand behind a dot or between quotes, spaces may stand around
every part of an indexer, integers may have leading zeros, and a comparator may have two symbols.
Two dots or more before a step make a scan of it.  The relations of this module say, without
reference to reading, which texts spell which syntax.

A plain name is what can stand behind a dot.  Within a query it must not contain the characters of
comparators and connectives either.
-/
import PathQuery.Path.Quoted
import PathQuery.Proofs.Path.Shape
import PathQuery.Number.Numeral

namespace PathQuery.Spelling

/-! ## Tokens -/

/-- So many spaces. -/
def spaces (n : Nat) : List Char := List.replicate n ' '

/-- So many dots. -/
def dots (n : Nat) : List Char := List.replicate n '.'

/-- A name or string between quotes. -/
def quoted (name : String) : List Char := '\'' :: Quoted.encode name.toList ++ ['\'']

/-- A text between brackets, with spaces around it. -/
def bracketed (before : Nat) (text : List Char) (after : Nat) : List Char :=
  '[' :: spaces before ++ text ++ spaces after ++ [']']

/-- A name that can stand behind a dot. -/
structure IsPlainName (inQuery : Bool) (name : List Char) : Prop where
  ne_nil : name ≠ []
  ne_star : name ≠ ['*']
  not_mem : ∀ c ∈ name, c ∉ ['.', '[', ']', ')', ' ']
  not_mem_of_inQuery : inQuery = true → ∀ c ∈ name, c ∉ ['=', '<', '!', '>', '|', '&']

/-- Quoted names with commas between them. -/
inductive SpellsNames : List String → List Char → Prop
  | single (name : String) : SpellsNames [name] (quoted name)
  | cons (name : String) (m n : Nat) {names : List String} {text : List Char}
      (hnames : SpellsNames names text) :
      SpellsNames (name :: names) (quoted name ++ spaces m ++ ',' :: spaces n ++ text)

/-- An integer that fits a signed 64-bit word: digits, or a minus sign and digits. -/
inductive SpellsInteger : Int → List Char → Prop
  | unsigned {digits : List Char} (hne : digits ≠ []) (hdigits : ∀ c ∈ digits, c.isDigit)
      (hword : IsSignedWord (digitsValue digits)) : SpellsInteger (digitsValue digits) digits
  | negative {digits : List Char} (hne : digits ≠ []) (hdigits : ∀ c ∈ digits, c.isDigit)
      (hword : IsSignedWord (-(digitsValue digits : Int))) :
      SpellsInteger (-(digitsValue digits : Int)) ('-' :: digits)

/-- Integers with commas between them. -/
inductive SpellsIntegers : List Int → List Char → Prop
  | single {i : Int} {text : List Char} (hi : SpellsInteger i text) : SpellsIntegers [i] text
  | cons (m n : Nat) {i : Int} {is : List Int} {text texts : List Char} (hi : SpellsInteger i text)
      (his : SpellsIntegers is texts) :
      SpellsIntegers (i :: is) (text ++ spaces m ++ ',' :: spaces n ++ texts)

/-- A bound of a slice, which may be left out. -/
inductive SpellsBound : Option Int → List Char → Prop
  | absent : SpellsBound none []
  | present {i : Int} {text : List Char} (hi : SpellsInteger i text) : SpellsBound (some i) text

/-- A step to elements, between its brackets.  The second colon of a slice may be left out together
with the stride. -/
inductive SpellsElements : Step → List Char → Prop
  | all : SpellsElements (.index none) ['*']
  | index {i : Int} {text : List Char} (hi : SpellsInteger i text) :
      SpellsElements (.index (some i)) text
  | indexes {is : List Int} {text : List Char} (hlength : 2 ≤ is.length)
      (his : SpellsIntegers is text) : SpellsElements (.indexes is) text
  | slice (k l : Nat) {start stop : Option Int} {text text' : List Char}
      (hstart : SpellsBound start text) (hstop : SpellsBound stop text') :
      SpellsElements (.slice start stop none) (text ++ spaces k ++ ':' :: spaces l ++ text')
  | slices (k l m n : Nat) {start stop stride : Option Int} {text text' text'' : List Char}
      (hstart : SpellsBound start text) (hstop : SpellsBound stop text')
      (hstride : SpellsBound stride text'') :
      SpellsElements (.slice start stop stride)
        (text ++ spaces k ++ ':' :: spaces l ++ text' ++ spaces m ++ ':' :: spaces n ++ text'')

/-- The body of a pattern: a backslash comes with the character behind it, and every slash has a
backslash. -/
inductive IsPatternBody : List Char → Prop
  | nil : IsPatternBody []
  | escaped (c : Char) {body : List Char} (hbody : IsPatternBody body) :
      IsPatternBody ('\\' :: c :: body)
  | plain {c : Char} {body : List Char} (hslash : c ≠ '/') (hbackslash : c ≠ '\\')
      (hbody : IsPatternBody body) : IsPatternBody (c :: body)

/-- A literal.  An integer may have a plus sign, and a string that has the form of a pattern can be
spelled without quotes. -/
inductive SpellsLiteral : Json → List Char → Prop
  | null : SpellsLiteral .null ['n', 'u', 'l', 'l']
  | true : SpellsLiteral (.bool true) ['t', 'r', 'u', 'e']
  | false : SpellsLiteral (.bool false) ['f', 'a', 'l', 's', 'e']
  | integer {n : WordInt} {text : List Char} (hn : SpellsInteger n.value text) :
      SpellsLiteral (.number (.integer n)) text
  | plus {n : WordInt} {digits : List Char} (hne : digits ≠ []) (hdigits : ∀ c ∈ digits, c.isDigit)
      (hvalue : n.value = digitsValue digits) (hword : IsSignedWord n.value) :
      SpellsLiteral (.number (.integer n)) ('+' :: digits)
  | string (s : String) : SpellsLiteral (.string s) (quoted s)
  | pattern {body flags : List Char} (hbody : IsPatternBody body)
      (hflags : ∀ c ∈ flags, isAlphabetic c = Bool.true) :
      SpellsLiteral (.string (String.ofList ('/' :: body ++ '/' :: flags)))
        ('/' :: body ++ '/' :: flags)

/-- The symbols of a comparator.  A test of existence has none. -/
def symbols : Comparator → List (List Char)
  | .equal => [['=', '=']]
  | .notEqual => [['!', '='], ['<', '>']]
  | .strictEqual => [['=', '=', '=']]
  | .strictNotEqual => [['!', '=', '=']]
  | .less => [['<']]
  | .lessOrEqual => [['<', '=']]
  | .greater => [['>']]
  | .greaterOrEqual => [['>', '=']]
  | .matchesPattern => [['=', '~']]
  | .exists => []

/-! ## Steps, operands and expressions -/

mutual

/-- A part of a path: dots, and a name, a star or an indexer behind them. -/
inductive SpellsPart : Bool → List Step → List Char → Prop
  | name (inQuery : Bool) {n : Nat} {name : String} (hdots : 1 ≤ n)
      (hname : IsPlainName inQuery name.toList) :
      SpellsPart inQuery [if 2 ≤ n then .scan (some name) else .field (some name)]
        (dots n ++ name.toList)
  | star (inQuery : Bool) {n : Nat} (hdots : 1 ≤ n) :
      SpellsPart inQuery [if 2 ≤ n then .scan none else .field none] (dots n ++ ['*'])
  | quoted (inQuery : Bool) (n a b : Nat) (name : String) :
      SpellsPart inQuery [if 2 ≤ n then .scan (some name) else .field (some name)]
        (dots n ++ bracketed a (quoted name) b)
  | names (inQuery : Bool) (n a b : Nat) {names : List String} {text : List Char}
      (hlength : 2 ≤ names.length) (hnames : SpellsNames names text) :
      SpellsPart inQuery [if 2 ≤ n then .scanFields names else .fields names]
        (dots n ++ bracketed a text b)
  | elements (inQuery : Bool) (n a b : Nat) {step : Step} {text : List Char}
      (hstep : SpellsElements step text) :
      SpellsPart inQuery (if 2 ≤ n then [.scan none, step] else [step])
        (dots n ++ bracketed a text b)
  | query (inQuery : Bool) (n a b c : Nat) {filter : Expression} {text : List Char}
      (hfilter : SpellsExpression filter text) :
      SpellsPart inQuery [if 2 ≤ n then .queryScan filter else .query filter]
        (dots n ++ bracketed a ('?' :: spaces c ++ '(' :: text ++ [')']) b)

/-- Steps, part by part. -/
inductive SpellsSteps : Bool → List Step → List Char → Prop
  | nil (inQuery : Bool) : SpellsSteps inQuery [] []
  | cons {inQuery : Bool} {steps steps' : List Step} {text text' : List Char}
      (hsteps : SpellsPart inQuery steps text) (hrest : SpellsSteps inQuery steps' text') :
      SpellsSteps inQuery (steps ++ steps') (text ++ text')

/-- An operand: a literal, or steps from the node under test or from the root. -/
inductive SpellsOperand : Operand → List Char → Prop
  | literal {value : Json} {text : List Char} (hvalue : SpellsLiteral value text) :
      SpellsOperand (.literal value) text
  | relative {steps : List Step} {text : List Char} (hsteps : SpellsSteps true steps text) :
      SpellsOperand (.path steps) ('@' :: text)
  | absolute {steps : List Step} {text : List Char} (hsteps : SpellsSteps true steps text) :
      SpellsOperand (.path (.root :: steps)) ('$' :: text)

/-- A comparison, or a test of existence, with spaces around its parts. -/
inductive SpellsComparison : Expression → List Char → Prop
  | exists (a b : Nat) {left : Operand} {text : List Char} (hleft : SpellsOperand left text) :
      SpellsComparison (.comparison .exists left none) (spaces a ++ text ++ spaces b)
  | pair (a b c d : Nat) {comparator : Comparator} {left right : Operand}
      {text symbol text' : List Char} (hleft : SpellsOperand left text)
      (hsymbol : symbol ∈ symbols comparator) (hright : SpellsOperand right text') :
      SpellsComparison (.comparison comparator left (some right))
        (spaces a ++ text ++ spaces b ++ symbol ++ spaces c ++ text' ++ spaces d)

/-- Comparisons with `&&` between them. -/
inductive SpellsComparisons : List Expression → List Char → Prop
  | single {part : Expression} {text : List Char} (hpart : SpellsComparison part text) :
      SpellsComparisons [part] text
  | cons {part : Expression} {parts : List Expression} {text text' : List Char}
      (hpart : SpellsComparison part text) (hparts : SpellsComparisons parts text') :
      SpellsComparisons (part :: parts) (text ++ '&' :: '&' :: text')

/-- A comparison, or a conjunction of comparisons. -/
inductive SpellsConjunction : Expression → List Char → Prop
  | comparison {part : Expression} {text : List Char} (hpart : SpellsComparison part text) :
      SpellsConjunction part text
  | and {parts : List Expression} {text : List Char} (hlength : 2 ≤ parts.length)
      (hparts : SpellsComparisons parts text) : SpellsConjunction (.composite .and parts) text

/-- Conjunctions with `||` between them. -/
inductive SpellsConjunctions : List Expression → List Char → Prop
  | single {part : Expression} {text : List Char} (hpart : SpellsConjunction part text) :
      SpellsConjunctions [part] text
  | cons {part : Expression} {parts : List Expression} {text text' : List Char}
      (hpart : SpellsConjunction part text) (hparts : SpellsConjunctions parts text') :
      SpellsConjunctions (part :: parts) (text ++ '|' :: '|' :: text')

/-- A conjunction, or a disjunction of conjunctions. -/
inductive SpellsExpression : Expression → List Char → Prop
  | conjunction {part : Expression} {text : List Char} (hpart : SpellsConjunction part text) :
      SpellsExpression part text
  | or {parts : List Expression} {text : List Char} (hlength : 2 ≤ parts.length)
      (hparts : SpellsConjunctions parts text) : SpellsExpression (.composite .or parts) text

end

/-! ## Paths -/

/-- A path: a dollar sign and steps.  White space may stand around the text, so the text itself must
not end in any. -/
inductive SpellsPath : Path → List Char → Prop
  | mk {path : Path} {before text after : List Char} (hpath : SpellsSteps false path text)
      (hbefore : ∀ c ∈ before, isBlank c = true) (hafter : ∀ c ∈ after, isBlank c = true)
      (hlast : ∀ c ∈ text.getLast?, isBlank c = false) :
      SpellsPath path (before ++ '$' :: text ++ after)

end PathQuery.Spelling
