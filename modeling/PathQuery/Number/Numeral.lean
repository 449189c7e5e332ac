/-
# Reading numerals

Three grammars of numbers share their parts.  A JSON number is strict about zeros and points; a
number in a path or in a string that is compared with a number may leave out the digits on one side
of the point.

They differ in what becomes of a float, too.  The latter are read exactly, to the nearest value.  A
JSON number keeps the digits that a 64-bit word has room for and scales them by powers of ten.
-/
import PathQuery.Number.Basic
import PathQuery.Unicode.Alphabetic

namespace PathQuery

/-! ## Parts of a numeral -/

/-- The run of digits at the front, and what follows it. -/
def takeDigits (text : List Char) : List Char × List Char :=
  (text.takeWhile Char.isDigit, text.dropWhile Char.isDigit)

theorem length_takeDigits (text : List Char) :
    (takeDigits text).1.length + (takeDigits text).2.length = text.length := by
  rw [← List.length_append, takeDigits, List.takeWhile_append_dropWhile]

/-- The number that a run of digits denotes. -/
def digitsValue (digits : List Char) : Nat := Nat.ofDigitChars 10 digits 0

/-- A minus or plus sign at the front: whether the number is negative, and what follows. -/
def takeSign : List Char → Bool × List Char
  | '-' :: rest => (true, rest)
  | '+' :: rest => (false, rest)
  | text => (false, text)

theorem length_takeSign_le (text : List Char) : (takeSign text).2.length ≤ text.length := by
  unfold takeSign
  split <;> simp

/-- An exponent part, if there is one: a letter `e`, a sign and at least one digit.  Without the
letter the exponent is zero; with the letter and no digit there is no numeral. -/
def takeExponent? : List Char → Option (Int × List Char)
  | 'e' :: rest | 'E' :: rest =>
    let (negative, rest) := takeSign rest
    let (digits, rest) := takeDigits rest
    if digits.isEmpty then none
    else some (if negative then -(digitsValue digits : Int) else digitsValue digits, rest)
  | text => some (0, text)

theorem length_le_of_takeExponent?_eq_some {text rest : List Char} {exponent : Int}
    (taken : takeExponent? text = some (exponent, rest)) : rest.length ≤ text.length := by
  unfold takeExponent? at taken
  split at taken
  · next tail =>
    have := length_takeSign_le tail
    have := length_takeDigits (takeSign tail).2
    simp only [Option.ite_none_left_eq_some, Option.some.injEq, Prod.mk.injEq] at taken
    rw [← taken.2.2, List.length_cons]
    omega
  · next tail =>
    have := length_takeSign_le tail
    have := length_takeDigits (takeSign tail).2
    simp only [Option.ite_none_left_eq_some, Option.some.injEq, Prod.mk.injEq] at taken
    rw [← taken.2.2, List.length_cons]
    omega
  · simp_all

/-- The decimal number with the given digits before and after the point, times a power of ten. -/
def Decimal.ofParts (whole fraction : List Char) (exponent : Int) : Decimal :=
  ⟨digitsValue (whole ++ fraction), exponent - fraction.length⟩

/-- The integer with the given sign and digits, if it fits a signed 64-bit word. -/
def signedWord? (negative : Bool) (digits : List Char) : Option Int :=
  let value : Int := if negative then -(digitsValue digits : Int) else digitsValue digits
  if -signedReach ≤ value ∧ value < signedReach then some value else none

/-! ## Numbers of a JSON text -/

/-- How many values an unsigned 64-bit word has, `2 ^ 64`. -/
def wordLimit : Nat := 0x10000000000000000

/-- Puts digits behind a number as long as a word has room for it: the number, and the digits that
are left. -/
def fillWord (n : Nat) : List Char → Nat × List Char
  | [] => (n, [])
  | digit :: rest =>
    let longer := Nat.ofDigitChars 10 [digit] n
    if longer < wordLimit then fillWord longer rest else (n, digit :: rest)

/-- The decimal number with the digits that a word has room for.  The digits before the point that
are left out count in the exponent; behind it the next digit may find room all the same. -/
def Decimal.ofWord (whole fraction : List Char) (exponent : Int) : Decimal :=
  let (digits, wholeLeft) := fillWord 0 whole
  let (digits, fractionLeft) := fillWord digits fraction
  ⟨digits, exponent + wholeLeft.length - (fraction.length - fractionLeft.length : Nat)⟩

/-- The float with the given sign and parts, if it does not overflow. -/
def Number.ofParts? (negative : Bool) (whole fraction : List Char) (exponent : Int) :
    Option Number :=
  ((Decimal.ofWord whole fraction exponent).scaled? negative).map .float

/-- The number with the given sign and digits and no fraction or exponent: an integer if it fits a
word, else a float.  A negative zero is a float. -/
def Number.ofDigits? (negative : Bool) (digits : List Char) : Option Number :=
  let magnitude := digitsValue digits
  let float := Number.ofParts? negative digits [] 0
  if negative ∧ magnitude = 0 then float
  else
    match WordInt.ofInt? (if negative then -(magnitude : Int) else magnitude) with
    | some n => some (.integer n)
    | none => float

/-- The number that a JSON numeral denotes: no sign but a minus, no needless leading zero, digits on
both sides of a point.  A float that overflows is refused. -/
def Number.ofText? (text : List Char) : Option Number :=
  let (negative, text) := match text with
    | '-' :: rest => (true, rest)
    | text => (false, text)
  let (whole, rest) := takeDigits text
  if whole.isEmpty ∨ (whole.head? = some '0' ∧ whole.length ≠ 1) then none
  else
    match rest with
    | [] => Number.ofDigits? negative whole
    | '.' :: rest =>
      let (fraction, rest) := takeDigits rest
      if fraction.isEmpty then none
      else
        match takeExponent? rest with
        | some (exponent, []) => Number.ofParts? negative whole fraction exponent
        | _ => none
    | rest =>
      match takeExponent? rest with
      | some (exponent, []) => Number.ofParts? negative whole [] exponent
      | _ => none

/-! ## Numbers elsewhere -/

/-- The digits after a point at the front, none if there is no point, and what follows them. -/
def takeFraction : List Char → List Char × List Char
  | '.' :: rest => takeDigits rest
  | text => ([], text)

theorem length_takeFraction_le (text : List Char) :
    (takeFraction text).1.length + (takeFraction text).2.length ≤ text.length := by
  unfold takeFraction
  split
  · next rest =>
    have := length_takeDigits rest
    rw [List.length_cons]
    omega
  · simp

/-- The unsigned decimal number at the front of a text: digits with an optional point, at least one
digit in all, and an optional exponent. -/
def Decimal.read? (text : List Char) : Option (Decimal × List Char) :=
  let whole := takeDigits text
  let fraction := takeFraction whole.2
  if whole.1 = [] ∧ fraction.1 = [] then none
  else (takeExponent? fraction.2).map fun (exponent, rest) =>
    (.ofParts whole.1 fraction.1 exponent, rest)

theorem Decimal.length_of_read?_eq_some {text rest : List Char} {d : Decimal}
    (read : Decimal.read? text = some (d, rest)) : rest.length < text.length := by
  have whole := length_takeDigits text
  have fraction := length_takeFraction_le (takeDigits text).2
  simp only [Decimal.read?, Option.ite_none_left_eq_some, Option.map_eq_some_iff] at read
  obtain ⟨some_digit, ⟨exponent, last⟩, taken, same⟩ := read
  simp only [Prod.mk.injEq] at same
  obtain ⟨-, rfl⟩ := same
  have := length_le_of_takeExponent?_eq_some taken
  rw [← List.length_eq_zero_iff, ← List.length_eq_zero_iff] at some_digit
  omega

/-- The words for values that no digits express, without regard to case. -/
def Extended.ofWord? (negative : Bool) (word : List Char) : Option Extended :=
  match String.ofList (word.map Char.toLower) with
  | "inf" | "infinity" => some (.infinity negative)
  | "nan" => some .nan
  | _ => none

/-- The value of a text that spells a number from end to end, white space at either end aside. -/
def Extended.ofText? (text : List Char) : Option Extended :=
  let (negative, text) := takeSign (trimBlanks text)
  match Extended.ofWord? negative text with
  | some value => some value
  | none =>
    match Decimal.read? text with
    | some (decimal, []) => some (decimal.toExtended negative)
    | _ => none

end PathQuery
