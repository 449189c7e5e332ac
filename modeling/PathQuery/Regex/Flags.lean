/-
# Flags

Flags change how the characters of a pattern are read: whether case matters, what the dot and the
anchors mean, whether sets are those of Unicode, which repetitions are preferred, and whether white
space and comments are ignored.
-/
import PathQuery.Unicode.CaseFolding
import PathQuery.Unicode.Category
import PathQuery.Regex.Error
import PathQuery.Regex.Normal

namespace PathQuery.Regex

/-- The flags in force at a place of a pattern. -/
structure Flags where
  ignoreCase : Bool
  multiLine : Bool
  dotMatchesAll : Bool
  carriageReturns : Bool
  unicode : Bool
  preferShort : Bool
  ignoreSpace : Bool

namespace Flags

/-- The flags at the start of a pattern. -/
def initial : Flags := ⟨false, false, false, false, true, false, false⟩

/-- The flags with one of them set or cleared, by its letter. -/
def set? (flags : Flags) (letter : Char) (value : Bool) : Option Flags :=
  match letter with
  | 'i' => some { flags with ignoreCase := value }
  | 'm' => some { flags with multiLine := value }
  | 's' => some { flags with dotMatchesAll := value }
  | 'R' => some { flags with carriageReturns := value }
  | 'u' => some { flags with unicode := value }
  | 'x' => some { flags with ignoreSpace := value }
  | 'U' => some { flags with preferShort := value }
  | _ => none

end Flags

/-! ## White space and comments -/

/-- The text without the ignored characters at its front.  In a comment everything is ignored to the
end of the line. -/
def skipIgnored (ignoreSpace inComment : Bool) : List Char → List Char
  | [] => []
  | c :: rest =>
    if inComment then skipIgnored ignoreSpace (c != '\n') rest
    else if ignoreSpace && isBlank c then skipIgnored ignoreSpace false rest
    else if ignoreSpace && c == '#' then skipIgnored ignoreSpace true rest
    else c :: rest

/-- The text after what the flags ignore at its front. -/
def Flags.skip (flags : Flags) (text : List Char) : List Char :=
  skipIgnored flags.ignoreSpace false text

/-! ## Sets under flags -/

/-- The ASCII capital and small letters that correspond to those of a set, with the set. -/
def closeUnderAsciiCase (set : CharSet) : CharSet :=
  let capitals := set.inter (.range 'A' 'Z')
  let smalls := set.inter (.range 'a' 'z')
  .ofRanges (set.ranges.toList ++ capitals.ranges.toList.map (fun r => (r.1 + 32, r.2 + 32))
    ++ smalls.ranges.toList.map (fun r => (r.1 - 32, r.2 - 32)))

/-- The set with the other cases of its members, if the flags ignore case. -/
def Flags.fold (flags : Flags) (set : CharSet) : CharSet :=
  if !flags.ignoreCase then set
  else if flags.unicode then Unicode.closeUnderCase set
  else closeUnderAsciiCase set

/-- The complement of a set, if it is negated.  Outside Unicode mode a complement must not reach
beyond ASCII. -/
def Flags.negate (flags : Flags) (negated : Bool) (set : CharSet) : Except Error CharSet :=
  if !negated then .ok set
  else if flags.unicode then .ok set.complement
  else if set.complement.isAscii then .ok set.complement
  else .error .splitsCharacter

/-- The characters that a dot stands for. -/
def Flags.dot (flags : Flags) : Except Error CharSet :=
  if !flags.unicode then .error .splitsCharacter
  else if flags.dotMatchesAll then .ok .all
  else if flags.carriageReturns then .ok (CharSet.ofChars ['\n', '\r']).complement
  else .ok (CharSet.singleton '\n').complement

/-- What a caret stands for. -/
def Flags.caret (flags : Flags) : Look :=
  if flags.multiLine then .lineStart flags.carriageReturns else .textStart

/-- What a dollar sign stands for. -/
def Flags.dollar (flags : Flags) : Look :=
  if flags.multiLine then .lineFinish flags.carriageReturns else .textFinish

/-- The expression for one character of a set. -/
def Flags.oneOf (flags : Flags) (set : CharSet) : Regex := Regex.oneOf set !flags.unicode

/-- The expression for a character. -/
def Flags.literal (flags : Flags) (c : Char) : Regex := flags.oneOf (flags.fold (.singleton c))

end PathQuery.Regex
