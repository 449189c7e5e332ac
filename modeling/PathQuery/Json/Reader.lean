/-
# Reading documents

Tokens build a document one at a time.  What has been read so far is a stack of open containers and
what may come next; a token either advances it or is refused.  At most `depthLimit` containers may
be open at once.  A repeated key keeps the place of its first member and takes the last value.
-/
import PathQuery.Json.Token

namespace PathQuery.Json

/-- How many containers may be open at once. -/
def depthLimit : Nat := 127

/-- A container that waits for the value being read: an array with the elements before it, the
latest first, or an object with the members before it and the key of the value. -/
inductive Frame where
  | array (before : List Json)
  | object (before : List (String × Json)) (key : String)

/-- What has been read of a document and what may come next. -/
inductive Progress where
  /-- A value has to come. -/
  | wantValue (opened : List Frame)
  /-- A value or the end of an empty array. -/
  | wantElement (opened : List Frame)
  /-- A key or the end of an empty object. -/
  | wantMember (opened : List Frame)
  /-- A key, after members and a comma. -/
  | wantKey (before : List (String × Json)) (opened : List Frame)
  /-- The colon after a key. -/
  | wantColon (before : List (String × Json)) (key : String) (opened : List Frame)
  /-- A value is complete: a comma, the end of its container, or the end of the text. -/
  | complete (value : Json) (opened : List Frame)

/-- The members with one more: at the place of the member with the same key, or at the end. -/
def putMember (members : List (String × Json)) (key : String) (value : Json) :
    List (String × Json) :=
  match members with
  | [] => [(key, value)]
  | (other, old) :: rest =>
    if other = key then (key, value) :: rest else (other, old) :: putMember rest key value

/-- Where a token that starts a value leads. -/
def Progress.start (opened : List Frame) : Token → Option Progress
  | .string text => some (.complete (.string text) opened)
  | .scalar value => some (.complete value opened)
  | .openArray => if opened.length < depthLimit then some (.wantElement opened) else none
  | .openObject => if opened.length < depthLimit then some (.wantMember opened) else none
  | _ => none

/-- Where the next token leads, unless it is refused. -/
def Progress.step : Progress → Token → Option Progress
  | .wantValue opened, token => start opened token
  | .wantElement opened, .closeArray => some (.complete (.array []) opened)
  | .wantElement opened, token => start (.array [] :: opened) token
  | .wantMember opened, .closeObject => some (.complete (.object []) opened)
  | .wantMember opened, .string key => some (.wantColon [] key opened)
  | .wantKey before opened, .string key => some (.wantColon before key opened)
  | .wantColon before key opened, .colon => some (.wantValue (.object before key :: opened))
  | .complete value (.array before :: opened), .comma =>
    some (.wantValue (.array (value :: before) :: opened))
  | .complete value (.array before :: opened), .closeArray =>
    some (.complete (.array (value :: before).reverse) opened)
  | .complete value (.object before key :: opened), .comma =>
    some (.wantKey (putMember before key value) opened)
  | .complete value (.object before key :: opened), .closeObject =>
    some (.complete (.object (putMember before key value)) opened)
  | _, _ => none

/-- The document, once it is complete and no container is open. -/
def Progress.finish? : Progress → Option Json
  | .complete value [] => some value
  | _ => none

/-- The document that a list of tokens spells. -/
def ofTokens? (tokens : List Token) : Option Json :=
  (tokens.foldlM Progress.step (.wantValue [])).bind Progress.finish?

/-- The document that a text spells. -/
def read? (text : String) : Option Json :=
  (Token.read? text.toList).bind ofTokens?

end PathQuery.Json
