import OrderDesk.Json.Token

/-!
# Reading JSON

Tokens are put together into one value. The arrays and objects that are still open
stand on a stack, so the depth of a document has no limit; what lies too deep is
`unusable` in the tree.
-/

namespace OrderDesk.Json

/-- An array or an object that is still open, its parts in reverse. -/
inductive Frame
  | array (items : List Json)
  /-- `key` is the last key read; `sound` says that every key so far is a text. -/
  | object (entries : List (String × Json)) (key : String) (sound : Bool)

/-- What may come next. -/
inductive Expect
  | value
  | valueOrClose
  | key
  | keyOrClose
  | colon
  | commaOrClose
  /-- The document is complete. -/
  | nothing (value : Json)

/-- Puts a complete value where it belongs. -/
def place (value : Json) : List Frame → Expect × List Frame
  | [] => (.nothing value, [])
  | .array items :: rest => (.commaOrClose, .array (value :: items) :: rest)
  | .object entries key sound :: rest =>
    (.commaOrClose, .object ((key, value) :: entries) key sound :: rest)

/-- A value that has just been closed inside the open ones, if it does not lie too deep. -/
def atDepth (stack : List Frame) (value : Json) : Json :=
  if (stack.drop (maxDepth - 1)).isEmpty then value else .unusable

/-- Closes an array. -/
def closeArray : List Frame → Option (Expect × List Frame)
  | .array items :: rest => some (place (atDepth rest (.arr items.reverse)) rest)
  | _ => none

/-- Closes an object. -/
def closeObject : List Frame → Option (Expect × List Frame)
  | .object entries _ sound :: rest =>
    some (place (atDepth rest (if sound then .obj entries.reverse else .unusable)) rest)
  | _ => none

/-- Takes a key for the innermost open object. -/
def takeKey (key : Option String) : List Frame → Option (Expect × List Frame)
  | .object entries _ sound :: rest =>
    match key with
    | some key => some (.colon, .object entries key sound :: rest)
    | none => some (.colon, .object entries "" false :: rest)
  | _ => none

/-- Begins a value. -/
def beginValue (token : Token) (stack : List Frame) : Option (Expect × List Frame) :=
  match token with
  | .plain value => some (place value stack)
  | .text (some s) => some (place (.str s) stack)
  | .text none => some (place .unusable stack)
  | .openArray => some (.valueOrClose, .array [] :: stack)
  | .openObject => some (.keyOrClose, .object [] "" true :: stack)
  | _ => none

/-- Goes on after a comma. -/
def afterComma : List Frame → Option (Expect × List Frame)
  | .array items :: rest => some (.value, .array items :: rest)
  | .object entries key sound :: rest => some (.key, .object entries key sound :: rest)
  | [] => none

/-- Reads one token. -/
def take (expect : Expect) (stack : List Frame) (token : Token) : Option (Expect × List Frame) :=
  match expect, token with
  | .value, token => beginValue token stack
  | .valueOrClose, .closeArray => closeArray stack
  | .valueOrClose, token => beginValue token stack
  | .key, .text key => takeKey key stack
  | .keyOrClose, .text key => takeKey key stack
  | .keyOrClose, .closeObject => closeObject stack
  | .colon, .colon => some (.value, stack)
  | .commaOrClose, .comma => afterComma stack
  | .commaOrClose, .closeArray => closeArray stack
  | .commaOrClose, .closeObject => closeObject stack
  | _, _ => none

/-- Reads the tokens that are left. -/
def readTokens (expect : Expect) (stack : List Frame) : List Token → Option Json
  | [] =>
    match expect with
    | .nothing value => some value
    | _ => none
  | token :: rest =>
    match take expect stack token with
    | none => none
    | some (expect, stack) => readTokens expect stack rest

/-- The value that the tokens write. -/
def ofTokens? (tokens : List Token) : Option Json := readTokens .value [] tokens

/-- The value that the characters write. -/
def ofChars? (cs : List Char) : Option Json := (Token.scan cs).bind ofTokens?

/-- The value that a text writes. -/
def ofText? (s : String) : Option Json := ofChars? s.toList

end OrderDesk.Json
