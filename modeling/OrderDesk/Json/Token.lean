import OrderDesk.Json.Numeral
import OrderDesk.Json.Quoted

/-!
# Tokens of JSON

A document is cut into marks, words, numerals and quoted texts. Blanks between them
are the space, the tab and the two line ends.
-/

namespace OrderDesk.Json

/-- A part of a document that is read as a whole. -/
inductive Token
  | openArray
  | closeArray
  | openObject
  | closeObject
  | comma
  | colon
  /-- A word or a numeral, as the value it stands for. -/
  | plain (value : Json)
  /-- A quoted text; `none` when half of a surrogate pair has no partner. -/
  | text (s : Option String)
  deriving Repr

/-- A token of which some characters have been read, the last one first. -/
inductive Partial
  | nothing
  | word (read : List Char)
  | numeral (read : List Char)
  | quoted (read : List Char) (escaped : Bool)

namespace Token

/-- The value of a word. -/
def ofWord? (cs : List Char) : Option Token :=
  if cs = ['t', 'r', 'u', 'e'] then some (.plain (.bool true))
  else if cs = ['f', 'a', 'l', 's', 'e'] then some (.plain (.bool false))
  else if cs = ['n', 'u', 'l', 'l'] then some (.plain .null)
  else none

/-- The value of a numeral. -/
def ofNumeral? (cs : List Char) : Option Token := (Numeral.ofChars? cs).map fun n => .plain n.value

/-- The text between quotes. -/
def ofQuoted? (cs : List Char) : Option Token :=
  (unescape? cs).map fun s => .text (s.map String.ofList)

/-- The character may stand in a numeral. -/
def inNumeral (c : Char) : Bool :=
  c.isDigit || c == '-' || c == '+' || c == '.' || c == 'e' || c == 'E'

/-- Reads a character that no token has begun before. -/
def start (done : List Token) (c : Char) : Option (Partial × List Token) :=
  if c = ' ' ∨ c = '\t' ∨ c = '\n' ∨ c = '\r' then some (.nothing, done)
  else if c = '[' then some (.nothing, openArray :: done)
  else if c = ']' then some (.nothing, closeArray :: done)
  else if c = '\x7b' then some (.nothing, openObject :: done)
  else if c = '\x7d' then some (.nothing, closeObject :: done)
  else if c = ',' then some (.nothing, comma :: done)
  else if c = ':' then some (.nothing, colon :: done)
  else if c = '"' then some (.quoted [] false, done)
  else if c = '-' ∨ c.isDigit then some (.numeral [c], done)
  else if c.isAlpha then some (.word [c], done)
  else none

/-- Reads one more character; the tokens that are complete stand in reverse. -/
def next (begun : Partial) (done : List Token) (c : Char) : Option (Partial × List Token) :=
  match begun with
  | .nothing => start done c
  | .word read =>
    if c.isAlpha then some (.word (c :: read), done)
    else (ofWord? read.reverse).bind fun token => start (token :: done) c
  | .numeral read =>
    if inNumeral c then some (.numeral (c :: read), done)
    else (ofNumeral? read.reverse).bind fun token => start (token :: done) c
  | .quoted read true => some (.quoted (c :: read) false, done)
  | .quoted read false =>
    if c = '"' then (ofQuoted? read.reverse).map fun token => (.nothing, token :: done)
    else some (.quoted (c :: read) (c == '\\'), done)

/-- Ends the document: a word or a numeral may end with it, a quoted text may not. -/
def finish (begun : Partial) (done : List Token) : Option (List Token) :=
  match begun with
  | .nothing => some done.reverse
  | .word read => (ofWord? read.reverse).map fun token => (token :: done).reverse
  | .numeral read => (ofNumeral? read.reverse).map fun token => (token :: done).reverse
  | .quoted _ _ => none

/-- The tokens of a text, after a token that has begun and those that are complete. -/
def scanFrom (begun : Partial) (done : List Token) : List Char → Option (List Token)
  | [] => finish begun done
  | c :: rest =>
    match next begun done c with
    | none => none
    | some (begun, done) => scanFrom begun done rest

/-- The tokens of a text. -/
def scan (cs : List Char) : Option (List Token) := scanFrom .nothing [] cs

end Token

end OrderDesk.Json
