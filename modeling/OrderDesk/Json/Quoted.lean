/-!
# Quoted texts of JSON

Between its quotes a text is written with escapes. A quote, a backslash and every
control character is escaped; all else stands for itself.

`escape` writes a text. `unescape?` reads what stands between the quotes. The escape
`\uXXXX` may name half of a surrogate pair; a text in which such a half has no
partner is well formed, and no text at all.
-/

namespace OrderDesk.Json

/-! ### Writing -/

/-- A hexadecimal digit below sixteen, in lower case. -/
def hexDigit (n : Nat) : Char := Nat.digitChar n

/-- How a character is written between quotes. -/
def escapeChar (c : Char) : List Char :=
  if c = '"' then ['\\', '"']
  else if c = '\\' then ['\\', '\\']
  else if c = '\n' then ['\\', 'n']
  else if c = '\r' then ['\\', 'r']
  else if c = '\t' then ['\\', 't']
  else if c = '\x08' then ['\\', 'b']
  else if c = '\x0c' then ['\\', 'f']
  else if c.toNat < 32 then ['\\', 'u', '0', '0', hexDigit (c.toNat / 16), hexDigit (c.toNat % 16)]
  else [c]

/-- A text as it is written between quotes. -/
def escape (cs : List Char) : List Char := cs.flatMap escapeChar

/-! ### Reading -/

/-- What a written text is made of. -/
inductive Piece
  /-- A character. -/
  | char (c : Char)
  /-- Half of a surrogate pair. -/
  | half (unit : Nat)
  deriving DecidableEq, Repr

/-- The value of a hexadecimal digit in either case. -/
def hexValue? (c : Char) : Option Nat :=
  if c.isDigit then some (c.toNat - 48)
  else if 'a' ≤ c ∧ c ≤ 'f' then some (c.toNat - 87)
  else if 'A' ≤ c ∧ c ≤ 'F' then some (c.toNat - 55)
  else none

/-- The number that four hexadecimal digits write. -/
def hexUnit? (a b c d : Char) : Option Nat := do
  let a ← hexValue? a
  let b ← hexValue? b
  let c ← hexValue? c
  let d ← hexValue? d
  return a * 4096 + b * 256 + c * 16 + d

/-- What the number of an escape stands for. -/
def pieceOfUnit (n : Nat) : Piece :=
  if 0xD800 ≤ n ∧ n < 0xE000 then .half n else .char (Char.ofNat n)

/-- What a backslash and one more character stand for. -/
def simpleEscape? : Char → Option Char
  | '"' => some '"'
  | '\\' => some '\\'
  | '/' => some '/'
  | 'b' => some '\x08'
  | 'f' => some '\x0c'
  | 'n' => some '\n'
  | 'r' => some '\r'
  | 't' => some '\t'
  | _ => none

/-- The pieces of a written text, put in front of those that `done` holds in reverse. -/
def piecesOnto? (done : List Piece) : List Char → Option (List Piece)
  | [] => some done.reverse
  | '\\' :: 'u' :: a :: b :: c :: d :: rest =>
    match hexUnit? a b c d with
    | none => none
    | some n => piecesOnto? (pieceOfUnit n :: done) rest
  | '\\' :: c :: rest =>
    match simpleEscape? c with
    | none => none
    | some e => piecesOnto? (.char e :: done) rest
  | c :: rest =>
    if c = '\\' ∨ c.toNat < 32 then none else piecesOnto? (.char c :: done) rest

/-- The character of a surrogate pair. -/
def pairChar (high low : Nat) : Char :=
  Char.ofNat (0x10000 + (high - 0xD800) * 0x400 + (low - 0xDC00))

/-- The characters of the pieces, pairs put together, after those that `done` holds in
reverse; `none` when a half has no partner. -/
def joinOnto? (done : List Char) : List Piece → Option (List Char)
  | [] => some done.reverse
  | .char c :: rest => joinOnto? (c :: done) rest
  | .half high :: .half low :: rest =>
    if high < 0xDC00 ∧ 0xDC00 ≤ low then joinOnto? (pairChar high low :: done) rest else none
  | .half _ :: _ => none

/-- Reads what stands between quotes: `none` when it is not well formed, `some none`
when half of a surrogate pair has no partner. -/
def unescape? (cs : List Char) : Option (Option (List Char)) :=
  (piecesOnto? [] cs).map (joinOnto? [])

end OrderDesk.Json
