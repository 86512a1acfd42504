/-!
# Delimited text

Rows of fields: a comma ends a field and a line break ends a row; empty lines are
skipped. A field that begins with a quote goes on until the quote is closed, with
commas and line breaks in it; two quotes in it stand for one. What follows a closing
quote still belongs to the field. Elsewhere a quote stands for itself.

Reading works on characters and on bytes alike: all that counts of a symbol is its
code. `readRows` reads what `rowChars` writes.
-/

namespace OrderDesk.Delimited

/-- What a symbol may do in a text. -/
inductive Mark
  | comma
  | quote
  | lineEnd
  | plain
  deriving DecidableEq

/-- The mark with a code. -/
def markOf (code : Nat) : Mark :=
  if code = 44 then .comma
  else if code = 34 then .quote
  else if code = 10 ∨ code = 13 then .lineEnd
  else .plain

/-- Where the reader is. -/
inductive Place
  /-- Before the first field of a row. -/
  | lineStart
  /-- Before a field. -/
  | fieldStart
  /-- In a field without quotes, or behind a closing quote. -/
  | bare
  /-- In quotes. -/
  | quoted
  /-- Behind a quote in quotes, which closes them unless another one follows. -/
  | closing
  deriving DecidableEq

/-- What becomes of a symbol. -/
inductive Action
  /-- The symbol is dropped. -/
  | skip (next : Place)
  /-- The symbol belongs to the field. -/
  | keep (next : Place)
  | endField
  | endRow
  deriving DecidableEq

/-- What becomes of a symbol, by the place where it stands. -/
def action : Place → Mark → Action
  | .quoted, .quote => .skip .closing
  | .quoted, _ => .keep .quoted
  | .closing, .quote => .keep .quoted
  | .lineStart, .quote | .fieldStart, .quote => .skip .quoted
  | .lineStart, .lineEnd => .skip .lineStart
  | _, .comma => .endField
  | _, .lineEnd => .endRow
  | _, _ => .keep .bare

section Read

variable {σ : Type} (code : σ → Nat)

/-- Reads on from a place, with the field and the fields of the row read so far, the
last symbol and the last field first. -/
def readFrom (place : Place) (field : List σ) (fields : List (List σ)) :
    List σ → List (List (List σ))
  | [] => if place = .lineStart then [] else [(field.reverse :: fields).reverse]
  | c :: rest =>
    match action place (markOf (code c)) with
    | .skip next => readFrom next field fields rest
    | .keep next => readFrom next (c :: field) fields rest
    | .endField => readFrom .fieldStart [] (field.reverse :: fields) rest
    | .endRow => (field.reverse :: fields).reverse :: readFrom .lineStart [] [] rest

/-- The rows of a text. -/
def readRows (text : List σ) : List (List (List σ)) := readFrom code .lineStart [] [] text

end Read

/-- The field has a symbol that would not be read as it stands. -/
def needsQuotes (field : List Char) : Bool := field.any fun c => markOf c.toNat != .plain

/-- The characters of a field in quotes. -/
def quotedChars (field : List Char) : List Char :=
  '"' :: field.flatMap (fun c => if c = '"' then ['"', '"'] else [c]) ++ ['"']

/-- The characters of a field, in quotes where it needs them. -/
def fieldChars (field : List Char) : List Char :=
  if needsQuotes field then quotedChars field else field

/-- The characters of fields, with commas between them. -/
def fieldsChars : List (List Char) → List Char
  | [] => []
  | [field] => fieldChars field
  | field :: rest => fieldChars field ++ ',' :: fieldsChars rest

/-- The characters of a row. -/
def rowChars (fields : List (List Char)) : List Char := fieldsChars fields ++ ['\n']

end OrderDesk.Delimited
