import OrderDesk.Json.Basic
import OrderDesk.Json.Quoted

/-!
# Writing JSON

A value is written without blanks. A binary number is written with its shortest
digits and always with a point; a value that cannot be held is written as `null`.
-/

namespace OrderDesk.Json

open OrderDesk.Text

/-- A text in quotes. -/
def quotedChars (s : String) : List Char := '"' :: escape s.toList ++ ['"']

/-- The digits of a binary number, with a point. -/
def floatChars (x : Binary64) : List Char :=
  let digits := x.plainChars
  if digits.contains '.' then digits else digits ++ ['.', '0']

mutual

/-- The characters of a value. -/
def chars : Json → List Char
  | .null | .unusable => "null".toList
  | .bool true => "true".toList
  | .bool false => "false".toList
  | .int n => charsOfInt n
  | .float x => floatChars x
  | .str s => quotedChars s
  | .arr items => '[' :: itemChars items ++ [']']
  | .obj entries => '\x7b' :: entryChars entries ++ ['\x7d']

/-- The characters of items, with commas between them. -/
def itemChars : List Json → List Char
  | [] => []
  | [item] => chars item
  | item :: rest => chars item ++ ',' :: itemChars rest

/-- The characters of entries, with commas between them. -/
def entryChars : List (String × Json) → List Char
  | [] => []
  | [(key, value)] => quotedChars key ++ ':' :: chars value
  | (key, value) :: rest => quotedChars key ++ ':' :: chars value ++ ',' :: entryChars rest

end

/-- The text of a value. -/
def text (value : Json) : String := String.ofList value.chars

end OrderDesk.Json
