import OrderDesk.Number.Binary64

/-!
# JSON values

A JSON document as a tree. A number is whole (`int`) when it is written without a
point and an exponent, is not `-0` and fits in 64 bits, with or without a sign. Any
other number is binary (`float`).

Some well-formed values cannot be held by any field of a record: a text with half of
a surrogate pair, a number too large for 64 bits, an object with such a text as a key
and whatever is nested deeper than 127 levels. They are `unusable`, which does no harm
where a value is skipped.
-/

namespace OrderDesk

/-- A JSON value. An object keeps its entries in order, repeated keys included. -/
inductive Json
  | null
  | bool (b : Bool)
  | int (n : Int)
  | float (x : Binary64)
  | str (s : String)
  | arr (items : List Json)
  | obj (entries : List (String × Json))
  | unusable
  deriving Repr

namespace Json

/-- Levels of arrays and objects that a usable value may lie in, its own included. -/
def maxDepth : Nat := 127

mutual

/-- No part of the value is unusable. -/
def usable : Json → Bool
  | .arr items => usableItems items
  | .obj entries => usableEntries entries
  | .unusable => false
  | _ => true

/-- No part of the items is unusable. -/
def usableItems : List Json → Bool
  | [] => true
  | item :: rest => item.usable && usableItems rest

/-- No part of the entries is unusable. -/
def usableEntries : List (String × Json) → Bool
  | [] => true
  | (_, value) :: rest => value.usable && usableEntries rest

end

/-- The whole number held in 64 bits with a sign. -/
def amount? : Json → Option Int
  | .int n => if -9223372036854775808 ≤ n ∧ n ≤ 9223372036854775807 then some n else none
  | _ => none

/-- The whole number held in 64 bits without a sign. -/
def id? : Json → Option Nat
  | .int n => if 0 ≤ n ∧ n < 18446744073709551616 then some n.toNat else none
  | _ => none

/-- The truth value. -/
def bool? : Json → Option Bool
  | .bool b => some b
  | _ => none

/-- The text. -/
def str? : Json → Option String
  | .str s => some s
  | _ => none

/-- The items of an array. -/
def arr? : Json → Option (List Json)
  | .arr items => some items
  | _ => none

/-- The items of an array, each read by `read`. -/
def list? {α : Type} (read : Json → Option α) : Json → Option (List α)
  | .arr items => items.mapM read
  | _ => none

/-- What `read` makes of the value, and nothing of `null`. -/
def nullable? {α : Type} (read : Json → Option α) : Json → Option (Option α)
  | .null => some none
  | value => (read value).map some

/-- A decimal number, written as a whole number, as a binary one or as a text. -/
def decimal? : Json → Option Decimal
  | .int n => Decimal.ofInt? n
  | .float x => x.toDecimal?
  | .str s => Decimal.ofText? s
  | _ => none

/-- A value that may be missing, as `null` when it is. -/
def ofOption {α : Type} (write : α → Json) : Option α → Json
  | none => .null
  | some a => write a

end Json

end OrderDesk
