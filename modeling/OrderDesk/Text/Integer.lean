import OrderDesk.Text.Digits

/-!
# Integers in a row

An integer in a field of a row: decimal digits, or hexadecimal ones after `0x`. One sign
may stand in front of the digits.
-/

namespace OrderDesk.Text

/-- The value of a hexadecimal digit of either case. -/
def hexDigit? (c : Char) : Option Nat :=
  if c.isDigit then some (c.toNat - 48)
  else if 'a' ≤ c ∧ c ≤ 'f' then some (c.toNat - 87)
  else if 'A' ≤ c ∧ c ≤ 'F' then some (c.toNat - 55)
  else none

/-- The number that decimal digits write. -/
def decimalNat? (cs : List Char) : Option Nat :=
  if isDigits cs then some (natOfDigits cs) else none

/-- The number that hexadecimal digits write. -/
def hexNat? (cs : List Char) : Option Nat :=
  if cs.isEmpty then none
  else (cs.mapM hexDigit?).map fun digits => digits.foldl (fun n d => 16 * n + d) 0

/-- The number without a sign that a field writes; a plus may stand in front. -/
def fieldNat? (cs : List Char) : Option Nat :=
  let unsigned (digits : List Char → Option Nat) : List Char → Option Nat
    | '+' :: rest => digits rest
    | rest => digits rest
  match cs with
  | '0' :: 'x' :: rest => unsigned hexNat? rest
  | cs => unsigned decimalNat? cs

/-- The number that a field writes; a plus or a minus may stand in front. -/
def fieldInt? (cs : List Char) : Option Int :=
  let signed (digits : List Char → Option Nat) : List Char → Option Int
    | '+' :: rest => (digits rest).map fun n => (n : Int)
    | '-' :: rest => (digits rest).map fun n => -(n : Int)
    | rest => (digits rest).map fun n => (n : Int)
  match cs with
  | '0' :: 'x' :: rest => signed hexNat? rest
  | cs => signed decimalNat? cs

end OrderDesk.Text
