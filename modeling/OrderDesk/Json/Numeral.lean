import OrderDesk.Json.Basic

/-!
# Numerals of JSON

A numeral is a sign, whole digits without a needless zero in front, perhaps a
fraction and perhaps an exponent. Its value is whole or binary.

For a binary value the digits are gathered while they stay below `2 ^ 64`. Whole
digits after that only count as places, and digits of the fraction are dropped.
-/

namespace OrderDesk.Json

open OrderDesk.Text

/-- The parts of a numeral. -/
structure Numeral where
  negative : Bool
  whole : List Char
  /-- The digits after the point, empty when there is no point. -/
  fraction : List Char
  /-- The exponent, when there is one. -/
  exponent : Option Int
  deriving DecidableEq, Repr

namespace Numeral

/-- Reads what follows the exponent mark. -/
def exponentOf? : List Char → Option Int
  | '+' :: cs => if isDigits cs then some (natOfDigits cs) else none
  | '-' :: cs => if isDigits cs then some (-(natOfDigits cs : Int)) else none
  | cs => if isDigits cs then some (natOfDigits cs) else none

/-- Reads what follows the whole digits: a fraction, an exponent, both or nothing. -/
def tail? (negative : Bool) (whole : List Char) (cs : List Char) : Option Numeral :=
  match cs with
  | [] => some ⟨negative, whole, [], none⟩
  | '.' :: rest =>
    let fraction := rest.takeWhile Char.isDigit
    if fraction.isEmpty then none
    else
      match rest.dropWhile Char.isDigit with
      | [] => some ⟨negative, whole, fraction, none⟩
      | c :: mark =>
        if Decimal.isExponentMark c then
          (exponentOf? mark).map fun e => ⟨negative, whole, fraction, some e⟩
        else none
  | c :: mark =>
    if Decimal.isExponentMark c then
      (exponentOf? mark).map fun e => ⟨negative, whole, [], some e⟩
    else none

/-- Reads a numeral without its sign. -/
def unsigned? (negative : Bool) (cs : List Char) : Option Numeral :=
  let whole := cs.takeWhile Char.isDigit
  if whole.isEmpty || (whole.head? == some '0' && whole.length != 1) then none
  else tail? negative whole (cs.dropWhile Char.isDigit)

/-- Reads a numeral. -/
def ofChars? : List Char → Option Numeral
  | '-' :: cs => unsigned? true cs
  | cs => unsigned? false cs

/-- The digits gathered so far, and how many whole digits did not fit. -/
def gatherWhole : Nat → List Char → Nat × Nat
  | n, [] => (n, 0)
  | n, c :: rest =>
    let more := n * 10 + (c.toNat - 48)
    if more < Nat.pow 2 64 then gatherWhole more rest else (n, rest.length + 1)

/-- The digits with those of a fraction, and how many of those fitted. -/
def gatherFraction : Nat → Nat → List Char → Nat × Nat
  | n, taken, [] => (n, taken)
  | n, taken, c :: rest =>
    let more := n * 10 + (c.toNat - 48)
    if more < Nat.pow 2 64 then gatherFraction more (taken + 1) rest else (n, taken)

/-- The value of the numeral; `unusable` when it is out of range. -/
def value (numeral : Numeral) : Json :=
  let (n, dropped) := gatherWhole 0 numeral.whole
  let (m, taken) := gatherFraction n 0 numeral.fraction
  let binary :=
    let exponent : Int := dropped - taken + numeral.exponent.getD 0
    match Binary64.ofDecimalParts numeral.negative m exponent with
    | some x => Json.float x
    | none => Json.unusable
  if numeral.fraction.isEmpty && numeral.exponent.isNone && dropped == 0 then
    if !numeral.negative then .int n
    else if 0 < n ∧ n ≤ Nat.pow 2 63 then .int (-n)
    else binary
  else binary

end Numeral

end OrderDesk.Json
