import OrderDesk.Number.Decimal.Basic
import OrderDesk.Text.Digits

/-!
# Decimal numbers as text

A decimal number is written with all its places. It is read from digits with an
optional sign, an optional point and underscores after the first digit
(`ofPlain?`), or from such digits and an exponent (`ofScientific?`).

A plain text may have more places than a number holds. The places that fit are
kept, and the first one that does not fit rounds them, a half away from zero. After
it only digits and underscores may come, which do not count.

A text with an exponent down to `-28` may stand for a number with more than 28 places.
It is rounded in the same way.
-/

namespace OrderDesk.Decimal

open OrderDesk.Number OrderDesk.Text

/-! ### Writing -/

/-- The digits of a coefficient with a point before the last `scale` of them. -/
def pointedDigits (coefficient scale : Nat) : List Char :=
  let digits := digitsPadded (scale + 1) coefficient
  if scale = 0 then digits
  else
    let whole := digits.length - scale
    digits.take whole ++ '.' :: digits.drop whole

/-- The characters of a number, with all its places. -/
def chars (d : Decimal) : List Char :=
  let digits := pointedDigits d.coefficient d.scale
  if d.negative then '-' :: digits else digits

/-- The text of a number, with all its places. -/
def text (d : Decimal) : String := String.ofList d.chars

/-! ### Reading -/

/-- The number with these digits. Zero is read without its sign. -/
def signed (negative : Bool) (n scale : Nat) : Option Decimal :=
  ofParts? (negative && n != 0) n scale

/-- Rounds a number that has run out of room by the digit that does not fit. When even
the rounded digits are too many, one more place goes. -/
def roundBy (negative : Bool) (n scale digit : Nat) : Option Decimal :=
  let n := if 5 ≤ digit then n + 1 else n
  if n < limit then signed negative n scale
  else if scale = 0 then none
  else signed negative ((n + 4) / 10) (scale - 1)

/-- The character may come after the place that rounds a number. -/
def isUncounted (c : Char) : Bool := c.isDigit || c == '_'

/-- Before its last digit a short coefficient is below this number. -/
def shortLimit : Nat := (Nat.pow 2 64 - 1) / 10 - 255

/-- Reads what follows the last of 28 places. The next digit rounds the number. Underscores
before it are skipped behind a long coefficient; behind a short one the first underscore
leaves the number as it is. -/
def readExcess (negative : Bool) (n scale : Nat) : List Char → Option Decimal
  | [] => signed negative n scale
  | c :: rest =>
    if c = '_' ∧ shortLimit ≤ n / 10 then readExcess negative n scale rest
    else if (c :: rest).all isUncounted then
      roundBy negative n scale (if c = '_' then 0 else c.toNat - 48)
    else none

/-- Reads the digits that follow the sign. `n` holds the digits so far and `scale`
those of them after the point; `point` says whether the point has come, `any`
whether a digit has. -/
def readDigits (negative : Bool) (n scale : Nat) (point any : Bool) :
    List Char → Option Decimal
  | [] => if any then signed negative n scale else none
  | c :: rest =>
    if point && maxScale ≤ scale then readExcess negative n scale (c :: rest)
    else if c.isDigit then
      let more := n * 10 + (c.toNat - 48)
      if more < limit then
        readDigits negative more (if point then scale + 1 else scale) point true rest
      else if point && rest.all isUncounted then roundBy negative n scale (c.toNat - 48)
      else none
    else if c = '.' ∧ point = false then readDigits negative n scale true any rest
    else if c = '_' ∧ any then readDigits negative n scale point any rest
    else none

/-- Reads a number without an exponent. -/
def ofPlain? : List Char → Option Decimal
  | '-' :: rest => readDigits true 0 0 false false rest
  | '+' :: rest => readDigits false 0 0 false false rest
  | cs => readDigits false 0 0 false false cs

/-- Reads the size of an exponent: digits, perhaps after a plus. -/
def readExponent : List Char → Option Nat
  | '+' :: cs => if isDigits cs then some (natOfDigits cs) else none
  | cs => if isDigits cs then some (natOfDigits cs) else none

/-- The number times a power of ten, by moving the point to the left. It goes 28 places at
most; the places that do not fit then round the others, a half away from zero. -/
def moveLeft? (d : Decimal) (places : Nat) : Option Decimal :=
  if maxScale < places then none
  else if d.scale + places ≤ maxScale then
    ofParts? d.negative d.coefficient (d.scale + places)
  else
    let excess := d.scale + places - maxScale
    ofParts? d.negative (roundHalfUp d.coefficient (Nat.pow 10 excess)) maxScale

/-- The number times a power of ten, by moving the point to the right. No power
above `10 ^ 28` is taken beyond the places there are. -/
def moveRight? (d : Decimal) (places : Nat) : Option Decimal :=
  if places ≤ d.scale then ofParts? d.negative d.coefficient (d.scale - places)
  else if maxScale < places then none
  else ofParts? d.negative (d.coefficient * Nat.pow 10 (places - d.scale)) 0

/-- The character stands before an exponent. -/
def isExponentMark (c : Char) : Bool := c == 'e' || c == 'E'

/-- Reads a number with an exponent. -/
def ofScientific? (cs : List Char) : Option Decimal :=
  match cs.dropWhile (!isExponentMark ·) with
  | [] => none
  | _ :: exponent =>
    match ofPlain? (cs.takeWhile (!isExponentMark ·)) with
    | none => none
    | some base =>
      match exponent with
      | '-' :: size => (readExponent size).bind base.moveLeft?
      | size => (readExponent size).bind base.moveRight?

/-- Reads a number, with or without an exponent. -/
def ofText? (s : String) : Option Decimal := (ofPlain? s.toList).or (ofScientific? s.toList)

end OrderDesk.Decimal
