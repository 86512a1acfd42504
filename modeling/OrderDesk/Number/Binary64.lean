import OrderDesk.Number.Decimal.Text

/-!
# Binary numbers of 64 bits

Finite binary floating-point numbers: a mantissa below `2 ^ 53` times a power of two
not below `2 ^ (-1074)`. All computing is on whole numbers.

* `nearest` rounds a quotient to the nearest of these numbers, a tie to the even
  mantissa; there is none when the quotient is too large.
* `ofDecimalParts` is digits times a power of ten. The digits are rounded first and
  the scaled number is rounded again, so the last bit need not be the nearest one.
* `shortest` is the decimal number with the fewest digits that rounds back, the nearest of
  these, and of two equally near the larger.
-/

namespace OrderDesk

open OrderDesk.Number OrderDesk.Text

/-- The number `mantissa * 2 ^ exponent`, with a sign of its own also for zero. -/
structure Binary64 where
  negative : Bool
  mantissa : Nat
  exponent : Int
  deriving DecidableEq, Repr

namespace Binary64

/-- The exponent of the numbers closest to zero. -/
def leastExponent : Int := -1074

/-- The exponent of the largest numbers. -/
def greatestExponent : Int := 971

/-- Zero, without a minus. -/
def zero : Binary64 := ⟨false, 0, leastExponent⟩

/-- A whole number times a power of two, as a quotient of whole numbers. -/
def quotientOf (n : Nat) (e : Int) : Nat × Nat := (n * Nat.pow 2 e.toNat, Nat.pow 2 (-e).toNat)

/-- The size of the number as a quotient of whole numbers. -/
def toQuotient (x : Binary64) : Nat × Nat := quotientOf x.mantissa x.exponent

/-- The greatest power of two not above `n / d`, both positive. -/
def floorLog2 (n d : Nat) : Int :=
  let guess : Int := Nat.log2 n - Nat.log2 d
  if d * Nat.pow 2 guess.toNat ≤ n * Nat.pow 2 (-guess).toNat then guess else guess - 1

/-- The number nearest to `n / d`, a tie to the even mantissa. -/
def nearest (n d : Nat) : Option Binary64 :=
  if n = 0 then some zero
  else
    let e := max (floorLog2 n d - 52) leastExponent
    let m := roundHalfEven (n * Nat.pow 2 (-e).toNat) (d * Nat.pow 2 e.toNat)
    let x : Binary64 :=
      if m = Nat.pow 2 53 then ⟨false, Nat.pow 2 52, e + 1⟩ else ⟨false, m, e⟩
    if x.exponent ≤ greatestExponent then some x else none

/-- The number nearest to a power of ten. -/
def powerOfTen (k : Nat) : Option Binary64 := nearest (Nat.pow 10 k) 1

/-- The product of two sizes, rounded. -/
def mul (x y : Binary64) : Option Binary64 :=
  let a := x.toQuotient
  let b := y.toQuotient
  nearest (a.1 * b.1) (a.2 * b.2)

/-- The quotient of two sizes, rounded. -/
def div (x y : Binary64) : Option Binary64 :=
  let a := x.toQuotient
  let b := y.toQuotient
  nearest (a.1 * b.2) (a.2 * b.1)

/-- The greatest power of ten that is one of the numbers. -/
def greatestPower : Nat := 308

/-- Divides by `10 ^ 308` a number of times, each time rounding. Zero stays zero. -/
def divideTimes (x : Binary64) : Nat → Option Binary64
  | 0 => some x
  | n + 1 =>
    if x.mantissa = 0 then some x
    else
      match (powerOfTen greatestPower).bind x.div with
      | none => none
      | some y => divideTimes y n

/-- Divides by a power of ten, at most by `10 ^ 308` at a time and each time rounding. -/
def scaleDown (x : Binary64) (k : Nat) : Option Binary64 :=
  let times := (k - 1) / greatestPower
  (divideTimes x times).bind fun y => (powerOfTen (k - greatestPower * times)).bind y.div

/-- Multiplies by a power of ten; `none` when the product is too large. -/
def scaleUp (x : Binary64) (k : Nat) : Option Binary64 :=
  if k ≤ greatestPower then (powerOfTen k).bind x.mul
  else if x.mantissa = 0 then some x
  else none

/-- The number for `n * 10 ^ e`: `n` is rounded, then scaled and rounded again. -/
def ofDecimalParts (negative : Bool) (n : Nat) (e : Int) : Option Binary64 :=
  match nearest n 1 with
  | none => none
  | some x =>
    let scaled := if 0 ≤ e then x.scaleUp e.toNat else x.scaleDown (-e).toNat
    scaled.map fun y => { y with negative := negative }

/-! ### The shortest decimal text -/

/-- `d * 10 ^ p` compared with `n * 2 ^ e`. -/
def compareScaled (d : Nat) (p : Int) (n : Nat) (e : Int) : Ordering :=
  compare (d * Nat.pow 10 p.toNat * Nat.pow 2 (-e).toNat)
    (n * Nat.pow 2 e.toNat * Nat.pow 10 (-p).toNat)

/-- `d * 10 ^ p` rounds to the size of `x`. It lies between the midpoints to the two
neighbours, and is a midpoint only where the tie goes to `x`. Below a power of two
the neighbours are half as far apart. -/
def roundsTo (x : Binary64) (d : Nat) (p : Int) : Bool :=
  let narrow := x.mantissa = Nat.pow 2 52 ∧ leastExponent < x.exponent
  let low := compareScaled d p (4 * x.mantissa - if narrow then 1 else 2) (x.exponent - 2)
  let high := compareScaled d p (4 * x.mantissa + 2) (x.exponent - 2)
  if x.mantissa % 2 = 0 then low != .lt && high != .gt else low == .gt && high == .lt

/-- The size of `x` in units of `10 ^ p`, rounded down. -/
def floorAt (x : Binary64) (p : Int) : Nat :=
  let q := x.toQuotient
  q.1 * Nat.pow 10 (-p).toNat / (q.2 * Nat.pow 10 p.toNat)

/-- The multiple of `10 ^ p` that rounds to `x`, of two the nearer one, and of two
equally near the larger. -/
def hitAt? (x : Binary64) (p : Int) : Option Nat :=
  let below := x.floorAt p
  let lower := 0 < below && roundsTo x below p
  let upper := roundsTo x (below + 1) p
  if lower && upper then
    match compareScaled (2 * below + 1) p (2 * x.mantissa) x.exponent with
    | .gt => some below
    | .lt | .eq => some (below + 1)
  else if lower then some below
  else if upper then some (below + 1)
  else none

/-- The decimal number `d * 10 ^ p` with the fewest digits that rounds to a positive `x`:
the powers of ten are tried from the largest down. -/
def shortest (x : Binary64) : Nat × Int :=
  let top := (digitsOfNat (x.floorAt 0)).length
  let tries := List.range (top + 326)
  (tries.findSome? fun i : Nat =>
    let p : Int := (top : Int) - (i : Int)
    (x.hitAt? p).map fun d => (d, p)).getD (0, 0)

/-- The shortest text that reads back, without an exponent. -/
def plainChars (x : Binary64) : List Char :=
  let (d, p) := if x.mantissa = 0 then (0, 0) else x.shortest
  let digits :=
    if 0 ≤ p then digitsOfNat d ++ List.replicate p.toNat '0'
    else Decimal.pointedDigits d (-p).toNat
  if x.negative then '-' :: digits else digits

/-- The decimal number that the shortest text writes, if it is one. -/
def toDecimal? (x : Binary64) : Option Decimal := Decimal.ofPlain? x.plainChars

end Binary64

end OrderDesk
