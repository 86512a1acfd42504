import OrderDesk.Number.Rounding

/-!
# Decimal numbers

A decimal number is a sign and a whole coefficient below `2 ^ 96` over a power of ten,
with at most 28 places. The places are part of the number: `95.5` and `95.50` are
equal in value and different as numbers. So is the sign, also that of a zero.

* `Decimal.mul?` multiplies exactly while the product fits, and else drops as few
  places as it can, rounding a tie to the even neighbour.
* `Decimal.hundredth` divides by a hundred. It is exact up to 26 places and
  rounds the last place after that.
* `Decimal.floor` is the greatest whole number not above the number.
-/

namespace OrderDesk

open OrderDesk.Number

/-- No coefficient reaches this size. -/
def Decimal.limit : Nat := Nat.pow 2 96

/-- A sign and a coefficient over a power of ten. -/
structure Decimal where
  /-- The number has a minus. -/
  negative : Bool
  /-- The digits as a whole number. -/
  coefficient : Nat
  /-- How many of the digits stand after the point. -/
  scale : Nat
  coefficient_lt : coefficient < Decimal.limit
  scale_le : scale ≤ 28
  deriving DecidableEq

namespace Decimal

/-- The most places a number has. -/
def maxScale : Nat := 28

/-- The number with these parts, if there is one. -/
def ofParts? (negative : Bool) (coefficient scale : Nat) : Option Decimal :=
  if h : coefficient < limit ∧ scale ≤ 28 then some ⟨negative, coefficient, scale, h.1, h.2⟩
  else none

/-- The whole number, if it is small enough. -/
def ofInt? (n : Int) : Option Decimal := ofParts? (n < 0) n.natAbs 0

instance : Zero Decimal := ⟨⟨false, 0, 0, by decide, by decide⟩⟩

instance : One Decimal := ⟨⟨false, 1, 0, by decide, by decide⟩⟩

/-- One hundred. -/
def hundred : Decimal := ⟨false, 100, 0, by decide, by decide⟩

/-- The digits as a whole number, with the sign. -/
def mantissa (d : Decimal) : Int := if d.negative then -(d.coefficient : Int) else d.coefficient

@[simp] theorem natAbs_mantissa (d : Decimal) : d.mantissa.natAbs = d.coefficient := by
  unfold mantissa; split <;> omega

/-- The first number is not above the second in value. -/
def Le (a b : Decimal) : Prop := a.mantissa * Int.pow 10 b.scale ≤ b.mantissa * Int.pow 10 a.scale

instance : LE Decimal := ⟨Le⟩

instance (a b : Decimal) : Decidable (a ≤ b) :=
  inferInstanceAs (Decidable (a.mantissa * Int.pow 10 b.scale ≤ b.mantissa * Int.pow 10 a.scale))

/-- The greatest whole number not above the number. -/
def floor (d : Decimal) : Int := d.mantissa / Int.ofNat (Nat.pow 10 d.scale)

/-! ### Multiplication -/

/-- The fewest of the last digits of a product that have to go: 28 places stay at
most, and the rest is below the limit. There are never more of them than places. -/
def cut? (product scale : Nat) : Option Nat :=
  (List.range (scale + 1)).find? fun k => scale ≤ k + maxScale && product / Nat.pow 10 k < limit

/-- The product, with no more places dropped than necessary; `none` when the whole
part alone is too large. -/
def mul? (a b : Decimal) : Option Decimal :=
  let product := a.coefficient * b.coefficient
  let scale := a.scale + b.scale
  let negative := product != 0 && a.negative != b.negative
  match cut? product scale with
  | none => none
  | some k =>
    let rounded := roundHalfEven product (Nat.pow 10 k)
    if rounded < limit then ofParts? negative rounded (scale - k)
    else if k < scale then ofParts? negative (roundHalfEven rounded 10) (scale - k - 1)
    else none

/-! ### Division by a hundred -/

/-- Drops zeros at the end, eight places at a time. Only a coefficient that is also a
multiple of `2 ^ 32` loses eight at once. -/
def dropEights (coefficient scale : Nat) : Nat × Nat :=
  if 8 ≤ scale ∧ coefficient % Nat.pow 2 32 = 0 ∧ coefficient % Nat.pow 10 8 = 0 then
    dropEights (coefficient / Nat.pow 10 8) (scale - 8)
  else (coefficient, scale)
termination_by scale

/-- Drops `k` zeros at the end, if there are so many and so many places. -/
def dropZeros (k : Nat) (parts : Nat × Nat) : Nat × Nat :=
  if k ≤ parts.2 ∧ parts.1 % Nat.pow 10 k = 0 then (parts.1 / Nat.pow 10 k, parts.2 - k)
  else parts

/-- Drops zeros at the end of a quotient: eight places at a time, then at most four,
two and one more. -/
def trimZeros (coefficient scale : Nat) : Nat × Nat :=
  dropZeros 1 (dropZeros 2 (dropZeros 4 (dropEights coefficient scale)))

/-- By how many places a quotient is lengthened at once: nine at most, no more than
28 in all, and only as far as it stays below the limit. -/
def lengthening (quotient scale : Nat) : Nat :=
  ((List.range 10).reverse.find? fun k =>
    scale + k ≤ maxScale && quotient * Nat.pow 10 k < limit).getD 0

/-- A coefficient and places for a hundredth of the number. An exact quotient keeps the
places it has. Any other one is lengthened, which makes it exact while two more
places are free, and then loses the zeros at its end. -/
def hundredthParts (coefficient scale : Nat) : Nat × Nat :=
  if coefficient % 100 = 0 then (coefficient / 100, scale)
  else if 26 < scale then trimZeros (roundHalfEven coefficient (Nat.pow 10 (scale - 26))) 28
  else
    let k := lengthening (coefficient / 100) scale
    if coefficient * Nat.pow 10 (k - 2) < limit then
      trimZeros (coefficient * Nat.pow 10 (k - 2)) (scale + k)
    else trimZeros (coefficient * Nat.pow 10 (k - 3)) (scale + k - 1)

theorem dropEights_le (coefficient scale : Nat) :
    (dropEights coefficient scale).1 ≤ coefficient ∧ (dropEights coefficient scale).2 ≤ scale := by
  fun_induction dropEights coefficient scale with
  | case1 m s h ih =>
    exact ⟨Nat.le_trans ih.1 (Nat.div_le_self _ _), Nat.le_trans ih.2 (Nat.sub_le _ _)⟩
  | case2 m s h => exact ⟨Nat.le_refl _, Nat.le_refl _⟩

theorem dropZeros_le (k : Nat) (parts : Nat × Nat) :
    (dropZeros k parts).1 ≤ parts.1 ∧ (dropZeros k parts).2 ≤ parts.2 := by
  unfold dropZeros
  split
  · exact ⟨Nat.div_le_self _ _, Nat.sub_le _ _⟩
  · exact ⟨Nat.le_refl _, Nat.le_refl _⟩

theorem trimZeros_le (coefficient scale : Nat) :
    (trimZeros coefficient scale).1 ≤ coefficient ∧ (trimZeros coefficient scale).2 ≤ scale := by
  unfold trimZeros
  have h8 := dropEights_le coefficient scale
  have h4 := dropZeros_le 4 (dropEights coefficient scale)
  have h2 := dropZeros_le 2 (dropZeros 4 (dropEights coefficient scale))
  have h1 := dropZeros_le 1 (dropZeros 2 (dropZeros 4 (dropEights coefficient scale)))
  omega

theorem lengthening_spec (quotient scale : Nat) (hs : scale ≤ 28) (hq : quotient < limit) :
    scale + lengthening quotient scale ≤ 28 ∧
      quotient * Nat.pow 10 (lengthening quotient scale) < limit := by
  unfold lengthening
  cases h : (List.range 10).reverse.find? fun k =>
      scale + k ≤ maxScale && quotient * Nat.pow 10 k < limit with
  | none => simpa using ⟨hs, hq⟩
  | some k =>
    have := List.find?_some h
    rw [Bool.and_eq_true, decide_eq_true_eq, decide_eq_true_eq] at this
    exact this

/-- One place less than a lengthening that is too long is short enough. -/
theorem shortened_lt {coefficient k : Nat} (hm : coefficient < limit) (hk : k ≤ 28)
    (hfits : coefficient / 100 * Nat.pow 10 k < limit)
    (hlong : ¬ coefficient * Nat.pow 10 (k - 2) < limit) :
    coefficient * Nat.pow 10 (k - 3) < limit := by
  have h3 : 3 ≤ k := by
    by_cases h : 3 ≤ k
    · exact h
    · have hone : Nat.pow 10 (k - 2) = 1 := by rw [show k - 2 = 0 by omega]
      rw [hone] at hlong; omega
  by_cases hq : coefficient / 100 = 0
  · have hp25 : Nat.pow 10 (k - 3) ≤ Nat.pow 10 25 :=
      Nat.pow_le_pow_right (by decide) (by omega)
    calc coefficient * Nat.pow 10 (k - 3)
        ≤ 100 * Nat.pow 10 25 := Nat.mul_le_mul (by omega) hp25
      _ < limit := by decide
  · have hpow : Nat.pow 10 k = 1000 * Nat.pow 10 (k - 3) := by
      rw [← Nat.add_sub_of_le h3, Nat.add_sub_cancel_left]
      exact Nat.pow_add 10 3 (k - 3)
    calc coefficient * Nat.pow 10 (k - 3)
        ≤ coefficient / 100 * 1000 * Nat.pow 10 (k - 3) := Nat.mul_le_mul_right _ (by omega)
      _ = coefficient / 100 * Nat.pow 10 k := by rw [hpow, Nat.mul_assoc]
      _ < limit := hfits

theorem hundredthParts_bounds {coefficient scale : Nat} (hm : coefficient < limit)
    (hs : scale ≤ 28) :
    (hundredthParts coefficient scale).1 < limit ∧ (hundredthParts coefficient scale).2 ≤ 28 := by
  unfold hundredthParts
  split
  · exact ⟨Nat.lt_of_le_of_lt (Nat.div_le_self _ _) hm, hs⟩
  split
  · rename_i hz hp
    have ht := trimZeros_le (roundHalfEven coefficient (Nat.pow 10 (scale - 26))) 28
    have hr := roundHalfEven_le coefficient (Nat.pow 10 (scale - 26))
    have hd : coefficient / Nat.pow 10 (scale - 26) ≤ coefficient / 10 :=
      Nat.div_le_div_left (Nat.le_self_pow (by omega) 10) (by omega)
    unfold limit at hm ⊢
    omega
  · rename_i hz hp
    have hk := lengthening_spec (coefficient / 100) scale hs
      (Nat.lt_of_le_of_lt (Nat.div_le_self _ _) hm)
    simp only
    generalize lengthening (coefficient / 100) scale = k at hk ⊢
    split
    · rename_i hlt
      have ht := trimZeros_le (coefficient * Nat.pow 10 (k - 2)) (scale + k)
      omega
    · rename_i hlt
      have ht := trimZeros_le (coefficient * Nat.pow 10 (k - 3)) (scale + k - 1)
      have hless := shortened_lt hm (by omega) hk.2 hlt
      omega

/-- A hundredth of the number: what a percentage stands for as a factor. -/
def hundredth (d : Decimal) : Decimal :=
  let parts := hundredthParts d.coefficient d.scale
  have bounds := hundredthParts_bounds d.coefficient_lt d.scale_le
  ⟨d.negative, parts.1, parts.2, bounds.1, bounds.2⟩

end Decimal

end OrderDesk
