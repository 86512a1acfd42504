import Mathlib.Data.Rat.Floor
import Mathlib.Tactic.FieldSimp
import Mathlib.Tactic.Linarith
import Mathlib.Tactic.NormNum
import Mathlib.Tactic.Positivity
import OrderDesk.Number.Decimal.Basic

/-!
# What decimal numbers stand for

A decimal number stands for a rational number, `Decimal.value`, and lies on a grid of whole
multiples of its `Decimal.unit`, one in its last place. The grid is what makes rounding harmless
next to a whole number: a decimal number that is less than a unit away from a whole number on the
one side does not lie on that side (`le_value_of_sub_unit_lt`, `value_le_of_lt_add_unit`).

## What is proved

* `le_iff_value_le` and `floor_eq`: comparing and rounding down are those of the rational numbers.
* `hundredth_near`: a hundredth is off by half a unit of the 28th place at most.
* `hundredth_exact`: it is exact for a number that needs no more than 25 places.
-/

namespace OrderDesk

open OrderDesk.Number

/-! ### Rounding a quotient -/

namespace Number

/-- A rounded quotient is half a unit away from the quotient at most. -/
theorem roundHalfEven_near {n d : Nat} (hd : 0 < d) :
    |(roundHalfEven n d : ℚ) - n / d| ≤ 1 / 2 := by
  have hd' : (0 : ℚ) < d := by exact_mod_cast hd
  obtain ⟨hlow, hhigh⟩ := roundHalfEven_close (n := n) hd
  have hlow' : (2 * n : ℚ) ≤ (2 * roundHalfEven n d + 1) * d := by exact_mod_cast hlow
  have hhigh' : (2 * roundHalfEven n d * d : ℚ) ≤ 2 * n + d := by exact_mod_cast hhigh
  have hquotient : (n : ℚ) / d * d = n := div_mul_cancel₀ _ hd'.ne'
  rw [abs_le]
  constructor
  · refine le_of_mul_le_mul_right ?_ hd'
    linarith
  · refine le_of_mul_le_mul_right ?_ hd'
    linarith

end Number

namespace Decimal

/-! ### Values and units -/

/-- The rational number that digits over a power of ten stand for. -/
def valueOfParts (parts : Nat × Nat) : ℚ := parts.1 / 10 ^ parts.2

/-- The rational number that a decimal number stands for. -/
def value (d : Decimal) : ℚ := d.mantissa / 10 ^ d.scale

/-- One in the last place of the number. -/
def unit (d : Decimal) : ℚ := 1 / 10 ^ d.scale

/-- The number needs no more than so many places. -/
def HasPlaces (d : Decimal) (places : Nat) : Prop := ∃ n : ℤ, d.value = n / 10 ^ places

variable (d : Decimal)

theorem unit_pos : 0 < d.unit := by unfold unit; positivity

/-- No unit is smaller than that of the 28th place. -/
theorem le_unit : 1 / 10 ^ 28 ≤ d.unit := by
  unfold unit
  have hscale : (10 : ℚ) ^ d.scale ≤ 10 ^ 28 := pow_le_pow_right₀ (by norm_num) d.scale_le
  exact one_div_le_one_div_of_le (by positivity) hscale

theorem value_eq_mantissa_mul : d.value = d.mantissa * d.unit := by
  rw [value, unit, mul_one_div]

/-- A whole number lies on the grid of every decimal number. -/
theorem intCast_eq_mul_unit (q : ℤ) : (q : ℚ) = (q * 10 ^ d.scale : ℤ) * d.unit := by
  rw [unit]
  push_cast
  field_simp

theorem value_eq_sign_mul :
    d.value = (if d.negative then -1 else 1) * valueOfParts (d.coefficient, d.scale) := by
  unfold value mantissa valueOfParts
  split
  · push_cast
    ring
  · push_cast
    ring

@[simp] theorem value_zero : (0 : Decimal).value = 0 := by
  change ((0 : ℤ) : ℚ) / 10 ^ 0 = 0
  norm_num

@[simp] theorem value_hundred : hundred.value = 100 := by
  change ((100 : ℤ) : ℚ) / 10 ^ 0 = 100
  norm_num

theorem le_iff_value_le {a b : Decimal} : a ≤ b ↔ a.value ≤ b.value := by
  have ha : (0 : ℚ) < 10 ^ a.scale := by positivity
  have hb : (0 : ℚ) < 10 ^ b.scale := by positivity
  change a.mantissa * Int.pow 10 b.scale ≤ b.mantissa * Int.pow 10 a.scale ↔ _
  rw [value, value, div_le_div_iff₀ ha hb, Int.pow_eq, Int.pow_eq]
  exact_mod_cast Iff.rfl

theorem floor_eq : d.floor = ⌊d.value⌋ := by
  have h := Rat.floor_intCast_div_natCast d.mantissa (10 ^ d.scale)
  push_cast at h
  rw [value, h]
  rfl

/-! ### Next to a whole number -/

variable {d} {q : ℤ}

/-- Below a whole number means a unit below it. -/
theorem value_le_sub_unit (h : d.value < q) : d.value ≤ q - d.unit := by
  have hunit := d.unit_pos
  rw [value_eq_mantissa_mul, intCast_eq_mul_unit d q] at h
  have hlt : d.mantissa < q * 10 ^ d.scale := by
    exact_mod_cast lt_of_mul_lt_mul_right h hunit.le
  have hle : (d.mantissa : ℚ) ≤ (q * 10 ^ d.scale : ℤ) - 1 := by
    exact_mod_cast Int.le_sub_one_of_lt hlt
  calc d.value = d.mantissa * d.unit := value_eq_mantissa_mul d
    _ ≤ ((q * 10 ^ d.scale : ℤ) - 1) * d.unit := mul_le_mul_of_nonneg_right hle hunit.le
    _ = q - d.unit := by rw [sub_mul, one_mul, ← intCast_eq_mul_unit]

/-- Above a whole number means a unit above it. -/
theorem add_unit_le_value (h : q < d.value) : q + d.unit ≤ d.value := by
  have hunit := d.unit_pos
  rw [value_eq_mantissa_mul, intCast_eq_mul_unit d q] at h
  have hlt : q * 10 ^ d.scale < d.mantissa := by
    exact_mod_cast lt_of_mul_lt_mul_right h hunit.le
  have hle : ((q * 10 ^ d.scale : ℤ) : ℚ) + 1 ≤ d.mantissa := by
    exact_mod_cast Int.add_one_le_of_lt hlt
  calc q + d.unit = ((q * 10 ^ d.scale : ℤ) + 1) * d.unit := by
        rw [add_mul, one_mul, ← intCast_eq_mul_unit]
    _ ≤ d.mantissa * d.unit := mul_le_mul_of_nonneg_right hle hunit.le
    _ = d.value := (value_eq_mantissa_mul d).symm

theorem le_value_of_sub_unit_lt (h : q - d.unit < d.value) : q ≤ d.value := by
  by_contra hlt
  exact absurd (value_le_sub_unit (not_le.1 hlt)) (not_le.2 h)

theorem value_le_of_lt_add_unit (h : d.value < q + d.unit) : d.value ≤ q := by
  by_contra hlt
  exact absurd (add_unit_le_value (not_le.1 hlt)) (not_le.2 h)

/-! ### Dropping zeros -/

theorem valueOfParts_shorten {coefficient scale k : Nat} (hk : k ≤ scale)
    (h : coefficient % Nat.pow 10 k = 0) :
    valueOfParts (coefficient / Nat.pow 10 k, scale - k) = valueOfParts (coefficient, scale) := by
  obtain ⟨rest, rfl⟩ := Nat.exists_eq_add_of_le hk
  obtain ⟨quotient, rfl⟩ := Nat.dvd_of_mod_eq_zero h
  have hpos : 0 < Nat.pow 10 k := Nat.pow_pos (by decide)
  rw [Nat.mul_div_cancel_left _ hpos, Nat.add_sub_cancel_left]
  unfold valueOfParts
  rw [Nat.pow_eq]
  push_cast
  rw [pow_add]
  field_simp

theorem valueOfParts_lengthen (coefficient scale k : Nat) :
    valueOfParts (coefficient * Nat.pow 10 k, scale + k) = valueOfParts (coefficient, scale) := by
  unfold valueOfParts
  rw [Nat.pow_eq]
  push_cast
  rw [pow_add]
  field_simp

theorem valueOfParts_dropZeros (k : Nat) (parts : Nat × Nat) :
    valueOfParts (dropZeros k parts) = valueOfParts parts := by
  unfold dropZeros
  split
  · rename_i h
    exact valueOfParts_shorten h.1 h.2
  · rfl

theorem valueOfParts_dropEights (coefficient scale : Nat) :
    valueOfParts (dropEights coefficient scale) = valueOfParts (coefficient, scale) := by
  fun_induction dropEights coefficient scale with
  | case1 coefficient scale h ih =>
    rw [ih]
    exact valueOfParts_shorten h.1 h.2.2
  | case2 coefficient scale h => rfl

theorem valueOfParts_trimZeros (coefficient scale : Nat) :
    valueOfParts (trimZeros coefficient scale) = valueOfParts (coefficient, scale) := by
  unfold trimZeros
  rw [valueOfParts_dropZeros, valueOfParts_dropZeros, valueOfParts_dropZeros,
    valueOfParts_dropEights]

/-! ### A hundredth -/

/-- A quotient with two more free places is lengthened by two at least. -/
theorem two_le_lengthening {coefficient scale : Nat} (hcoefficient : coefficient < limit)
    (hscale : scale ≤ 26) : 2 ≤ lengthening (coefficient / 100) scale := by
  unfold lengthening
  have hfits : coefficient / 100 * Nat.pow 10 2 < limit :=
    Nat.lt_of_le_of_lt (Nat.div_mul_le_self coefficient 100) hcoefficient
  have htwo : 2 ∈ (List.range 10).reverse := by decide
  have hdescending : (List.range 10).reverse.Pairwise (· > ·) := by decide
  cases hfound : (List.range 10).reverse.find? fun k =>
      scale + k ≤ maxScale && coefficient / 100 * Nat.pow 10 k < limit with
  | none =>
    refine absurd ?_ (List.find?_eq_none.1 hfound 2 htwo)
    rw [Bool.and_eq_true, decide_eq_true_eq, decide_eq_true_eq]
    exact ⟨Nat.add_le_add_right hscale 2, hfits⟩
  | some k =>
    obtain ⟨-, before, after, hsplit, hskipped⟩ := List.find?_eq_some_iff_append.1 hfound
    rw [hsplit] at htwo hdescending
    rcases List.mem_append.1 htwo with hbefore | hrest
    · have hrefused := hskipped 2 hbefore
      rw [Bool.not_eq_true', Bool.and_eq_false_iff, decide_eq_false_iff_not,
        decide_eq_false_iff_not] at hrefused
      exact absurd hfits (hrefused.resolve_left (not_not.2 (Nat.add_le_add_right hscale 2)))
    · rcases List.mem_cons.1 hrest with heq | hafter
      · exact heq.le
      · have hgreater := (List.pairwise_append.1 hdescending).2.1
        exact (List.rel_of_pairwise_cons hgreater hafter).le

theorem valueOfParts_div_hundred (coefficient scale : Nat) :
    valueOfParts (coefficient, scale + 2) = valueOfParts (coefficient, scale) / 100 := by
  unfold valueOfParts
  rw [pow_add, div_div]
  norm_num

/-- With two more free places, or two zeros at the end, nothing is lost. -/
theorem hundredthParts_exact {coefficient scale : Nat} (hcoefficient : coefficient < limit)
    (h : scale ≤ 26 ∨ coefficient % 100 = 0) :
    valueOfParts (hundredthParts coefficient scale) = valueOfParts (coefficient, scale) / 100 := by
  unfold hundredthParts
  split
  · rename_i hzeros
    rw [← valueOfParts_div_hundred]
    exact valueOfParts_shorten (Nat.le_add_left 2 scale) hzeros
  · rename_i hzeros
    have hscale := h.resolve_right hzeros
    rw [if_neg (Nat.not_lt.2 hscale)]
    have htwo := two_le_lengthening hcoefficient hscale
    simp only
    generalize lengthening (coefficient / 100) scale = k at htwo ⊢
    obtain ⟨more, rfl⟩ := Nat.exists_eq_add_of_le htwo
    split
    · rw [valueOfParts_trimZeros, Nat.add_sub_cancel_left, ← Nat.add_assoc,
        valueOfParts_lengthen, valueOfParts_div_hundred]
    · rename_i hlong
      -- One place less is only taken when there is a place to take.
      have hmore : more ≠ 0 := by
        rintro rfl
        exact hlong (by simpa using hcoefficient)
      obtain ⟨less, rfl⟩ := Nat.exists_eq_succ_of_ne_zero hmore
      have hplaces : 2 + less.succ - 3 = less := by omega
      have hscales : scale + (2 + less.succ) - 1 = scale + 2 + less := by omega
      rw [valueOfParts_trimZeros, hplaces, hscales, valueOfParts_lengthen,
        valueOfParts_div_hundred]

/-- A hundredth is rounded in the 28th place, if at all. -/
theorem hundredthParts_near {coefficient scale : Nat} (hcoefficient : coefficient < limit) :
    |valueOfParts (hundredthParts coefficient scale) - valueOfParts (coefficient, scale) / 100| ≤
      1 / 2 / 10 ^ 28 := by
  by_cases hexact : scale ≤ 26 ∨ coefficient % 100 = 0
  · rw [hundredthParts_exact hcoefficient hexact, sub_self, abs_zero]
    positivity
  · rw [not_or, Nat.not_le] at hexact
    obtain ⟨excess, rfl⟩ := Nat.exists_eq_add_of_lt hexact.1
    have hdropped : 26 + excess + 1 - 26 = excess + 1 := by omega
    unfold hundredthParts
    rw [if_neg hexact.2, if_pos hexact.1, valueOfParts_trimZeros, hdropped]
    have hnear := roundHalfEven_near (n := coefficient) (d := 10 ^ (excess + 1)) (by positivity)
    have hparts : valueOfParts (coefficient, 26 + excess + 1) / 100 =
        coefficient / (10 ^ (excess + 1) : ℕ) / 10 ^ 28 := by
      rw [← valueOfParts_div_hundred, valueOfParts, div_div]
      push_cast
      rw [← pow_add]
      congr 2
      omega
    rw [hparts, valueOfParts, ← sub_div, abs_div, abs_of_pos (show (0 : ℚ) < 10 ^ 28 by positivity)]
    exact div_le_div_of_nonneg_right hnear (by positivity)

theorem value_hundredth_sub (d : Decimal) :
    d.hundredth.value - d.value / 100 = (if d.negative then -1 else 1) *
      (valueOfParts (hundredthParts d.coefficient d.scale) -
        valueOfParts (d.coefficient, d.scale) / 100) := by
  rw [value_eq_sign_mul, value_eq_sign_mul d, mul_sub, mul_div_assoc]
  rfl

/-- **A hundredth is off by half a unit of the 28th place at most.** -/
theorem hundredth_near (d : Decimal) : |d.hundredth.value - d.value / 100| ≤ 1 / 2 / 10 ^ 28 := by
  rw [value_hundredth_sub, abs_mul]
  have hsign : |(if d.negative then -1 else 1 : ℚ)| = 1 := by split <;> norm_num
  rw [hsign, one_mul]
  exact hundredthParts_near d.coefficient_lt

/-- **A hundredth of a number that needs few places is exact.** -/
theorem hundredth_exact {places : Nat} (hplaces : places ≤ 25) (h : d.HasPlaces places) :
    d.hundredth.value = d.value / 100 := by
  suffices hexact : d.scale ≤ 26 ∨ d.coefficient % 100 = 0 by
    rw [← sub_eq_zero, value_hundredth_sub, hundredthParts_exact d.coefficient_lt hexact, sub_self,
      mul_zero]
  by_cases hscale : d.scale ≤ 26
  · exact .inl hscale
  right
  obtain ⟨n, hn⟩ := h
  obtain ⟨more, hmore⟩ := Nat.exists_eq_add_of_le (show places + 2 ≤ d.scale by omega)
  -- The places that are not needed are zeros, and there are two of them.
  have hmantissa : d.mantissa = n * (10 ^ 2 * 10 ^ more) := by
    rw [value, hmore, div_eq_div_iff (by positivity) (by positivity), pow_add, pow_add] at hn
    have hcancel : (d.mantissa : ℚ) = n * (10 ^ 2 * 10 ^ more) := by
      refine mul_right_cancel₀ (show (10 : ℚ) ^ places ≠ 0 by positivity) ?_
      linarith
    exact_mod_cast hcancel
  have hcoefficient : d.coefficient = 100 * (n.natAbs * 10 ^ more) := by
    rw [← natAbs_mantissa, hmantissa, Int.natAbs_mul, Nat.mul_left_comm, Int.natAbs_mul,
      Int.natAbs_pow]
    rfl
  rw [hcoefficient, Nat.mul_mod_right]

theorem hundredth_nonneg (h : 0 ≤ d.value) : 0 ≤ d.hundredth.value := by
  have hnear := (abs_le.1 d.hundredth_near).1
  have hunit := d.hundredth.le_unit
  have hhalf : (1 : ℚ) / 2 / 10 ^ 28 < 1 / 10 ^ 28 := by norm_num
  have hzero : ((0 : ℤ) : ℚ) - d.hundredth.unit < d.hundredth.value := by
    push_cast
    linarith
  exact_mod_cast le_value_of_sub_unit_lt hzero

/-- A hundredth of no more than a hundred is no more than one, also when it is rounded. -/
theorem hundredth_le_one (h : d.value ≤ 100) : d.hundredth.value ≤ 1 := by
  have hnear := (abs_le.1 d.hundredth_near).2
  have hunit := d.hundredth.le_unit
  have hhalf : (1 : ℚ) / 2 / 10 ^ 28 < 1 / 10 ^ 28 := by norm_num
  have hone : d.hundredth.value < ((1 : ℤ) : ℚ) + d.hundredth.unit := by
    push_cast
    linarith
  exact_mod_cast value_le_of_lt_add_unit hone

end Decimal

end OrderDesk
