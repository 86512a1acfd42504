import Mathlib.Data.Nat.Cast.Order.Field
import OrderDesk.Proofs.Number.Value

/-!
# Rounded products

A product of decimal numbers is rounded to as many places as fit, so how coarse it is depends on
its size. `Decimal.Rounds` says what is kept in spite of that: the product is exact, or it is off by
half a unit of its last place at most and its digits are as many as fit.

## What is proved

* `rounds_of_mul?` and `exists_mul?`: when a product is found, and that it is rounded.
* `Rounds.near`: it is off by one part in `10 ^ 28` at most, whatever its size.
* `Rounds.eq_of_hasPlaces`: it is exact where it needs no places beyond those that it keeps.
* `Rounds.floor_le_floor`: a greater product has no smaller whole part, also where the greater
  one is rounded more coarsely.
* `Rounds.floor_le_floor_add_one`: one unit more adds one at most to the whole part of its product
  with a number up to one.
-/

namespace OrderDesk.Decimal

open OrderDesk.Number

/-- The decimal number is the rational number rounded to as many places as fit: with one place more
the digits would reach the limit. -/
inductive Rounds (x : ℚ) (r : Decimal) : Prop
  | exact (heq : r.value = x)
  | inexact (hhalf : |r.value - x| ≤ r.unit / 2)
    (hfull : ((limit : ℚ) - 1 / 2) * (r.unit / 10) ≤ x)

theorem limit_cast : (limit : ℚ) = 2 ^ 96 := by
  unfold limit
  rw [Nat.pow_eq]
  norm_num

/-! ### Where a product is cut -/

theorem cut?_eq_some_iff {product scale k : Nat} (hscale : scale ≤ 28) :
    cut? product scale = some k ↔ k ≤ scale ∧ product / 10 ^ k < limit ∧
      ∀ j < k, limit ≤ product / 10 ^ j := by
  have hplaces : ∀ j, scale ≤ j + maxScale := fun j => Nat.le_trans hscale (Nat.le_add_left 28 j)
  unfold cut?
  rw [List.find?_range_eq_some]
  simp only [hplaces, decide_true, Bool.true_and, decide_eq_true_eq, List.mem_range,
    Nat.lt_succ_iff, Bool.not_eq_true', decide_eq_false_iff_not, Nat.not_lt, Nat.pow_eq]
  tauto

theorem exists_cut? {product scale : Nat} (h : product / 10 ^ scale < limit) :
    ∃ k, cut? product scale = some k := by
  rw [← Option.isSome_iff_exists, cut?, List.find?_isSome]
  refine ⟨scale, List.mem_range.2 (Nat.lt_succ_self scale), ?_⟩
  rw [Bool.and_eq_true, decide_eq_true_eq, decide_eq_true_eq, Nat.pow_eq]
  exact ⟨Nat.le_add_right scale maxScale, h⟩

/-! ### Signs -/

theorem eq_of_ofParts? {negative : Bool} {coefficient scale : Nat} {r : Decimal}
    (h : ofParts? negative coefficient scale = some r) :
    r.negative = negative ∧ r.coefficient = coefficient ∧ r.scale = scale := by
  unfold ofParts? at h
  split at h
  · obtain rfl := Option.some.inj h
    exact ⟨rfl, rfl, rfl⟩
  · cases h

/-- A number that is not below zero has a minus only when it is zero. -/
theorem coefficient_eq_zero {d : Decimal} (h : 0 ≤ d.value) (hnegative : d.negative = true) :
    d.coefficient = 0 := by
  rw [value, le_div_iff₀ (by positivity), zero_mul] at h
  have hmantissa : 0 ≤ d.mantissa := by exact_mod_cast h
  unfold mantissa at hmantissa
  rw [if_pos hnegative] at hmantissa
  omega

theorem value_eq_valueOfParts {d : Decimal} (h : 0 ≤ d.value) :
    d.value = valueOfParts (d.coefficient, d.scale) := by
  rw [value_eq_sign_mul]
  split
  · rename_i hnegative
    rw [coefficient_eq_zero h hnegative]
    simp [valueOfParts]
  · rw [one_mul]

/-- The product of two numbers that are not below zero has no minus. -/
theorem sign_of_product {a b : Decimal} (ha : 0 ≤ a.value) (hb : 0 ≤ b.value) :
    (a.coefficient * b.coefficient != 0 && a.negative != b.negative) = false := by
  by_cases hzero : a.coefficient * b.coefficient = 0
  · rw [hzero]
    rfl
  · have hminusA : a.negative = false := by
      rw [← Bool.not_eq_true]
      intro hnegative
      exact hzero (by rw [coefficient_eq_zero ha hnegative, Nat.zero_mul])
    have hminusB : b.negative = false := by
      rw [← Bool.not_eq_true]
      intro hnegative
      exact hzero (by rw [coefficient_eq_zero hb hnegative, Nat.mul_zero])
    rw [hminusA, hminusB]
    exact Bool.and_false _

/-! ### The product -/

/-- The limit drops its last digit when it is rounded once more. -/
theorem roundHalfEven_limit : roundHalfEven limit 10 * 10 = limit + 4 := by decide

/-- How the digits and the places of a product come about. -/
theorem mul?_eq_some_iff {a b r : Decimal} (ha : 0 ≤ a.value) (hb : 0 ≤ b.value) :
    a.mul? b = some r ↔ ∃ k, cut? (a.coefficient * b.coefficient) (a.scale + b.scale) = some k ∧
      let rounded := roundHalfEven (a.coefficient * b.coefficient) (10 ^ k)
      (rounded < limit ∧ ofParts? false rounded (a.scale + b.scale - k) = some r ∨
        limit ≤ rounded ∧ k < a.scale + b.scale ∧
          ofParts? false (roundHalfEven rounded 10) (a.scale + b.scale - k - 1) = some r) := by
  unfold mul?
  simp only [sign_of_product ha hb, Nat.pow_eq]
  cases cut? (a.coefficient * b.coefficient) (a.scale + b.scale) with
  | none => simp
  | some k =>
    by_cases hshort : roundHalfEven (a.coefficient * b.coefficient) (10 ^ k) < limit
    · simp [hshort, Nat.not_le.2 hshort]
    · by_cases hplace : k < a.scale + b.scale
      · simp [hshort, Nat.not_lt.1 hshort, hplace]
      · simp [hshort, hplace]

/-- The first rounding of a product, at the place where it is cut. -/
theorem rounded_near (product : Nat) {scale k : Nat} (hk : k ≤ scale) :
    |valueOfParts (roundHalfEven product (10 ^ k), scale - k) - valueOfParts (product, scale)| ≤
      1 / 10 ^ (scale - k) / 2 := by
  obtain ⟨rest, rfl⟩ := Nat.exists_eq_add_of_le hk
  have hnear := roundHalfEven_near (n := product) (d := 10 ^ k) (by positivity)
  have hparts : valueOfParts (product, k + rest) = product / (10 ^ k : ℕ) / 10 ^ rest := by
    rw [valueOfParts, div_div]
    push_cast
    rw [← pow_add]
  rw [Nat.add_sub_cancel_left, hparts, valueOfParts, ← sub_div, abs_div,
    abs_of_pos (show (0 : ℚ) < 10 ^ rest by positivity), div_right_comm]
  exact div_le_div_of_nonneg_right hnear (by positivity)

theorem value_of_ofParts? {coefficient scale : Nat} {r : Decimal}
    (h : ofParts? false coefficient scale = some r) :
    r.value = valueOfParts (coefficient, scale) ∧ r.unit = 1 / 10 ^ scale := by
  obtain ⟨hnegative, rfl, rfl⟩ := eq_of_ofParts? h
  rw [value_eq_sign_mul, hnegative]
  exact ⟨one_mul _, rfl⟩

/-- Digits that fit after they were rounded once. -/
theorem rounds_of_short {product scale k : Nat} {r : Decimal} (hk : k ≤ scale)
    (hleast : ∀ j < k, limit ≤ product / 10 ^ j)
    (hparts : ofParts? false (roundHalfEven product (10 ^ k)) (scale - k) = some r) :
    Rounds (valueOfParts (product, scale)) r := by
  obtain ⟨hvalue, hunit⟩ := value_of_ofParts? hparts
  rcases Nat.eq_zero_or_pos k with rfl | hpos
  · -- Nothing was cut off.
    have hsame : roundHalfEven product (10 ^ 0) = product := by
      rw [pow_zero, roundHalfEven_eq_div Nat.one_pos (Nat.mod_one product), Nat.div_one]
    exact .exact (by rw [hvalue, hsame, Nat.sub_zero])
  · refine .inexact (by rw [hvalue, hunit]; exact rounded_near product hk) ?_
    obtain ⟨j, rfl⟩ := Nat.exists_eq_add_of_le' hpos
    obtain ⟨rest, rfl⟩ := Nat.exists_eq_add_of_le hk
    have hbefore : limit * 10 ^ j ≤ product :=
      (Nat.le_div_iff_mul_le (by positivity)).1 (hleast j (Nat.lt_succ_self j))
    have hbefore' : (limit : ℚ) * 10 ^ j ≤ product := by exact_mod_cast hbefore
    rw [hunit, Nat.add_sub_cancel_left, valueOfParts, le_div_iff₀ (by positivity)]
    calc ((limit : ℚ) - 1 / 2) * (1 / 10 ^ rest / 10) * 10 ^ (j + 1 + rest)
        = ((limit : ℚ) - 1 / 2) * 10 ^ j := by
          rw [pow_add, pow_succ]
          field_simp
      _ ≤ limit * 10 ^ j := mul_le_mul_of_nonneg_right (by linarith) (by positivity)
      _ ≤ product := hbefore'

/-- Digits that were rounded up to the limit, so that one more place went. -/
theorem rounds_of_full {product scale k : Nat} {r : Decimal} (hk : k < scale)
    (hfull : roundHalfEven product (10 ^ k) = limit)
    (hparts : ofParts? false (roundHalfEven limit 10) (scale - k - 1) = some r) :
    Rounds (valueOfParts (product, scale)) r := by
  have hnear := rounded_near product hk.le
  obtain ⟨hvalue, hunit⟩ := value_of_ofParts? hparts
  obtain ⟨rest, rfl⟩ := Nat.exists_eq_add_of_lt hk
  have hrest : k + rest + 1 - k = rest + 1 := by omega
  rw [hfull, hrest] at hnear
  rw [hrest, Nat.add_sub_cancel] at hvalue hunit
  have htenth : r.unit / 10 = 1 / 10 ^ (rest + 1) := by
    rw [hunit, div_div, ← pow_succ]
  have hcoefficient : (roundHalfEven limit 10 : ℚ) * 10 = limit + 4 := by
    exact_mod_cast roundHalfEven_limit
  have hvalue' : r.value = ((limit : ℚ) + 4) * (r.unit / 10) := by
    rw [hvalue, htenth, ← hcoefficient, valueOfParts, pow_succ]
    field_simp
  have hlimit : valueOfParts (limit, rest + 1) = limit * (r.unit / 10) := by
    rw [htenth, valueOfParts, mul_one_div]
  rw [hlimit, ← htenth, abs_le] at hnear
  have hpos := r.unit_pos
  refine .inexact (abs_le.2 ⟨?_, ?_⟩) ?_
  · rw [hvalue', add_mul]
    linarith [hnear.1]
  · rw [hvalue', add_mul]
    linarith [hnear.2]
  · rw [sub_mul]
    linarith [hnear.2]

/-- **A product is rounded to as many places as fit.** -/
theorem rounds_of_mul? {a b r : Decimal} (ha : 0 ≤ a.value) (hb : 0 ≤ b.value)
    (hscale : a.scale + b.scale ≤ 28) (h : a.mul? b = some r) :
    Rounds (a.value * b.value) r := by
  have hproduct : a.value * b.value =
      valueOfParts (a.coefficient * b.coefficient, a.scale + b.scale) := by
    rw [value_eq_valueOfParts ha, value_eq_valueOfParts hb]
    unfold valueOfParts
    push_cast
    rw [pow_add, div_mul_div_comm]
  obtain ⟨k, hcut, hrounded⟩ := (mul?_eq_some_iff ha hb).1 h
  obtain ⟨hk, hfits, hleast⟩ := (cut?_eq_some_iff hscale).1 hcut
  rw [hproduct]
  rcases hrounded with ⟨-, hparts⟩ | ⟨hlimit, hplace, hparts⟩
  · exact rounds_of_short hk hleast hparts
  · have hfull := Nat.le_antisymm (Nat.le_trans (roundHalfEven_le _ _) hfits) hlimit
    rw [hfull] at hparts
    exact rounds_of_full hplace hfull hparts

/-- A product whose whole part is small enough is found. -/
theorem exists_mul? {a b : Decimal} (ha : 0 ≤ a.value) (hb : 0 ≤ b.value)
    (hscale : a.scale + b.scale ≤ 28) (h : a.value * b.value ≤ limit - 2) :
    ∃ r, a.mul? b = some r := by
  simp only [mul?_eq_some_iff ha hb]
  rw [value_eq_valueOfParts ha, value_eq_valueOfParts hb] at h
  have hwhole : a.coefficient * b.coefficient / 10 ^ (a.scale + b.scale) + 2 ≤ limit := by
    unfold valueOfParts at h
    rw [div_mul_div_comm, ← pow_add] at h
    have hdiv : ((a.coefficient * b.coefficient / 10 ^ (a.scale + b.scale) : ℕ) : ℚ) ≤
        a.coefficient * b.coefficient / 10 ^ (a.scale + b.scale) := by
      exact_mod_cast Nat.cast_div_le (α := ℚ) (m := a.coefficient * b.coefficient)
        (n := 10 ^ (a.scale + b.scale))
    have hle :
        ((a.coefficient * b.coefficient / 10 ^ (a.scale + b.scale) : ℕ) : ℚ) + 2 ≤ limit := by
      linarith
    exact_mod_cast hle
  generalize a.coefficient * b.coefficient = product at hwhole ⊢
  generalize a.scale + b.scale = scale at hscale hwhole ⊢
  obtain ⟨k, hcut⟩ := exists_cut? (show product / 10 ^ scale < limit by omega)
  obtain ⟨hk, hfits, -⟩ := (cut?_eq_some_iff hscale).1 hcut
  have hrounded := roundHalfEven_le product (10 ^ k)
  by_cases hshort : roundHalfEven product (10 ^ k) < limit
  · exact ⟨_, k, hcut, .inl ⟨hshort, dif_pos ⟨hshort, by omega⟩⟩⟩
  · have hplace : k < scale := by
      refine Nat.lt_of_le_of_ne hk ?_
      rintro rfl
      omega
    have hagain := roundHalfEven_le (roundHalfEven product (10 ^ k)) 10
    have hsmall : roundHalfEven (roundHalfEven product (10 ^ k)) 10 < limit := by
      have hlimit : limit / 10 + 1 < limit := by decide
      have hdiv := Nat.div_le_div_right (c := 10) (show roundHalfEven product (10 ^ k) ≤ limit by
        omega)
      omega
    exact ⟨_, k, hcut, .inr ⟨Nat.not_lt.1 hshort, hplace, dif_pos ⟨hsmall, by omega⟩⟩⟩

/-! ### What a rounded number keeps -/

namespace Rounds

variable {x y : ℚ} {r s : Decimal}

/-- **A rounded number is off by one part in `10 ^ 28` at most.** -/
theorem near (h : Rounds x r) (hx : 0 ≤ x) : |r.value - x| ≤ x / 10 ^ 28 := by
  cases h with
  | exact heq =>
    rw [heq, sub_self, abs_zero]
    positivity
  | inexact hhalf hfull =>
    refine hhalf.trans ?_
    have hpos := r.unit_pos
    rw [limit_cast] at hfull
    rw [le_div_iff₀ (by positivity)]
    linarith

/-- A number on the grid of the rounded one is not changed. -/
theorem eq_of_units (h : Rounds x r) {z : ℤ} (hz : x = z * r.unit) : r.value = x := by
  cases h with
  | exact heq => exact heq
  | inexact hhalf _ =>
    have hpos := r.unit_pos
    rw [hz, value_eq_mantissa_mul, ← sub_mul, abs_mul, abs_of_pos hpos, ← one_div_mul_eq_div]
      at hhalf
    have hless : |(r.mantissa : ℚ) - z| ≤ 1 / 2 := le_of_mul_le_mul_right hhalf hpos
    have hsame : |r.mantissa - z| < 1 := by
      have hcast : ((|r.mantissa - z| : ℤ) : ℚ) < 1 := by
        push_cast
        linarith
      exact_mod_cast hcast
    have heq : r.mantissa = z := sub_eq_zero.1 (Int.abs_lt_one_iff.1 hsame)
    rw [value_eq_mantissa_mul, heq, hz]

/-- **A number with few places is not changed** while the places are no finer than those that a
number of its size keeps. -/
theorem eq_of_hasPlaces (h : Rounds x r) {places : Nat} {z : ℤ} (hz : x = z / 10 ^ places)
    (hx : x * 10 ^ places ≤ 10 ^ 28) : r.value = x := by
  by_cases hexact : places ≤ r.scale
  · obtain ⟨more, hmore⟩ := Nat.exists_eq_add_of_le hexact
    refine h.eq_of_units (z := z * 10 ^ more) ?_
    rw [hz, unit, hmore, pow_add]
    push_cast
    field_simp
  · cases h with
    | exact heq => exact heq
    | inexact _ hfull =>
      -- So coarse a unit would take a number with too many digits.
      obtain ⟨more, hmore⟩ := Nat.exists_eq_add_of_lt (Nat.not_le.1 hexact)
      have hone : (1 : ℚ) ≤ 10 ^ more := one_le_pow₀ (by norm_num)
      have hpower : r.unit / 10 * 10 ^ places = 10 ^ more := by
        rw [unit, hmore, pow_succ, pow_add]
        field_simp
      have hmany := mul_le_mul_of_nonneg_right hfull (show (0 : ℚ) ≤ 10 ^ places by positivity)
      rw [mul_assoc, hpower, limit_cast] at hmany
      linarith

theorem eq_zero (h : Rounds 0 r) : r.value = 0 := by
  refine h.eq_of_units (z := 0) ?_
  rw [Int.cast_zero, zero_mul]

/-- A number that was rounded up to a whole one was within half a unit of it. -/
theorem sub_le_of_le {q : ℤ} (h : Rounds x r) (hq : q ≤ r.value) (hx : x < q) :
    2 * (q - x) ≤ r.unit ∧ ((limit : ℚ) - 1 / 2) * (r.unit / 10) ≤ x := by
  cases h with
  | exact heq => exact absurd hx (not_lt.2 (heq ▸ hq))
  | inexact hhalf hfull =>
    refine ⟨?_, hfull⟩
    linarith [(abs_le.1 hhalf).2]

/-- A number that was not rounded up to a whole one was at least half a unit below it. -/
theorem unit_le_of_lt {q : ℤ} (h : Rounds x r) (hq : r.value < q) : r.unit ≤ 2 * (q - x) := by
  have hbelow := value_le_sub_unit hq
  have hpos := r.unit_pos
  cases h with
  | exact heq =>
    rw [heq] at hbelow
    linarith
  | inexact hhalf _ => linarith [(abs_le.1 hhalf).1]

/-- Rounding does not go beyond a whole number. -/
theorem le_intCast {q : ℤ} (h : Rounds x r) (hx : x ≤ q) : r.value ≤ q := by
  cases h with
  | exact heq => exact heq ▸ hx
  | inexact hhalf _ =>
    refine value_le_of_lt_add_unit ?_
    linarith [(abs_le.1 hhalf).2, r.unit_pos]

theorem intCast_le {q : ℤ} (h : Rounds x r) (hx : q ≤ x) : q ≤ r.value := by
  cases h with
  | exact heq => exact heq ▸ hx
  | inexact hhalf _ =>
    refine le_value_of_sub_unit_lt ?_
    linarith [(abs_le.1 hhalf).1, r.unit_pos]

/-- Below the limit for digits a number is below the limit times its unit. -/
theorem le_mul_unit (h : Rounds x r) : x ≤ (limit - 1 / 2) * r.unit := by
  have hpos := r.unit_pos
  have hmantissa : (r.mantissa : ℚ) ≤ limit - 1 := by
    have hcoefficient := r.coefficient_lt
    have hmantissa : r.mantissa + 1 ≤ limit := by
      unfold mantissa
      split <;> omega
    have hcast : (r.mantissa : ℚ) + 1 ≤ limit := by exact_mod_cast hmantissa
    linarith
  have hvalue : r.value ≤ (limit - 1) * r.unit := by
    rw [value_eq_mantissa_mul]
    exact mul_le_mul_of_nonneg_right hmantissa hpos.le
  cases h with
  | exact heq =>
    rw [← heq]
    linarith
  | inexact hhalf _ => linarith [(abs_le.1 hhalf).1]

/-- **Rounding keeps the order of whole parts.** A greater number may be rounded more coarsely, but
never below a whole number that a smaller one was rounded up to. -/
theorem floor_le_floor (hr : Rounds x r) (hs : Rounds y s) (h : x < y) :
    ⌊r.value⌋ ≤ ⌊s.value⌋ := by
  by_contra hless
  have hreached : (⌊r.value⌋ : ℚ) ≤ r.value := Int.floor_le _
  have hmissed : s.value < ⌊r.value⌋ := Int.floor_lt.1 (not_le.1 hless)
  generalize ⌊r.value⌋ = q at hreached hmissed
  have hsUnit := hs.unit_le_of_lt hmissed
  have hsPos := s.unit_pos
  obtain ⟨hrUnit, hfull⟩ := hr.sub_le_of_le hreached (by linarith)
  -- So the smaller number has the coarser unit, by a power of ten.
  have hfiner : s.unit < r.unit := by linarith
  have htenth : s.unit ≤ r.unit / 10 := by
    unfold unit at hfiner ⊢
    rw [one_div_lt_one_div (by positivity) (by positivity)] at hfiner
    have hscale := (pow_lt_pow_iff_right₀ (by norm_num : (1 : ℚ) < 10)).1 hfiner
    rw [div_div, ← pow_succ]
    exact one_div_le_one_div_of_le (by positivity) (pow_le_pow_right₀ (by norm_num) hscale)
  have hlimit : (0 : ℚ) ≤ limit - 1 / 2 := by
    rw [limit_cast]
    norm_num
  have hle := mul_le_mul_of_nonneg_left htenth hlimit
  linarith [hs.le_mul_unit]

/-- With one unit more a product stays clear of the whole number after the next, by more than a
product of its size is rounded. It could only come so close with one as the factor, and then the
whole number is one away. -/
theorem add_one_mul_lt {n q : ℤ} {factor : Decimal} (hn : 0 ≤ n) (hsmall : n < 10 ^ 13)
    (hone : factor.value ≤ 1) (hbelow : n * factor.value < q) :
    (n + 1) * factor.value + (n + 1) * factor.value / 10 ^ 28 < q + 1 := by
  by_contra hreached
  have hn' : (0 : ℚ) ≤ n := by exact_mod_cast hn
  have hsmall' : (n + 1 : ℚ) ≤ 10 ^ 13 := by exact_mod_cast Int.add_one_le_of_lt hsmall
  have hle : (n + 1 : ℚ) * factor.value ≤ n + 1 := mul_le_of_le_one_right (by linarith) hone
  obtain ⟨lack, hlack⟩ : ∃ lack, lack = q + 1 - (n + 1) * factor.value := ⟨_, rfl⟩
  have hclose : lack ≤ (n + 1) * factor.value / 10 ^ 28 := by linarith
  have hrest : 1 - factor.value < lack := by
    rw [hlack, add_mul]
    linarith
  rcases lt_trichotomy n q with hless | rfl | hgreater
  · -- The whole number is above all products with factors up to one.
    have hless' : (n + 1 : ℚ) ≤ q := by exact_mod_cast Int.add_one_le_of_lt hless
    linarith
  · -- The product lacks `n + 1` times what the factor lacks of one, and that is a unit at least.
    have hquotient : 1 - factor.value ≤ factor.value / 10 ^ 28 := by
      refine le_of_mul_le_mul_left ?_ (show (0 : ℚ) < n + 1 by linarith)
      linarith
    have hlt : factor.value < 1 := by
      by_contra hnot
      have hfull : factor.value = 1 := le_antisymm hone (not_lt.1 hnot)
      rw [hfull] at hlack hrest
      linarith
    have hunit := value_le_sub_unit (d := factor) (q := 1) (by exact_mod_cast hlt)
    push_cast at hunit
    linarith [factor.le_unit]
  · -- The factor is so far from one that the product before reaches the whole number before.
    have hgreater' : (q + 1 : ℚ) ≤ n := by exact_mod_cast Int.add_one_le_of_lt hgreater
    have hsquare : (n + 1 : ℚ) * (1 - factor.value) ≤ 10 ^ 13 * (10 ^ 13 / 10 ^ 28) :=
      mul_le_mul hsmall' (by linarith) (by linarith) (by positivity)
    linarith

/-- **One unit more adds one at most** to the whole part of its product with a number up to one. -/
theorem floor_le_floor_add_one {n : ℤ} {factor : Decimal} (hn : 0 ≤ n) (hsmall : n < 10 ^ 13)
    (hfactor : 0 ≤ factor.value) (hone : factor.value ≤ 1)
    (hr : Rounds (n * factor.value) r) (hs : Rounds ((n + 1 : ℤ) * factor.value) s) :
    ⌊s.value⌋ ≤ ⌊r.value⌋ + 1 := by
  have hmissed : r.value < ((⌊r.value⌋ + 1 : ℤ) : ℚ) := by
    push_cast
    exact Int.lt_floor_add_one _
  have hbelow : n * factor.value < ((⌊r.value⌋ + 1 : ℤ) : ℚ) := by
    by_contra hover
    exact absurd (hr.intCast_le (not_lt.1 hover)) (not_le.2 hmissed)
  have hnonneg : 0 ≤ ((n + 1 : ℤ) : ℚ) * factor.value :=
    mul_nonneg (by exact_mod_cast Int.add_nonneg hn Int.one_nonneg) hfactor
  have hnear := (abs_le.1 (hs.near hnonneg)).2
  have hclear := add_one_mul_lt hn hsmall hone hbelow
  refine Int.lt_add_one_iff.1 (Int.floor_lt.2 ?_)
  push_cast at hnear hclear ⊢
  linarith

end Rounds

end OrderDesk.Decimal
