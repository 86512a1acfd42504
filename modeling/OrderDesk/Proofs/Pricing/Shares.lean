import OrderDesk.Proofs.Number.Product
import OrderDesk.Proofs.Plan.DiscountTable

/-!
# Shares of an amount

What a tier charges and what a percentage takes off or adds is a share of an amount: some percent of
it, rounded down. It is worked out in decimal numbers, which are rounded twice before that, when the
percentage is divided by a hundred and when the product is cut to the digits that fit. The share can
therefore miss the exact one (`exactShare`), which is rounded once.

## What is proved

* `rounds_of_floorMul` and `exists_floorMul`: the whole part of a rounded product is found as long
  as it fits.
* `exists_share`: a share is found when it fits, and it misses the exact one by one at most, and not
  at all when the percentage needs no more than seven places (`IsShare`).
* `exists_share_le`: up to a hundred percent a share is always found, and lies between nothing and
  the amount.
* `shares_floored`: so it is with the prices of a discount table and with the reductions of a
  coupon; neither comes to what stands for a share that is not found.
-/

namespace OrderDesk

open OrderDesk.Decimal

/-! ### Whole parts of products -/

/-- An amount as a decimal number. -/
theorem exists_ofInt? {amount : Amount} (h : 0 ≤ amount) (hgreatest : amount ≤ Amount.greatest) :
    ∃ whole, Decimal.ofInt? amount = some whole ∧ whole.value = amount ∧ whole.scale = 0 := by
  have hlimit : amount.natAbs < limit := by
    have hlt : amount < limit := Int.lt_of_le_of_lt hgreatest (by decide)
    have hnat := Int.natAbs_lt_natAbs_of_nonneg_of_lt h hlt
    rwa [Int.natAbs_natCast] at hnat
  refine ⟨⟨decide (amount < 0), amount.natAbs, 0, hlimit, Nat.zero_le 28⟩,
    dif_pos ⟨hlimit, Nat.zero_le 28⟩, ?_, rfl⟩
  have hmantissa : (⟨decide (amount < 0), amount.natAbs, 0, hlimit, Nat.zero_le 28⟩ :
      Decimal).mantissa = amount := by
    unfold mantissa
    rw [if_neg (by simpa using h), Int.natAbs_of_nonneg h]
  rw [value, hmantissa, pow_zero, div_one]

section

variable {amount base : Amount} {factor : Decimal} (h : 0 ≤ amount)
  (hgreatest : amount ≤ Amount.greatest) (hfactor : 0 ≤ factor.value)

include h hgreatest hfactor

theorem rounds_of_floorMul (hbase : floorMul amount factor = some base) :
    ∃ r, Rounds (amount * factor.value) r ∧ base = ⌊r.value⌋ ∧ base ≤ Amount.greatest := by
  obtain ⟨whole, hwhole, hvalue, hscale⟩ := exists_ofInt? h hgreatest
  unfold floorMul at hbase
  simp only [hwhole, Option.bind_eq_bind, Option.bind_some, Option.bind_eq_some_iff] at hbase
  obtain ⟨r, hproduct, hfits⟩ := hbase
  have hnonneg : 0 ≤ whole.value := by
    rw [hvalue]
    exact_mod_cast h
  have hrounds := rounds_of_mul? hnonneg hfactor
    (by rw [hscale, Nat.zero_add]; exact factor.scale_le) hproduct
  unfold Amount.ofInt? at hfits
  split at hfits
  · rename_i hrange
    obtain rfl := Option.some.inj hfits
    rw [hvalue] at hrounds
    exact ⟨r, hrounds, floor_eq r, hrange.2⟩
  · cases hfits

theorem exists_floorMul (hsmall : amount * factor.value ≤ limit - 2) :
    ∃ r, Rounds (amount * factor.value) r ∧ 0 ≤ ⌊r.value⌋ ∧
      floorMul amount factor = if ⌊r.value⌋ ≤ Amount.greatest then some ⌊r.value⌋ else none := by
  obtain ⟨whole, hwhole, hvalue, hscale⟩ := exists_ofInt? h hgreatest
  have hnonneg : 0 ≤ whole.value := by
    rw [hvalue]
    exact_mod_cast h
  have hscales : whole.scale + factor.scale ≤ 28 := by
    rw [hscale, Nat.zero_add]
    exact factor.scale_le
  obtain ⟨r, hproduct⟩ := exists_mul? hnonneg hfactor hscales (hvalue.symm ▸ hsmall)
  have hrounds := rounds_of_mul? hnonneg hfactor hscales hproduct
  rw [hvalue] at hrounds
  have hfloor : 0 ≤ ⌊r.value⌋ := Int.le_floor.2 (hrounds.intCast_le (q := 0) (by
    push_cast
    exact mul_nonneg (by exact_mod_cast h) hfactor))
  have hfits : Amount.Fits ⌊r.value⌋ ↔ ⌊r.value⌋ ≤ Amount.greatest :=
    and_iff_right (Int.le_trans (by decide) hfloor)
  refine ⟨r, hrounds, hfloor, ?_⟩
  unfold floorMul
  rw [hwhole]
  simp only [Option.bind_eq_bind, Option.bind_some, hproduct, floor_eq, Amount.ofInt?, hfits]

end

/-! ### The exact share -/

/-- Some percent of an amount, rounded down once. -/
def exactShare (amount : Amount) (rate : Decimal) : Amount := ⌊(amount : ℚ) * rate.value / 100⌋

/-- The amount is some percent of another one up to a unit, and exactly when the percentage needs no
more than seven places. -/
structure IsShare (share amount : Amount) (rate : Decimal) : Prop where
  near : |share - exactShare amount rate| ≤ 1
  exact : rate.HasPlaces 7 → share = exactShare amount rate

theorem greatest_cast_lt {amount : Amount} (h : amount ≤ Amount.greatest) :
    (amount : ℚ) < 2 ^ 63 := by
  have hlt : amount < 2 ^ 63 := Int.lt_of_le_of_lt h (by decide)
  exact_mod_cast hlt

section

variable {amount : Amount} {rate r : Decimal} (h : 0 ≤ amount)
  (hgreatest : amount ≤ Amount.greatest)

include h hgreatest

/-- What is lost with the hundredth is multiplied by the amount, and stays far below one. -/
theorem hundredth_mul_near (rate : Decimal) :
    |amount * rate.hundredth.value - amount * rate.value / 100| ≤ 1 / 10 ^ 9 := by
  have hamount : (0 : ℚ) ≤ amount := by exact_mod_cast h
  have hlt := greatest_cast_lt hgreatest
  rw [mul_div_assoc, ← mul_sub, abs_mul, abs_of_nonneg hamount]
  calc (amount : ℚ) * |rate.hundredth.value - rate.value / 100|
      ≤ 2 ^ 63 * (1 / 2 / 10 ^ 28) :=
        mul_le_mul hlt.le (hundredth_near rate) (abs_nonneg _) (by positivity)
    _ ≤ 1 / 10 ^ 9 := by norm_num

/-- The two roundings together stay far below one. -/
theorem near_of_rounds (hrate : 0 ≤ rate.value) (hr : Rounds (amount * rate.hundredth.value) r)
    (hsmall : amount * rate.hundredth.value ≤ 2 ^ 64) :
    |r.value - amount * rate.value / 100| < 1 / 10 ^ 8 := by
  have hamount : (0 : ℚ) ≤ amount := by exact_mod_cast h
  have hproduct := abs_le.1 (hundredth_mul_near h hgreatest rate)
  have hrounded := abs_le.1 (hr.near (mul_nonneg hamount (hundredth_nonneg hrate)))
  rw [abs_lt]
  constructor <;> linarith [hproduct.1, hproduct.2, hrounded.1, hrounded.2]

theorem isShare_of_rounds (hrate : 0 ≤ rate.value)
    (hr : Rounds (amount * rate.hundredth.value) r)
    (hsmall : amount * rate.hundredth.value ≤ 10 ^ 19) : IsShare ⌊r.value⌋ amount rate where
  near := by
    have hnear := abs_lt.1 (near_of_rounds h hgreatest hrate hr (by linarith))
    have hlow := Int.floor_le_floor (show r.value ≤ amount * rate.value / 100 + 1 by
      linarith [hnear.2])
    have hhigh := Int.floor_le_floor (show amount * rate.value / 100 ≤ r.value + 1 by
      linarith [hnear.1])
    rw [Int.floor_add_one] at hlow hhigh
    unfold exactShare
    rw [abs_le]
    constructor
    · linarith
    · linarith
  exact := by
    intro hplaces
    have hhundredth := hundredth_exact (by decide) hplaces
    obtain ⟨n, hn⟩ := hplaces
    have hgrid : (amount : ℚ) * rate.hundredth.value = (amount * n : ℤ) / 10 ^ 9 := by
      rw [hhundredth, hn]
      push_cast
      ring
    rw [hr.eq_of_hasPlaces hgrid (by linarith), exactShare, hhundredth, mul_div_assoc]

end

theorem small_of_fits {x : ℚ} {r : Decimal} (hr : Rounds x r) (hx : 0 ≤ x)
    (hfits : ⌊r.value⌋ ≤ Amount.greatest) : x ≤ 2 ^ 64 := by
  have hnear := (abs_le.1 (hr.near hx)).1
  have hfloor := Int.lt_floor_add_one r.value
  have hlt := greatest_cast_lt hfits
  linarith

/-- **A share is found when it fits.** Whether it does is decided by a share that is off by one at
most, and not at all when the percentage needs no more than seven places. -/
theorem exists_share {amount : Amount} {rate : Decimal} (h : 0 ≤ amount)
    (hgreatest : amount ≤ Amount.greatest) (hrate : 0 ≤ rate.value) :
    ∃ share, 0 ≤ share ∧ IsShare share amount rate ∧ floorMul amount rate.hundredth =
      if share ≤ Amount.greatest then some share else none := by
  have hamount : (0 : ℚ) ≤ amount := by exact_mod_cast h
  have hproduct := abs_le.1 (hundredth_mul_near h hgreatest rate)
  by_cases hsmall : amount * rate.value / 100 ≤ 2 ^ 63 + 2
  · obtain ⟨r, hr, hnonneg, hfound⟩ := exists_floorMul h hgreatest (hundredth_nonneg hrate) (by
      rw [limit_cast]
      linarith [hproduct.2])
    exact ⟨⌊r.value⌋, hnonneg, isShare_of_rounds h hgreatest hrate hr (by linarith [hproduct.2]),
      hfound⟩
  · rw [not_le] at hsmall
    -- So large a share does not fit, whichever way it is rounded.
    have hlarge : Amount.greatest < exactShare amount rate := by
      refine Int.lt_of_lt_of_le (show Amount.greatest < 2 ^ 63 by decide) (Int.le_floor.2 ?_)
      push_cast
      linarith
    refine ⟨exactShare amount rate, ?_, ⟨?_, fun _ => rfl⟩, ?_⟩
    · exact Int.le_trans (by decide) hlarge.le
    · rw [sub_self, abs_zero]
      exact zero_le_one
    · rw [if_neg (not_le.2 hlarge), ← Option.not_isSome_iff_eq_none, Option.isSome_iff_exists]
      rintro ⟨base, hbase⟩
      obtain ⟨r, hr, rfl, hfits⟩ := rounds_of_floorMul h hgreatest (hundredth_nonneg hrate) hbase
      have hbounded := small_of_fits hr (mul_nonneg hamount (hundredth_nonneg hrate)) hfits
      have hnear := abs_lt.1 (near_of_rounds h hgreatest hrate hr hbounded)
      have hbelow := Int.lt_floor_add_one r.value
      linarith [hnear.1, greatest_cast_lt hfits]

/-- **Up to a hundred percent a share is found**, and the amount is not exceeded. -/
theorem exists_share_le {amount : Amount} {rate : Decimal} (h : 0 ≤ amount)
    (hgreatest : amount ≤ Amount.greatest) (hrate : 0 ≤ rate.value) (hhundred : rate.value ≤ 100) :
    ∃ share, floorMul amount rate.hundredth = some share ∧ 0 ≤ share ∧ share ≤ amount ∧
      IsShare share amount rate := by
  have hamount : (0 : ℚ) ≤ amount := by exact_mod_cast h
  have hnonneg := hundredth_nonneg hrate
  have hle : (amount : ℚ) * rate.hundredth.value ≤ amount :=
    mul_le_of_le_one_right hamount (hundredth_le_one hhundred)
  have hlt := greatest_cast_lt hgreatest
  obtain ⟨r, hr, hzero, hfound⟩ := exists_floorMul h hgreatest hnonneg (by
    rw [limit_cast]
    linarith)
  have hwithin : ⌊r.value⌋ ≤ amount := Int.floor_le_iff.2 (by
    have hrounded := hr.le_intCast hle
    linarith)
  rw [if_pos (Int.le_trans hwithin hgreatest)] at hfound
  exact ⟨⌊r.value⌋, hfound, hzero, hwithin,
    isShare_of_rounds h hgreatest hrate hr (by linarith)⟩

/-! ### Prices and reductions -/

namespace DiscountTable

/-- The percentage that a table charges for a quantity: that of the tier, or all hundred. -/
def rate (table : DiscountTable) (quantity : Amount) : Decimal :=
  match table.tierFor? quantity with
  | some tier => tier.discount
  | none => hundred

theorem multiplier_eq (table : DiscountTable) (quantity : Amount) :
    table.multiplier quantity = (table.rate quantity).hundredth := by
  unfold multiplier rate
  cases table.tierFor? quantity with
  | some tier => rfl
  | none => rfl

/-- The table was made of a list of tiers, or it is what a text stands for. -/
def IsMade (table : DiscountTable) : Prop :=
  (∃ tiers, ofTiers tiers = .ok table) ∨ ∃ s, parse s = table

/-- Every tier of a table that was made is in range. -/
theorem IsMade.inRange {table : DiscountTable} (h : table.IsMade) :
    ∀ tier ∈ table.tiers, tier.IsInRange := by
  have hlisted : ∀ tiers, ofTiers tiers = .ok table → ∀ tier ∈ table.tiers, tier.IsInRange := by
    intro tiers hmade tier htier
    exact (ofTiers_eq_ok_iff.1 hmade).1 tier ((isArranged_of_ofTiers hmade).perm.mem_iff.1 htier)
  rcases h with ⟨tiers, hmade⟩ | ⟨s, rfl⟩
  · exact hlisted tiers hmade
  · by_cases hlists : ∃ tiers table, Lists s tiers ∧ ofTiers tiers = .ok table
    · obtain ⟨tiers, table, hlist, hmade⟩ := hlists
      obtain rfl := parse_of_lists hlist hmade
      exact hlisted tiers hmade
    · rw [parse_of_unlisted fun tiers table hlist hmade => hlists ⟨tiers, table, hlist, hmade⟩]
      exact nofun

theorem IsMade.rate_bounds {table : DiscountTable} (h : table.IsMade) (quantity : Amount) :
    0 ≤ (table.rate quantity).value ∧ (table.rate quantity).value ≤ 100 := by
  unfold rate
  cases hfound : table.tierFor? quantity with
  | some tier =>
    have hrange := h.inRange tier (List.mem_reverse.1 (List.mem_of_find?_eq_some hfound))
    exact ⟨hrange.discount_pos.le, hrange.discount_le⟩
  | none =>
    rw [value_hundred]
    norm_num

end DiscountTable

/-- **Shares are rounded down from the exact share, and never replaced.** -/
theorem shares_floored :
    (∀ table : DiscountTable, table.IsMade → ∀ unitPrice quantity : Amount,
      0 ≤ unitPrice * quantity → unitPrice * quantity ≤ Amount.greatest →
      ∃ base, floorMul (unitPrice * quantity) (table.multiplier quantity) = some base ∧
        0 ≤ base ∧ base ≤ unitPrice * quantity ∧
        Quote.ofList unitPrice quantity (table.multiplier quantity) = .ok
          { Quote.zero with
            listPrice := unitPrice * quantity
            discount := unitPrice * quantity - base
            amount := base } ∧
        IsShare base (unitPrice * quantity) (table.rate quantity)) ∧
    ∀ percent cap, 0 ≤ percent → percent ≤ hundred → (∀ most, cap = some most → most ≤ 0) →
      ∀ amount, 0 < amount → amount ≤ Amount.greatest →
        let reduction := (CouponRule.percentage percent cap).reduction amount
        floorMul amount percent.hundredth = some reduction ∧ IsShare reduction amount percent := by
  constructor
  · intro table hmade unitPrice quantity hlow hhigh
    obtain ⟨hrate, hhundred⟩ := hmade.rate_bounds quantity
    obtain ⟨base, hfound, hnonneg, hle, hshare⟩ := exists_share_le hlow hhigh hrate hhundred
    rw [DiscountTable.multiplier_eq]
    refine ⟨base, hfound, hnonneg, hle, ?_, hshare⟩
    have hproduct : Amount.mul? unitPrice quantity = some (unitPrice * quantity) :=
      Amount.mul?_eq_some_iff.2 ⟨⟨Int.le_trans (by decide) hlow, hhigh⟩, rfl⟩
    have hbase :
        Quote.baseAmount (unitPrice * quantity) (table.rate quantity).hundredth = base := by
      unfold Quote.baseAmount
      rw [hfound]
      exact if_pos ⟨hnonneg, hle⟩
    unfold Quote.ofList
    rw [hproduct]
    simp only [if_pos hlow, hbase]
  · intro percent cap hlow hhigh hcap amount hpos hgreatest
    rw [le_iff_value_le, value_zero] at hlow
    rw [le_iff_value_le, value_hundred] at hhigh
    obtain ⟨share, hfound, hnonneg, hle, hshare⟩ := exists_share_le hpos.le hgreatest hlow hhigh
    have huncapped : CouponRule.capped cap share = share := by
      cases cap with
      | none => rfl
      | some most => exact if_neg (Int.not_lt.2 (hcap most rfl))
    have hreduction : (CouponRule.percentage percent cap).reduction amount = share := by
      unfold CouponRule.reduction
      rw [if_neg (Int.not_le.2 hpos)]
      simp only [percentOf, hfound, Option.getD_some, huncapped]
      rw [Int.min_eq_right hle, Int.max_eq_right hnonneg]
    simp only [hreduction]
    exact ⟨hfound, hshare⟩

/-- The percentage of six sevenths, cut to the digits that fit. -/
def sixSevenths : Decimal := ⟨false, 8571428571428571428571428571, 26, by decide, by decide⟩

/-- Six sevenths of a multiple of seven are a whole number. The percentage is a little less, and yet
the share comes to that number, which is one more than the exact share: as the price of a table and
as the reduction of a coupon. -/
theorem shares_floored_beside_whole :
    let table : DiscountTable := ⟨[⟨1, sixSevenths⟩]⟩
    exactShare 925190000000000000 sixSevenths = 793019999999999999 ∧
      (table.IsMade ∧
        floorMul (925190000000000000 * 1) (table.multiplier 1) = some 793020000000000000 ∧
        Quote.ofList 925190000000000000 1 (table.multiplier 1) = .ok
          { Quote.zero with
            listPrice := 925190000000000000
            discount := 132170000000000000
            amount := 793020000000000000 } ∧
        IsShare 793020000000000000 925190000000000000 sixSevenths) ∧
      (CouponRule.percentage sixSevenths (some 0)).reduction 925190000000000000 =
        793020000000000000 := by
  have hvalue : sixSevenths.value = 8571428571428571428571428571 / 10 ^ 26 := rfl
  have hmade : DiscountTable.ofTiers [⟨1, sixSevenths⟩] = .ok ⟨[⟨1, sixSevenths⟩]⟩ :=
    DiscountTable.ofTiers_of_sorted (by decide) (List.mergeSort_singleton _)
  have hfound : floorMul 925190000000000000 sixSevenths.hundredth = some 793020000000000000 := by
    decide +kernel
  have htable : DiscountTable.IsMade ⟨[⟨1, sixSevenths⟩]⟩ := .inl ⟨_, hmade⟩
  obtain ⟨base, hbase, -, -, hquote, hshare⟩ :=
    shares_floored.1 ⟨[⟨1, sixSevenths⟩]⟩ htable 925190000000000000 1 (by decide) (by decide)
  obtain rfl : 793020000000000000 = base := Option.some.inj (hfound.symm.trans hbase)
  obtain ⟨hreduction, -⟩ := shares_floored.2 sixSevenths (some 0) (by decide) (by decide)
    (by simp) 925190000000000000 (by decide) (by decide)
  refine ⟨?_, ⟨htable, hfound, hquote, hshare⟩, Option.some.inj (hreduction.symm.trans hfound)⟩
  rw [exactShare, hvalue, Int.floor_eq_iff]
  norm_num

end OrderDesk
