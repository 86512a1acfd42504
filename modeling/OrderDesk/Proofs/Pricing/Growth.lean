import OrderDesk.Proofs.Pricing.Bounds
import OrderDesk.Proofs.Pricing.Shares

/-!
# Growing amounts

What a percentage comes to is rounded more coarsely as the amount grows, and what does not fit
counts as nothing. Two laws of a larger amount are at stake: a surcharge is no smaller, and a coupon
leaves no less to pay.

## What is proved

* `floorMul_le_floorMul`: a larger amount has no smaller share, as long as the share fits.
* `FeeRule.charge_grows`: a surcharge grows up to the amount at which its percentage no longer fits
  (`FeeRule.Outgrown`); from there on it is the fixed part alone (`FeeRule.charge_drops`).
* `CouponRule.keeps_order`: with a coupon the dearer of two baskets stays the dearer one, also after
  the gift balance has paid.
-/

namespace OrderDesk

open OrderDesk.Decimal

/-! ### Shares of two amounts -/

/-- **A larger amount has no smaller share.** If the share of the larger one fits, so does that of
the smaller one. -/
theorem floorMul_le_floorMul {a b most : Amount} {factor : Decimal} (ha : 0 ≤ a) (hab : a ≤ b)
    (hb : b ≤ Amount.greatest) (hfactor : 0 ≤ factor.value)
    (hmost : floorMul b factor = some most) :
    ∃ share, floorMul a factor = some share ∧ share ≤ most := by
  rcases Int.lt_or_eq_of_le hab with hlt | rfl
  · obtain ⟨s, hs, rfl, hfits⟩ := rounds_of_floorMul (Int.le_trans ha hab) hb hfactor hmost
    have ha' : (0 : ℚ) ≤ a := by exact_mod_cast ha
    have hlt' : (a : ℚ) < b := by exact_mod_cast hlt
    have hle : a * factor.value ≤ b * factor.value := mul_le_mul_of_nonneg_right hlt'.le hfactor
    have hsmall := small_of_fits hs (mul_nonneg (ha'.trans hlt'.le) hfactor) hfits
    obtain ⟨r, hr, -, hfound⟩ := exists_floorMul ha (Int.le_trans hab hb) hfactor (by
      rw [limit_cast]
      linarith)
    have hfloor : ⌊r.value⌋ ≤ ⌊s.value⌋ := by
      rcases hfactor.lt_or_eq with hpos | hzero
      · exact hr.floor_le_floor hs (mul_lt_mul_of_pos_right hlt' hpos)
      · rw [← hzero, mul_zero] at hr hs
        rw [hr.eq_zero, hs.eq_zero]
    rw [if_pos (Int.le_trans hfloor hfits)] at hfound
    exact ⟨⌊r.value⌋, hfound, hfloor⟩
  · exact ⟨most, hmost, Int.le_refl most⟩

theorem percentOf_bounds {amount : Amount} {rate : Decimal} (h : 0 ≤ amount)
    (hgreatest : amount ≤ Amount.greatest) (hrate : 0 ≤ rate.value) :
    0 ≤ percentOf amount rate ∧ percentOf amount rate ≤ Amount.greatest := by
  obtain ⟨share, hnonneg, -, hfound⟩ := exists_share h hgreatest hrate
  unfold percentOf
  rw [hfound]
  split
  · rename_i hfits
    exact ⟨hnonneg, hfits⟩
  · exact ⟨Int.le_refl 0, by decide⟩

theorem percentOf_zero {amount : Amount} (h : 0 ≤ amount) (hgreatest : amount ≤ Amount.greatest) :
    percentOf amount 0 = 0 := by
  obtain ⟨share, hfound, -, -, hshare⟩ :=
    exists_share_le h hgreatest (show 0 ≤ (0 : Decimal).value by simp) (by simp)
  have hexact : share = exactShare amount 0 := hshare.exact ⟨0, by simp⟩
  rw [percentOf, hfound, Option.getD_some, hexact, exactShare, value_zero, mul_zero, zero_div,
    Int.floor_zero]

/-! ### Surcharges -/

namespace FeeRule

/-- The percentage of a surcharge. -/
def rate : FeeRule → Decimal
  | .percent rate | .percentPlusFixed rate _ => rate
  | .none | .fixed _ => 0

/-- The fixed part of a surcharge. -/
def fixedPart : FeeRule → Amount
  | .fixed amount | .percentPlusFixed _ amount => amount
  | .none | .percent _ => 0

/-- No part of the surcharge is below zero, and the fixed part is an amount. -/
structure IsNonneg (rule : FeeRule) : Prop where
  rate_nonneg : 0 ≤ rule.rate
  fixedPart_nonneg : 0 ≤ rule.fixedPart
  fixedPart_le : rule.fixedPart ≤ Amount.greatest

/-- What the percentage comes to does not fit. -/
def Outgrown (rule : FeeRule) (amount : Amount) : Prop :=
  floorMul amount rule.rate.hundredth = Option.none

section

variable {rule : FeeRule} (hrule : rule.IsNonneg) {a b amount : Amount}

include hrule

theorem IsNonneg.rate_value_nonneg : 0 ≤ rule.rate.value := by
  have hrate := hrule.rate_nonneg
  rwa [le_iff_value_le, value_zero] at hrate

/-- A surcharge is its percentage and its fixed part, up to the greatest amount. -/
theorem charge_eq (hpos : 0 < amount) (hgreatest : amount ≤ Amount.greatest) :
    rule.charge amount = min Amount.greatest (percentOf amount rule.rate + rule.fixedPart) := by
  have hpercent := percentOf_bounds hpos.le hgreatest hrule.rate_value_nonneg
  have hnonneg := hrule.fixedPart_nonneg
  have hle := hrule.fixedPart_le
  unfold charge
  rw [if_neg (Int.not_le.2 hpos)]
  cases rule with
  | none =>
    simp only [rate, fixedPart, percentOf_zero hpos.le hgreatest]
    decide
  | percent rate =>
    simp only [FeeRule.rate, fixedPart] at hpercent ⊢
    unfold Amount at *
    omega
  | fixed value =>
    simp only [rate, fixedPart, percentOf_zero hpos.le hgreatest] at hnonneg hle ⊢
    unfold Amount at *
    omega
  | percentPlusFixed rate value =>
    simp only [FeeRule.rate, fixedPart] at hpercent hnonneg hle ⊢
    have hleast : Amount.least ≤ 0 := by decide
    unfold Amount.addClamped Amount at *
    omega

variable (ha : 0 ≤ a) (hab : a ≤ b) (hb : b ≤ Amount.greatest)

include ha hab hb

/-- An amount that outgrew the surcharge is outgrown by no larger one. -/
theorem outgrown_of_le (h : rule.Outgrown a) : rule.Outgrown b := by
  unfold Outgrown at h ⊢
  rw [← Option.not_isSome_iff_eq_none, Option.isSome_iff_exists]
  rintro ⟨most, hmost⟩
  obtain ⟨share, hshare, -⟩ :=
    floorMul_le_floorMul ha hab hb (hundredth_nonneg hrule.rate_value_nonneg) hmost
  rw [h] at hshare
  cases hshare

/-- Until the percentage is outgrown, a larger amount has no smaller surcharge. -/
theorem charge_le_charge (h : ¬ rule.Outgrown b) : rule.charge a ≤ rule.charge b := by
  rcases Int.lt_or_eq_of_le ha with hpos | rfl
  · unfold Outgrown at h
    obtain ⟨most, hmost⟩ := Option.ne_none_iff_exists'.1 h
    obtain ⟨share, hshare, hle⟩ :=
      floorMul_le_floorMul ha hab hb (hundredth_nonneg hrule.rate_value_nonneg) hmost
    rw [charge_eq hrule hpos (Int.le_trans hab hb),
      charge_eq hrule (Int.lt_of_lt_of_le hpos hab) hb, percentOf, percentOf, hshare, hmost]
    exact min_le_min_left _ (Int.add_le_add_right hle _)
  · rw [charge_of_le rule (Int.le_refl 0)]
    exact charge_nonneg rule b

omit hab ha

/-- A percentage that is outgrown counts for nothing. -/
theorem charge_of_outgrown (hpos : 0 < b) (h : rule.Outgrown b) :
    rule.charge b = rule.fixedPart := by
  unfold Outgrown at h
  rw [charge_eq hrule hpos hb, percentOf, h, Option.getD_none, Int.zero_add]
  exact Int.min_eq_right hrule.fixedPart_le

end

/-- **A surcharge grows with the amount until its percentage is outgrown**, and is the fixed part
alone from there on. The percentage is outgrown when the share that it comes to does not fit. -/
theorem charge_grows {rule : FeeRule} (hrule : rule.IsNonneg) {a b : Amount} (ha : 0 ≤ a)
    (hab : a ≤ b) (hb : b ≤ Amount.greatest) :
    (¬ rule.Outgrown b → rule.charge a ≤ rule.charge b) ∧
      (rule.Outgrown a → rule.Outgrown b) ∧
      ∃ share, IsShare share b rule.rate ∧ (rule.Outgrown b ↔ Amount.greatest < share) ∧
        (0 < b → rule.charge b =
          if Amount.greatest < share then rule.fixedPart
          else min Amount.greatest (share + rule.fixedPart)) := by
  refine ⟨charge_le_charge hrule ha hab hb, outgrown_of_le hrule ha hab hb, ?_⟩
  obtain ⟨share, -, hshare, hfound⟩ :=
    exists_share (Int.le_trans ha hab) hb hrule.rate_value_nonneg
  have houtgrown : rule.Outgrown b ↔ Amount.greatest < share := by
    unfold Outgrown
    rw [hfound]
    split
    · rename_i hfits
      simp [Int.not_lt.2 hfits]
    · rename_i hfits
      simp [Int.not_le.1 hfits]
  refine ⟨share, hshare, houtgrown, fun hpos => ?_⟩
  split
  · rename_i hlarge
    exact charge_of_outgrown hrule hb hpos (houtgrown.2 hlarge)
  · rename_i hfits
    rw [charge_eq hrule hpos hb, percentOf, hfound, if_pos (Int.not_lt.1 hfits), Option.getD_some]

/-- Two hundred percent. -/
def twoHundred : Decimal := { hundred with coefficient := 200, coefficient_lt := by decide }

/-- Twice the amount and five, up to the amount at which twice the amount no longer fits. -/
theorem charge_grows_by_double :
    let rule := FeeRule.percentPlusFixed twoHundred 5
    rule.charge 1000 = 2005 ∧ rule.charge 1000 ≤ rule.charge 4611686018427387903 ∧
      rule.charge 4611686018427387903 = Amount.greatest ∧
      rule.Outgrown 4611686018427387904 ∧ rule.charge 4611686018427387904 = 5 := by
  have hrule : (FeeRule.percentPlusFixed twoHundred 5).IsNonneg :=
    ⟨by decide, by decide, by decide⟩
  have hfits : ¬ (FeeRule.percentPlusFixed twoHundred 5).Outgrown 4611686018427387903 := by
    unfold Outgrown
    decide +kernel
  have hlarge : (FeeRule.percentPlusFixed twoHundred 5).Outgrown 4611686018427387904 := by
    unfold Outgrown
    decide +kernel
  have hgrows := (charge_grows hrule (a := 1000) (b := 4611686018427387903) (by decide) (by decide)
    (by decide)).1 hfits
  obtain ⟨share, -, houtgrown, hcharge⟩ := (charge_grows hrule (a := 1000)
    (b := 4611686018427387904) (by decide) (by decide) (by decide)).2.2
  rw [if_pos (houtgrown.1 hlarge)] at hcharge
  exact ⟨by decide +kernel, hgrows, by decide +kernel, hlarge, hcharge (by decide)⟩

/-- **A surcharge can drop to nothing.** Twice the amount fits as a surcharge of the first amount
and not of the second, which is one unit larger, and nothing is added to that one. -/
theorem charge_drops :
    (FeeRule.percent twoHundred).IsNonneg ∧
      (FeeRule.percent twoHundred).charge 4611686018427387903 = 9223372036854775806 ∧
      (FeeRule.percent twoHundred).charge 4611686018427387904 = 0 := by
  refine ⟨⟨?_, ?_, ?_⟩, ?_, ?_⟩
  · decide
  · decide
  · decide
  · decide +kernel
  · decide +kernel

end FeeRule

/-! ### Reductions -/

/-- From one amount to a larger one the share grows, and by no more than the amount. -/
structure GrowsWithin (share : Amount → Amount) (a b : Amount) : Prop where
  grows : share a ≤ share b
  rest_grows : a - share a ≤ b - share b

namespace GrowsWithin

variable {a b : Amount} {share other : Amount → Amount}

theorem const (hab : a ≤ b) (amount : Amount) : GrowsWithin (fun _ => amount) a b :=
  ⟨Int.le_refl amount, Int.sub_le_sub_right hab amount⟩

theorem all (hab : a ≤ b) : GrowsWithin (fun amount => amount) a b where
  grows := hab
  rest_grows := by simp only [Int.sub_self, Int.le_refl]

protected theorem min (h : GrowsWithin share a b) (hother : GrowsWithin other a b) :
    GrowsWithin (fun amount => min (share amount) (other amount)) a b where
  grows := min_le_min h.grows hother.grows
  rest_grows := by
    rcases min_choice (share a) (other a) with hmin | hmin
    · simp only [hmin]
      linarith [h.rest_grows, min_le_left (share b) (other b)]
    · simp only [hmin]
      linarith [hother.rest_grows, min_le_right (share b) (other b)]

protected theorem max (h : GrowsWithin share a b) (hother : GrowsWithin other a b) :
    GrowsWithin (fun amount => max (share amount) (other amount)) a b where
  grows := max_le_max h.grows hother.grows
  rest_grows := by
    rcases max_choice (share b) (other b) with hmax | hmax
    · simp only [hmax]
      linarith [h.rest_grows, le_max_left (share a) (other a)]
    · simp only [hmax]
      linarith [hother.rest_grows, le_max_right (share a) (other a)]

/-- What holds of every step from one amount to the next holds over all of them. -/
theorem of_steps (hab : a ≤ b) (hstep : ∀ n, a ≤ n → n + 1 ≤ b → GrowsWithin share n (n + 1)) :
    GrowsWithin share a b := by
  induction b, hab using Int.leInduction with
  | base => exact ⟨Int.le_refl _, Int.le_refl _⟩
  | succ n hn ih =>
    have hsofar := ih fun k hk hkn => hstep k hk (Int.le_trans hkn (Int.le_of_lt (Int.lt_succ n)))
    have hnext := hstep n hn (Int.le_refl _)
    exact ⟨Int.le_trans hsofar.grows hnext.grows, Int.le_trans hsofar.rest_grows hnext.rest_grows⟩

end GrowsWithin

section

variable {rate : Decimal} (hrate : 0 ≤ rate.value) (hhundred : rate.value ≤ 100)

include hrate hhundred

/-- One unit more adds nothing or one to a percentage up to a hundred. -/
theorem percentOf_growsWithin_step {n : Amount} (hn : 0 ≤ n) (hsmall : n + 1 ≤ 10 ^ 13) :
    GrowsWithin (fun amount => percentOf amount rate) n (n + 1) := by
  have hgreatest : n + 1 ≤ Amount.greatest := Int.le_trans hsmall (by decide)
  have hle : n ≤ n + 1 := Int.le_of_lt (Int.lt_succ n)
  have hfactor := hundredth_nonneg hrate
  obtain ⟨more, hmore, -⟩ := exists_share_le (Int.le_trans hn hle) hgreatest hrate hhundred
  obtain ⟨share, hshare, hgrows⟩ := floorMul_le_floorMul hn hle hgreatest hfactor hmore
  obtain ⟨r, hr, hfloorR, -⟩ := rounds_of_floorMul hn (Int.le_trans hle hgreatest) hfactor hshare
  obtain ⟨s, hs, hfloorS, -⟩ :=
    rounds_of_floorMul (Int.le_trans hn hle) hgreatest hfactor hmore
  have hone : more ≤ share + 1 := by
    rw [hfloorR, hfloorS]
    exact hr.floor_le_floor_add_one hn (Int.lt_of_add_one_le hsmall) hfactor
      (hundredth_le_one hhundred) hs
  have hbefore : percentOf n rate = share := by rw [percentOf, hshare, Option.getD_some]
  have hafter : percentOf (n + 1) rate = more := by rw [percentOf, hmore, Option.getD_some]
  constructor
  · simpa only [hbefore, hafter] using hgrows
  · simp only [hbefore, hafter]
    linarith

theorem percentOf_growsWithin {a b : Amount} (ha : 0 ≤ a) (hab : a ≤ b) (hb : b ≤ 10 ^ 13) :
    GrowsWithin (fun amount => percentOf amount rate) a b :=
  .of_steps hab fun _ hn hnb =>
    percentOf_growsWithin_step hrate hhundred (Int.le_trans ha hn) (Int.le_trans hnb hb)

end

namespace CouponRule

/-- A percentage is one from nothing to a hundred. -/
def IsModerate : CouponRule → Prop
  | .percentage percent _ => 0 ≤ percent ∧ percent ≤ hundred
  | .fixed _ => True

/-- Of no amount a coupon takes off nothing, as it would be without the case. -/
theorem clamped_eq (amount wanted : Amount) :
    (if amount ≤ 0 then 0 else max 0 (min amount wanted)) = max 0 (min amount wanted) := by
  split
  · rename_i h
    exact (Int.max_eq_left (Int.le_trans (Int.min_le_left amount wanted) h)).symm
  · rfl

theorem growsWithin_of_capped {share : Amount → Amount} {a b : Amount} (hab : a ≤ b)
    (cap : Option Amount) (h : GrowsWithin share a b) :
    GrowsWithin (fun amount => capped cap (share amount)) a b := by
  cases cap with
  | none => exact h
  | some most =>
    unfold capped
    by_cases hmost : 0 < most
    · simp only [if_pos hmost]
      exact h.min (.const hab most)
    · simp only [if_neg hmost]
      exact h

/-- From one amount to a larger one the reduction grows, and so does what is left to pay. -/
theorem reduction_growsWithin {rule : CouponRule} (hrule : rule.IsModerate) {a b : Amount}
    (ha : 0 ≤ a) (hab : a ≤ b) (hb : b ≤ 10 ^ 13) : GrowsWithin rule.reduction a b := by
  unfold reduction
  simp only [clamped_eq]
  refine (GrowsWithin.const hab 0).max (.min (.all hab) ?_)
  cases rule with
  | percentage percent cap =>
    obtain ⟨hrate, hhundred⟩ := hrule
    rw [le_iff_value_le, value_zero] at hrate
    rw [le_iff_value_le, value_hundred] at hhundred
    exact growsWithin_of_capped hab cap (percentOf_growsWithin hrate hhundred ha hab hb)
  | fixed value => exact .min (.const hab value) (.all hab)

end CouponRule

/-- What a gift balance leaves of a larger charge is no less. -/
theorem GiftDeduction.remainingDue_le_remainingDue (balance : Amount) {less more : Amount}
    (h : less ≤ more) : (of balance less).remainingDue ≤ (of balance more).remainingDue := by
  unfold Amount at *
  simp only [of]
  omega

/-- **With a coupon the dearer of two baskets stays the dearer one**: the reduction is no smaller,
and there is no less to pay, before and after the gift balance has paid. -/
theorem CouponRule.keeps_order {rule : CouponRule} (hrule : rule.IsModerate) {a b : Amount}
    (ha : 0 ≤ a) (hab : a ≤ b) (hb : b ≤ 2147483647) :
    rule.reduction a ≤ rule.reduction b ∧ a - rule.reduction a ≤ b - rule.reduction b ∧
      ∀ balance, (GiftDeduction.of balance (a - rule.reduction a)).remainingDue ≤
        (GiftDeduction.of balance (b - rule.reduction b)).remainingDue := by
  obtain ⟨hgrows, hrest⟩ := reduction_growsWithin hrule ha hab (Int.le_trans hb (by decide))
  exact ⟨hgrows, hrest, fun balance => GiftDeduction.remainingDue_le_remainingDue balance hrest⟩

/-- A coupon over six sevenths, with a cap that does not count: of 299 there are 43 left to pay, and
of 350 there are 51. With a gift balance of 40 there are 3 left, and 11. -/
theorem CouponRule.keeps_order_of_sixSevenths :
    let rule := CouponRule.percentage sixSevenths (some (-1))
    rule.reduction 299 = 256 ∧ rule.reduction 350 = 299 ∧ rule.reduction 299 ≤ rule.reduction 350 ∧
      299 - rule.reduction 299 ≤ 350 - rule.reduction 350 ∧
      (GiftDeduction.of 40 (299 - rule.reduction 299)).remainingDue ≤
        (GiftDeduction.of 40 (350 - rule.reduction 350)).remainingDue := by
  have hrule : (CouponRule.percentage sixSevenths (some (-1))).IsModerate := ⟨by decide, by decide⟩
  obtain ⟨hgrows, hrest, hdue⟩ :=
    keeps_order hrule (a := 299) (b := 350) (by decide) (by decide) (by decide)
  exact ⟨by decide +kernel, by decide +kernel, hgrows, hrest, hdue 40⟩

end OrderDesk
