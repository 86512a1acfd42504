import OrderDesk.Pricing.Price

/-!
# The steps of pricing stay within bounds

A quantity discount, a coupon and the gift balance only ever take off, and never more than
there is, whatever their percentages, caps and balances are. So up to the fee no number can
fail to fit that the list price did not fail to fit before: all of pricing but the fee is a
computation that can only be refused (`Price.beforeFee`), and a price is what it comes to and
the fee on that (`Price.ofPlan_eq`).

The fee is never below zero, but nothing bounds it from above.

A price that is found, and the quote that is found for a recharge, reconcile
(`Price.reconciles_of_ofPlan`, `Price.reconciles_of_ofRecharge`).
-/

namespace OrderDesk

open OrderDesk.Result

/-! ### The rules -/

namespace Quote

/-- The factor never makes a list price dearer, and never takes off more than all of it. -/
theorem baseAmount_bounds {listPrice : Amount} (h : 0 ≤ listPrice) (multiplier : Decimal) :
    0 ≤ baseAmount listPrice multiplier ∧ baseAmount listPrice multiplier ≤ listPrice := by
  unfold baseAmount
  split
  · split
    · rename_i hbase
      exact hbase
    · exact ⟨h, Int.le_refl listPrice⟩
  · exact ⟨h, Int.le_refl listPrice⟩

/-- The list price, and what the quantity takes off it. -/
structure IsListed (quote : Quote) (unitPrice quantity : Amount) : Prop where
  listPrice : quote.listPrice = unitPrice * quantity
  nonneg : 0 ≤ quote.listPrice
  fits : quote.listPrice ≤ Amount.greatest
  discount : 0 ≤ quote.discount ∧ quote.discount ≤ quote.listPrice
  untouched : quote.couponDiscount = 0 ∧ quote.giftDeduction = 0 ∧ quote.fee = 0
  amount : quote.amount = quote.listPrice - quote.discount

theorem isListed_of_ofList {unitPrice quantity : Amount} {multiplier : Decimal} {quote : Quote}
    (h : ofList unitPrice quantity multiplier = .ok quote) : quote.IsListed unitPrice quantity := by
  unfold ofList at h
  split at h
  · rename_i listPrice hproduct
    obtain ⟨hfits, rfl⟩ := Amount.mul?_eq_some_iff.1 hproduct
    split at h
    · rename_i hnonneg
      obtain ⟨hbase, hlist⟩ := baseAmount_bounds hnonneg multiplier
      obtain rfl := Except.ok.inj h
      exact {
        listPrice := rfl
        nonneg := hnonneg
        fits := hfits.2
        discount := ⟨Int.sub_nonneg.2 hlist, Int.sub_le_self _ hbase⟩
        untouched := ⟨rfl, rfl, rfl⟩
        amount := (Int.sub_sub_self _ _).symm }
    · cases h
  · cases h

theorem IsListed.amount_bounds {quote : Quote} {unitPrice quantity : Amount}
    (h : quote.IsListed unitPrice quantity) :
    0 ≤ quote.amount ∧ quote.amount ≤ quote.listPrice := by
  rw [h.amount]
  exact ⟨Int.sub_nonneg.2 h.discount.2, Int.sub_le_self _ h.discount.1⟩

end Quote

/-- A coupon takes off nothing below zero and no more than the amount. -/
theorem CouponRule.reduction_bounds (rule : CouponRule) {amount : Amount} (h : 0 ≤ amount) :
    0 ≤ rule.reduction amount ∧ rule.reduction amount ≤ amount := by
  unfold CouponRule.reduction
  split
  · exact ⟨Int.le_refl 0, h⟩
  · constructor
    · exact Int.le_max_left _ _
    · exact Int.max_le.2 ⟨h, Int.min_le_left _ _⟩

namespace FeeRule

theorem charge_nonneg (rule : FeeRule) (amount : Amount) : 0 ≤ rule.charge amount := by
  unfold charge
  split
  · exact Int.le_refl 0
  · exact Int.le_max_left _ _

/-- Nothing is added when nothing is left to collect. -/
theorem charge_of_le (rule : FeeRule) {amount : Amount} (h : amount ≤ 0) :
    rule.charge amount = 0 := if_pos h

@[simp] theorem charge_none (amount : Amount) : FeeRule.none.charge amount = 0 := by
  unfold charge
  split <;> rfl

end FeeRule

/-- What the gift balance pays of a charge that is not below zero. -/
theorem GiftDeduction.deducted_of_nonneg (balance : Amount) {charge : Amount} (h : 0 ≤ charge) :
    (of balance charge).deducted = min (max balance 0) charge := by
  simp only [of, Int.max_eq_left h]

theorem Eligibility.amount_eq_ok_iff {config : Config} {amount : Amount} :
    Eligibility.amount config amount = .ok () ↔ 0 ≤ amount ∧ amount ≤ config.maxOrderAmount := by
  rw [Eligibility.amount, require_eq_ok_iff, Bool.and_eq_true, decide_eq_true_eq,
    decide_eq_true_eq]

theorem Eligibility.amount_eq_error_iff {config : Config} {amount : Amount} :
    Eligibility.amount config amount = .error .amountOutOfRange ↔
      ¬ (0 ≤ amount ∧ amount ≤ config.maxOrderAmount) := by
  rw [← amount_eq_ok_iff, Eligibility.amount, require]
  split <;> simp

theorem Amount.fits_of_nonneg {n : Amount} (h : 0 ≤ n) (hn : n ≤ greatest) : Fits n := by
  refine ⟨Int.le_trans ?_ h, hn⟩
  decide

/-! ### Everything but the fee -/

namespace Quote

/-- The quote with what a coupon takes off. -/
def lessCoupon (quote : Quote) (reduction : Amount) : Quote :=
  { quote with couponDiscount := reduction, amount := quote.amount - reduction }

/-- The quote with what the gift balance pays. -/
def lessGift (quote : Quote) (deduction : Amount) : Quote :=
  { quote with giftDeduction := deduction, amount := quote.amount - deduction }

/-- The quote with a fee, when the sum fits and is no more than the limit for orders. -/
def surcharge (config : Config) (quote : Quote) (charge : Amount) : Except Failure Quote :=
  if Amount.greatest < quote.amount + charge then .error (.stopped .addition)
  else if config.maxOrderAmount < quote.amount + charge then
    .error (.refused .amountOutOfRange)
  else .ok { quote with fee := charge, amount := quote.amount + charge }

variable {config : Config} {quote : Quote} {reduction deduction charge : Amount}

/-- What is taken off goes through when it is no more than there is. -/
theorem applyCoupon_of_le (hcoupon : quote.couponDiscount = 0) (hreduction : 0 ≤ reduction)
    (hle : reduction ≤ quote.amount) (hgreatest : quote.amount ≤ Amount.greatest) :
    quote.applyCoupon reduction = .ok (quote.lessCoupon reduction) := by
  refine applyCoupon_eq_ok_iff.2 ⟨?_, ?_, ?_⟩
  · rw [hcoupon, Int.zero_add]
    exact Amount.fits_of_nonneg hreduction (Int.le_trans hle hgreatest)
  · exact Amount.fits_of_nonneg (Int.sub_nonneg.2 hle)
      (Int.le_trans (Int.sub_le_self _ hreduction) hgreatest)
  · rw [hcoupon, Int.zero_add]
    rfl

theorem applyGift_of_le (hgift : quote.giftDeduction = 0) (hdeduction : 0 ≤ deduction)
    (hle : deduction ≤ quote.amount) (hgreatest : quote.amount ≤ Amount.greatest) :
    quote.applyGift deduction = .ok (quote.lessGift deduction) := by
  refine applyGift_eq_ok_iff.2 ⟨?_, ?_, ?_⟩
  · rw [hgift, Int.zero_add]
    exact Amount.fits_of_nonneg hdeduction (Int.le_trans hle hgreatest)
  · exact Amount.fits_of_nonneg (Int.sub_nonneg.2 hle)
      (Int.le_trans (Int.sub_le_self _ hdeduction) hgreatest)
  · rw [hgift, Int.zero_add]
    rfl

/-- What is added goes through when the sum fits. -/
theorem applyFee_of_le (hfee : quote.fee = 0) (hamount : 0 ≤ quote.amount) (hcharge : 0 ≤ charge)
    (h : quote.amount + charge ≤ Amount.greatest) :
    quote.applyFee charge = .ok { quote with fee := charge, amount := quote.amount + charge } := by
  have htotal : 0 ≤ quote.amount + charge := Int.add_nonneg hamount hcharge
  have hle : charge ≤ quote.amount + charge := Int.le_add_of_nonneg_left hamount
  refine applyFee_eq_ok_iff.2 ⟨?_, Amount.fits_of_nonneg htotal h, ?_⟩
  · rw [hfee, Int.zero_add]
    exact Amount.fits_of_nonneg hcharge (Int.le_trans hle h)
  · rw [hfee, Int.zero_add]

theorem applyFee_of_greatest_lt (h : Amount.greatest < quote.amount + charge) :
    quote.applyFee charge = .error .addition := by
  have hamount : Amount.add quote.amount charge = .error .addition :=
    if_neg fun hfits => Int.not_le.2 h hfits.2
  unfold applyFee
  rw [hamount, Amount.add]
  split <;> rfl

/-- **Adding a fee, and looking at the limit after that.** -/
theorem surcharge_eq (config : Config) (hfee : quote.fee = 0) (hamount : 0 ≤ quote.amount)
    (hcharge : 0 ≤ charge) :
    (do
      let charged ← Failure.ofOverflow (quote.applyFee charge)
      Failure.ofRefusal (Eligibility.amount config charged.amount)
      return charged) = quote.surcharge config charge := by
  unfold surcharge
  by_cases hgreatest : Amount.greatest < quote.amount + charge
  · rw [if_pos hgreatest, applyFee_of_greatest_lt hgreatest]
    rfl
  · rw [if_neg hgreatest, applyFee_of_le hfee hamount hcharge (Int.not_lt.1 hgreatest)]
    change Failure.ofRefusal (Eligibility.amount config (quote.amount + charge)) >>= _ = _
    by_cases hlimit : config.maxOrderAmount < quote.amount + charge
    · have hrefused : Eligibility.amount config (quote.amount + charge) =
          .error .amountOutOfRange :=
        Eligibility.amount_eq_error_iff.2 fun hwithin => Int.not_le.2 hlimit hwithin.2
      rw [if_pos hlimit, hrefused]
      rfl
    · have hwithin : Eligibility.amount config (quote.amount + charge) = .ok () :=
        Eligibility.amount_eq_ok_iff.2 ⟨Int.add_nonneg hamount hcharge, Int.not_lt.1 hlimit⟩
      rw [if_neg hlimit, hwithin]
      rfl

theorem surcharge_eq_ok_iff {result : Quote} :
    quote.surcharge config charge = .ok result ↔
      quote.amount + charge ≤ Amount.greatest ∧ quote.amount + charge ≤ config.maxOrderAmount ∧
        result = { quote with fee := charge, amount := quote.amount + charge } := by
  unfold surcharge
  by_cases hgreatest : Amount.greatest < quote.amount + charge
  · simp [hgreatest, Int.not_le.2 hgreatest]
  · by_cases hlimit : config.maxOrderAmount < quote.amount + charge
    · simp [hgreatest, hlimit, Int.not_le.2 hlimit]
    · simp [hgreatest, hlimit, Int.not_lt.1 hgreatest, Int.not_lt.1 hlimit, eq_comm]

/-- A quote reconciles when no step takes off more than there is, and its amount is what they
leave. -/
theorem reconciles_of_steps (hlist : quote.listPrice ≤ Amount.greatest)
    (hdiscount : 0 ≤ quote.discount ∧ quote.discount ≤ quote.listPrice)
    (hcoupon : 0 ≤ quote.couponDiscount ∧
      quote.couponDiscount ≤ quote.listPrice - quote.discount)
    (hgift : 0 ≤ quote.giftDeduction ∧
      quote.giftDeduction ≤ quote.listPrice - quote.discount - quote.couponDiscount)
    (hfee : 0 ≤ quote.fee)
    (hamount : quote.amount = quote.listPrice - quote.discount - quote.couponDiscount -
      quote.giftDeduction + quote.fee)
    (hgreatest : quote.amount ≤ Amount.greatest) : quote.reconciles = .ok true := by
  have hdiscounted : Amount.Fits (quote.listPrice - quote.discount) :=
    Amount.fits_of_nonneg (Int.sub_nonneg.2 hdiscount.2)
      (Int.le_trans (Int.sub_le_self _ hdiscount.1) hlist)
  have hreduced : Amount.Fits (quote.listPrice - quote.discount - quote.couponDiscount) :=
    Amount.fits_of_nonneg (Int.sub_nonneg.2 hcoupon.2)
      (Int.le_trans (Int.sub_le_self _ hcoupon.1) hdiscounted.2)
  have hdue : Amount.Fits
      (quote.listPrice - quote.discount - quote.couponDiscount - quote.giftDeduction) :=
    Amount.fits_of_nonneg (Int.sub_nonneg.2 hgift.2)
      (Int.le_trans (Int.sub_le_self _ hgift.1) hreduced.2)
  have htotal : Amount.Fits (quote.listPrice - quote.discount - quote.couponDiscount -
      quote.giftDeduction + quote.fee) :=
    Amount.fits_of_nonneg (Int.add_nonneg (Int.sub_nonneg.2 hgift.2) hfee) (hamount ▸ hgreatest)
  simp only [reconciles, bind_eq_ok_iff, Amount.sub_eq_ok_iff, Amount.add_eq_ok_iff]
  refine ⟨_, ⟨hdiscounted, rfl⟩, _, ⟨hreduced, rfl⟩, _, ⟨hdue, rfl⟩, _, ⟨htotal, rfl⟩, ?_⟩
  rw [← hamount, beq_self_eq_true]
  rfl

end Quote

namespace Price

/-- What a coupon takes off, if there is one. -/
def reductionOf (coupon : Option Coupon) (amount : Amount) : Amount :=
  match coupon with
  | some coupon => coupon.rule.reduction amount
  | none => 0

theorem reductionOf_bounds (coupon : Option Coupon) {amount : Amount} (h : 0 ≤ amount) :
    0 ≤ reductionOf coupon amount ∧ reductionOf coupon amount ≤ amount := by
  cases coupon with
  | none => exact ⟨Int.le_refl 0, h⟩
  | some coupon => exact coupon.rule.reduction_bounds h

theorem afterCoupon_eq {quote : Quote} (hcoupon : quote.couponDiscount = 0)
    (hamount : 0 ≤ quote.amount) (hgreatest : quote.amount ≤ Amount.greatest)
    (coupon : Option Coupon) :
    afterCoupon quote coupon = .ok (quote.lessCoupon (reductionOf coupon quote.amount)) := by
  cases coupon with
  | none =>
    have hsame : quote.lessCoupon 0 = quote := by
      unfold Quote.lessCoupon
      rw [Int.sub_zero, ← hcoupon]
    rw [reductionOf, hsame]
    rfl
  | some coupon =>
    obtain ⟨hreduction, hle⟩ := coupon.rule.reduction_bounds hamount
    exact Quote.applyCoupon_of_le hcoupon hreduction hle hgreatest

/-- The price of some units of a plan before the payment method adds its fee. -/
def beforeFee (config : Config) (plan : Plan) (quantity : Amount) (coupon : Option Coupon)
    (balance : Amount) : Except OrderError Price := do
  let listed ← Quote.ofList plan.unitPrice quantity (plan.discount.multiplier quantity)
  Eligibility.amount config listed.amount
  let reduced := listed.lessCoupon (reductionOf coupon listed.amount)
  let deduction := GiftDeduction.of balance reduced.amount
  return ⟨reduced.lessGift deduction.deducted, deduction⟩

variable {config : Config} {plan : Plan} {quantity : Amount} {coupon : Option Coupon}
  {balance : Amount} {payment : PaymentMethod}

/-- How the amount of a price before the fee has come about. -/
structure IsDue (price : Price) (config : Config) (unitPrice quantity : Amount)
    (coupon : Option Coupon) (balance : Amount) : Prop where
  listPrice : price.quote.listPrice = unitPrice * quantity
  nonneg : 0 ≤ price.quote.listPrice
  fits : price.quote.listPrice ≤ Amount.greatest
  discount : 0 ≤ price.quote.discount ∧ price.quote.discount ≤ price.quote.listPrice
  limit : price.quote.listPrice - price.quote.discount ≤ config.maxOrderAmount
  couponDiscount : 0 ≤ price.quote.couponDiscount ∧
    price.quote.couponDiscount ≤ price.quote.listPrice - price.quote.discount
  no_coupon : coupon = none → price.quote.couponDiscount = 0
  gift : price.quote.giftDeduction = min (max balance 0)
    (price.quote.listPrice - price.quote.discount - price.quote.couponDiscount)
  fee : price.quote.fee = 0
  amount : price.quote.amount = price.quote.listPrice - price.quote.discount -
    price.quote.couponDiscount - price.quote.giftDeduction

theorem isDue_of_beforeFee {price : Price}
    (h : beforeFee config plan quantity coupon balance = .ok price) :
    price.IsDue config plan.unitPrice quantity coupon balance := by
  simp only [beforeFee, bind_eq_ok_iff] at h
  obtain ⟨listed, hlisted, _, hlimit, h⟩ := h
  obtain rfl := Except.ok.inj h
  have hlisted := Quote.isListed_of_ofList hlisted
  obtain ⟨hreduction, hreductionLe⟩ := reductionOf_bounds coupon hlisted.amount_bounds.1
  have hleft : 0 ≤ listed.amount - reductionOf coupon listed.amount :=
    Int.sub_nonneg.2 hreductionLe
  have hgift := GiftDeduction.deducted_of_nonneg balance hleft
  exact {
    listPrice := hlisted.listPrice
    nonneg := hlisted.nonneg
    fits := hlisted.fits
    discount := hlisted.discount
    limit := hlisted.amount ▸ (Eligibility.amount_eq_ok_iff.1 hlimit).2
    couponDiscount := ⟨hreduction, hlisted.amount ▸ hreductionLe⟩
    no_coupon := by rintro rfl; rfl
    gift := hlisted.amount ▸ hgift
    fee := hlisted.untouched.2.2
    amount := hlisted.amount ▸ rfl }

namespace IsDue

variable {price : Price} {unitPrice : Amount}

/-- The gift balance pays no more than is left after the coupon. -/
theorem gift_bounds (h : price.IsDue config unitPrice quantity coupon balance) :
    0 ≤ price.quote.giftDeduction ∧ price.quote.giftDeduction ≤
      price.quote.listPrice - price.quote.discount - price.quote.couponDiscount := by
  rw [h.gift]
  constructor
  · exact Int.le_min.2 ⟨Int.le_max_right _ _, Int.sub_nonneg.2 h.couponDiscount.2⟩
  · exact Int.min_le_right _ _

theorem amount_nonneg (h : price.IsDue config unitPrice quantity coupon balance) :
    0 ≤ price.quote.amount := by
  rw [h.amount]
  exact Int.sub_nonneg.2 h.gift_bounds.2

theorem amount_le (h : price.IsDue config unitPrice quantity coupon balance) :
    price.quote.amount ≤ price.quote.listPrice - price.quote.discount := by
  rw [h.amount]
  exact Int.le_trans (Int.sub_le_self _ h.gift_bounds.1) (Int.sub_le_self _ h.couponDiscount.1)

end IsDue

/-- A coupon leaves something between nothing and what there was. -/
theorem lessCoupon_bounds {quote : Quote} (hamount : 0 ≤ quote.amount) (coupon : Option Coupon) :
    0 ≤ (quote.lessCoupon (reductionOf coupon quote.amount)).amount ∧
      (quote.lessCoupon (reductionOf coupon quote.amount)).amount ≤ quote.amount := by
  obtain ⟨hreduction, hle⟩ := reductionOf_bounds coupon hamount
  constructor
  · exact Int.sub_nonneg.2 hle
  · exact Int.sub_le_self _ hreduction

/-- The gift balance pays no more than what is left. -/
theorem applyGift_of_balance {quote : Quote} (hgift : quote.giftDeduction = 0)
    (hamount : 0 ≤ quote.amount) (hgreatest : quote.amount ≤ Amount.greatest) (balance : Amount) :
    quote.applyGift (GiftDeduction.of balance quote.amount).deducted =
        .ok (quote.lessGift (GiftDeduction.of balance quote.amount).deducted) ∧
      0 ≤ (quote.lessGift (GiftDeduction.of balance quote.amount).deducted).amount := by
  obtain ⟨hdeducted, hle, -⟩ := GiftDeduction.of_bounds balance quote.amount
  rw [Int.max_eq_left hamount] at hle
  constructor
  · exact Quote.applyGift_of_le hgift hdeducted hle hgreatest
  · exact Int.sub_nonneg.2 hle

/-- **A price is what it comes to before the fee, and the fee on that.** Before the fee it can only
be refused. -/
theorem ofPlan_eq (config : Config) (plan : Plan) (quantity : Amount) (coupon : Option Coupon)
    (balance : Amount) (payment : PaymentMethod) :
    ofPlan config plan quantity coupon balance payment = (do
      let due ← Failure.ofRefusal (beforeFee config plan quantity coupon balance)
      let quote ← due.quote.surcharge config (payment.fee.charge due.quote.amount)
      return ⟨quote, due.deduction⟩) := by
  unfold ofPlan beforeFee
  cases hlist : Quote.ofList plan.unitPrice quantity (plan.discount.multiplier quantity) with
  | error error => rfl
  | ok listed =>
    show Failure.ofRefusal (Eligibility.amount config listed.amount) >>= _ =
      Failure.ofRefusal (Eligibility.amount config listed.amount >>= _) >>= _
    cases hlimit : Eligibility.amount config listed.amount with
    | error error => rfl
    | ok _ =>
      have hlisted := Quote.isListed_of_ofList hlist
      obtain ⟨hcoupon, hgift, hfee⟩ := hlisted.untouched
      obtain ⟨hamount, hle⟩ := hlisted.amount_bounds
      have hgreatest : listed.amount ≤ Amount.greatest := Int.le_trans hle hlisted.fits
      let reduced := listed.lessCoupon (reductionOf coupon listed.amount)
      obtain ⟨hleft, hreducedLe⟩ := lessCoupon_bounds hamount coupon
      -- The limit was kept before the coupon, and a coupon only takes off.
      have hstill : Eligibility.amount config reduced.amount = .ok () :=
        Eligibility.amount_eq_ok_iff.2
          ⟨hleft, Int.le_trans hreducedLe (Eligibility.amount_eq_ok_iff.1 hlimit).2⟩
      let due := reduced.lessGift (GiftDeduction.of balance reduced.amount).deducted
      have hunpaid : reduced.giftDeduction = 0 := hgift
      obtain ⟨hpaid, hdue⟩ :=
        applyGift_of_balance hunpaid hleft (Int.le_trans hreducedLe hgreatest) balance
      have hdueFee : due.fee = 0 := hfee
      rw [afterCoupon_eq hcoupon hamount hgreatest]
      show Failure.ofRefusal (Eligibility.amount config reduced.amount) >>= _ =
        due.surcharge config (payment.fee.charge due.amount) >>= _
      rw [hstill]
      show Failure.ofOverflow (reduced.applyGift _) >>= _ = _
      rw [hpaid, ← Quote.surcharge_eq config hdueFee hdue (payment.fee.charge_nonneg _)]
      simp only [bind_assoc, pure_bind]
      rfl

/-- A price that is found was due before the fee, and the fee on it keeps the limit. -/
theorem ofPlan_eq_ok_iff {price : Price} :
    ofPlan config plan quantity coupon balance payment = .ok price ↔
      ∃ due, beforeFee config plan quantity coupon balance = .ok due ∧
        due.quote.surcharge config (payment.fee.charge due.quote.amount) = .ok price.quote ∧
        price.deduction = due.deduction := by
  rw [ofPlan_eq]
  simp only [bind_eq_ok_iff, Failure.ofRefusal, mapError_eq_ok_iff]
  refine exists_congr fun due => and_congr_right fun _ => ?_
  constructor
  · rintro ⟨quote, hquote, hprice⟩
    obtain rfl := Except.ok.inj hprice
    exact ⟨hquote, rfl⟩
  · rintro ⟨hquote, hdeduction⟩
    refine ⟨price.quote, hquote, ?_⟩
    rw [← hdeduction]
    rfl

/-- **A price that is found reconciles.** -/
theorem reconciles_of_ofPlan {price : Price}
    (h : ofPlan config plan quantity coupon balance payment = .ok price) :
    price.quote.reconciles = .ok true := by
  obtain ⟨due, hbefore, hsurcharge, -⟩ := ofPlan_eq_ok_iff.1 h
  obtain ⟨hgreatest, -, hquote⟩ := Quote.surcharge_eq_ok_iff.1 hsurcharge
  have hdue := isDue_of_beforeFee hbefore
  rw [hquote]
  refine Quote.reconciles_of_steps hdue.fits hdue.discount hdue.couponDiscount hdue.gift_bounds
    (payment.fee.charge_nonneg _) ?_ hgreatest
  exact congrArg (· + payment.fee.charge due.quote.amount) hdue.amount

/-- A recharge is an amount and the fee on it. -/
theorem ofRecharge_eq (config : Config) {amount : Amount} (h : 0 ≤ amount)
    (payment : PaymentMethod) :
    ofRecharge config amount payment =
      (Quote.flat amount).surcharge config (payment.fee.charge amount) :=
  Quote.surcharge_eq config rfl h (payment.fee.charge_nonneg amount)

/-- Less than nothing is not recharged: there is no fee on it that could make up for that. -/
theorem nonneg_of_ofRecharge {amount : Amount} {quote : Quote}
    (h : ofRecharge config amount payment = .ok quote) : 0 ≤ amount := by
  simp only [ofRecharge, Failure.ofOverflow, Failure.ofRefusal, bind_eq_ok_iff, mapError_eq_ok_iff]
    at h
  obtain ⟨charged, hcharged, _, hlimit, -⟩ := h
  obtain ⟨-, -, rfl⟩ := Quote.applyFee_eq_ok_iff.1 hcharged
  have htotal : 0 ≤ amount + payment.fee.charge amount := (Eligibility.amount_eq_ok_iff.1 hlimit).1
  refine Int.not_lt.1 fun hnegative => ?_
  rw [payment.fee.charge_of_le (Int.le_of_lt hnegative), Int.add_zero] at htotal
  exact Int.not_le.2 hnegative htotal

/-- **A quote for a recharge reconciles.** -/
theorem reconciles_of_ofRecharge {amount : Amount} {quote : Quote}
    (h : ofRecharge config amount payment = .ok quote) : quote.reconciles = .ok true := by
  have hamount := nonneg_of_ofRecharge h
  have hfee := payment.fee.charge_nonneg amount
  rw [ofRecharge_eq config hamount] at h
  obtain ⟨hgreatest, -, rfl⟩ := Quote.surcharge_eq_ok_iff.1 h
  have hlist : amount ≤ Amount.greatest :=
    Int.le_trans (Int.le_add_of_nonneg_right hfee) hgreatest
  have hnothing : (0 : Amount) ≤ 0 := Int.le_refl 0
  refine Quote.reconciles_of_steps hlist ⟨hnothing, hamount⟩ ⟨hnothing, ?_⟩ ⟨hnothing, ?_⟩ hfee ?_
    hgreatest
  · simpa [Quote.flat, Quote.zero] using hamount
  · simpa [Quote.flat, Quote.zero] using hamount
  · simp [Quote.flat, Quote.zero]

end Price

end OrderDesk
