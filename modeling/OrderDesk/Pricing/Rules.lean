import OrderDesk.Coupon
import OrderDesk.Payment
import OrderDesk.Plan.DiscountTable
import OrderDesk.Pricing.Quote

/-!
# Pricing rules

Each rule turns an amount into another one. Fractions are always rounded down.

* `DiscountTable.multiplier` is the factor that a table has for a quantity.
* `Quote.ofList` prices some units of a plan with such a factor.
* `CouponRule.reduction` is what a coupon takes off: never less than nothing and never
  more than the amount.
* `FeeRule.charge` is what a payment method adds, never less than nothing.
-/

namespace OrderDesk

/-- An amount times a factor, rounded down; `none` when it does not fit. -/
def floorMul (amount : Amount) (factor : Decimal) : Option Amount := do
  let whole ← Decimal.ofInt? amount
  let product ← whole.mul? factor
  Amount.ofInt? product.floor

/-- Some percent of an amount, rounded down; nothing when it does not fit. -/
def percentOf (amount : Amount) (percent : Decimal) : Amount :=
  (floorMul amount percent.hundredth).getD 0

namespace DiscountTable

/-- The tier for a quantity: the last one whose threshold is reached. -/
def tierFor? (table : DiscountTable) (quantity : Amount) : Option DiscountTier :=
  table.tiers.reverse.find? fun tier => tier.quantity ≤ quantity

/-- The factor for a quantity: a hundredth of the percentage of its tier, or one. -/
def multiplier (table : DiscountTable) (quantity : Amount) : Decimal :=
  match table.tierFor? quantity with
  | some tier => tier.discount.hundredth
  | none => 1

end DiscountTable

namespace Quote

/-- The amount after the factor; the list price where the product is not between zero
and the list price. -/
def baseAmount (listPrice : Amount) (multiplier : Decimal) : Amount :=
  match floorMul listPrice multiplier with
  | some base => if 0 ≤ base ∧ base ≤ listPrice then base else listPrice
  | none => listPrice

/-- Prices some units of a plan. -/
def ofList (unitPrice quantity : Amount) (multiplier : Decimal) : Except OrderError Quote :=
  match Amount.mul? unitPrice quantity with
  | some listPrice =>
    if 0 ≤ listPrice then
      let base := baseAmount listPrice multiplier
      .ok { zero with listPrice, discount := listPrice - base, amount := base }
    else .error (.priceOutOfRange quantity unitPrice)
  | none => .error (.priceOutOfRange quantity unitPrice)

end Quote

namespace CouponRule

/-- The reduction by a cap, which counts only when it is positive. -/
def capped (cap : Option Amount) (reduction : Amount) : Amount :=
  match cap with
  | some most => if 0 < most then min reduction most else reduction
  | none => reduction

/-- What the coupon takes off an amount. -/
def reduction (rule : CouponRule) (amount : Amount) : Amount :=
  if amount ≤ 0 then 0
  else
    let wanted :=
      match rule with
      | .percentage percent cap => capped cap (percentOf amount percent)
      | .fixed value => min value amount
    max 0 (min amount wanted)

end CouponRule

namespace FeeRule

/-- What the payment method adds to an amount. Nothing is added when nothing is left to
collect. -/
def charge (rule : FeeRule) (amount : Amount) : Amount :=
  if amount ≤ 0 then 0
  else
    let wanted :=
      match rule with
      | .none => 0
      | .percent rate => percentOf amount rate
      | .fixed value => value
      | .percentPlusFixed rate value => Amount.addClamped (percentOf amount rate) value
    max 0 wanted

end FeeRule

end OrderDesk
