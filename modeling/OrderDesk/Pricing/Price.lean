import OrderDesk.Eligibility
import OrderDesk.Gift
import OrderDesk.Pricing.Rules

/-!
# Pricing an order

The price of an order is worked out in steps: the quantity discount, the coupon, the
gift balance and the fee. The limit for orders is looked at after every step that can
raise the amount.
-/

namespace OrderDesk

/-- A price, and what the gift balance pays of it. -/
structure Price where
  quote : Quote
  deduction : GiftDeduction
  deriving DecidableEq

namespace Price

/-- The quote after the coupon, if there is one. -/
def afterCoupon (quote : Quote) (coupon : Option Coupon) : Except Overflow Quote :=
  match coupon with
  | some coupon => quote.applyCoupon (coupon.rule.reduction quote.amount)
  | none => .ok quote

/-- The price of some units of a plan. -/
def ofPlan (config : Config) (plan : Plan) (quantity : Amount) (coupon : Option Coupon)
    (balance : Amount) (payment : PaymentMethod) : Except Failure Price := do
  let quote ← Failure.ofRefusal
    (Quote.ofList plan.unitPrice quantity (plan.discount.multiplier quantity))
  Failure.ofRefusal (Eligibility.amount config quote.amount)
  let quote ← Failure.ofOverflow (afterCoupon quote coupon)
  Failure.ofRefusal (Eligibility.amount config quote.amount)
  let deduction := GiftDeduction.of balance quote.amount
  let quote ← Failure.ofOverflow (quote.applyGift deduction.deducted)
  let quote ← Failure.ofOverflow (quote.applyFee (payment.fee.charge quote.amount))
  Failure.ofRefusal (Eligibility.amount config quote.amount)
  return ⟨quote, deduction⟩

/-- The quote of a recharge. -/
def ofRecharge (config : Config) (amount : Amount) (payment : PaymentMethod) :
    Except Failure Quote := do
  let quote := Quote.flat amount
  let quote ← Failure.ofOverflow (quote.applyFee (payment.fee.charge quote.amount))
  Failure.ofRefusal (Eligibility.amount config quote.amount)
  return quote

end Price

end OrderDesk
