import OrderDesk.Error
import OrderDesk.Result

/-!
# Quotes

A quote is the running breakdown of a price. Each step that changes the amount also
enters what it took off or added, so that a quote reconciles: the amount is the list
price less what was taken off and with the fee.

The steps stop the program when a sum does not fit.
-/

namespace OrderDesk

open OrderDesk.Result

/-- How the amount of an order comes about. -/
structure Quote where
  listPrice : Amount
  /-- Taken off for the quantity. -/
  discount : Amount
  /-- Taken off by a coupon. -/
  couponDiscount : Amount
  /-- Paid from the gift balance. -/
  giftDeduction : Amount
  /-- Added by the payment method. -/
  fee : Amount
  /-- What is left to pay. -/
  amount : Amount
  deriving DecidableEq

namespace Quote

/-- The quote of nothing. -/
def zero : Quote := ⟨0, 0, 0, 0, 0, 0⟩

/-- An amount with nothing taken off. -/
def flat (amount : Amount) : Quote := { zero with listPrice := amount, amount := amount }

/-- Takes off the reduction of a coupon. -/
def applyCoupon (quote : Quote) (reduction : Amount) : Except Overflow Quote := do
  let couponDiscount ← Amount.add quote.couponDiscount reduction
  let amount ← Amount.sub quote.amount reduction
  return { quote with couponDiscount, amount }

/-- Takes off what the gift balance pays. -/
def applyGift (quote : Quote) (deduction : Amount) : Except Overflow Quote := do
  let giftDeduction ← Amount.add quote.giftDeduction deduction
  let amount ← Amount.sub quote.amount deduction
  return { quote with giftDeduction, amount }

/-- Adds a fee. -/
def applyFee (quote : Quote) (charge : Amount) : Except Overflow Quote := do
  let fee ← Amount.add quote.fee charge
  let amount ← Amount.add quote.amount charge
  return { quote with fee, amount }

/-- The amount is the list price less what was taken off and with the fee. -/
def reconciles (quote : Quote) : Except Overflow Bool := do
  let afterDiscount ← Amount.sub quote.listPrice quote.discount
  let afterCoupon ← Amount.sub afterDiscount quote.couponDiscount
  let afterGift ← Amount.sub afterCoupon quote.giftDeduction
  let total ← Amount.add afterGift quote.fee
  return total == quote.amount

/-! ### When a step goes through, and what it leaves -/

variable {quote result : Quote}

theorem applyCoupon_eq_ok_iff {reduction : Amount} :
    quote.applyCoupon reduction = .ok result ↔
      Amount.Fits (quote.couponDiscount + reduction) ∧ Amount.Fits (quote.amount - reduction) ∧
        result = { quote with
          couponDiscount := quote.couponDiscount + reduction
          amount := quote.amount - reduction } := by
  simp only [applyCoupon, bind_eq_ok_iff, Amount.add_eq_ok_iff, Amount.sub_eq_ok_iff]
  constructor
  · rintro ⟨_, ⟨hreduction, rfl⟩, _, ⟨hamount, rfl⟩, ⟨⟩⟩
    exact ⟨hreduction, hamount, rfl⟩
  · rintro ⟨hreduction, hamount, rfl⟩
    exact ⟨_, ⟨hreduction, rfl⟩, _, ⟨hamount, rfl⟩, rfl⟩

theorem applyGift_eq_ok_iff {deduction : Amount} :
    quote.applyGift deduction = .ok result ↔
      Amount.Fits (quote.giftDeduction + deduction) ∧ Amount.Fits (quote.amount - deduction) ∧
        result = { quote with
          giftDeduction := quote.giftDeduction + deduction
          amount := quote.amount - deduction } := by
  simp only [applyGift, bind_eq_ok_iff, Amount.add_eq_ok_iff, Amount.sub_eq_ok_iff]
  constructor
  · rintro ⟨_, ⟨hdeduction, rfl⟩, _, ⟨hamount, rfl⟩, ⟨⟩⟩
    exact ⟨hdeduction, hamount, rfl⟩
  · rintro ⟨hdeduction, hamount, rfl⟩
    exact ⟨_, ⟨hdeduction, rfl⟩, _, ⟨hamount, rfl⟩, rfl⟩

theorem applyFee_eq_ok_iff {charge : Amount} :
    quote.applyFee charge = .ok result ↔
      Amount.Fits (quote.fee + charge) ∧ Amount.Fits (quote.amount + charge) ∧
        result = { quote with
          fee := quote.fee + charge
          amount := quote.amount + charge } := by
  simp only [applyFee, bind_eq_ok_iff, Amount.add_eq_ok_iff]
  constructor
  · rintro ⟨_, ⟨hcharge, rfl⟩, _, ⟨hamount, rfl⟩, ⟨⟩⟩
    exact ⟨hcharge, hamount, rfl⟩
  · rintro ⟨hcharge, hamount, rfl⟩
    exact ⟨_, ⟨hcharge, rfl⟩, _, ⟨hamount, rfl⟩, rfl⟩

end Quote

end OrderDesk
