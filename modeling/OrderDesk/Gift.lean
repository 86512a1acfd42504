import OrderDesk.Account

/-!
# Gift balances

A gift balance pays for an order as far as it goes. Each payment and each refund is an
entry of the ledger, with the balance that it leaves.
-/

namespace OrderDesk

/-- What a gift balance pays of a charge. -/
structure GiftDeduction where
  deducted : Amount
  /-- What is left of the charge. -/
  remainingDue : Amount
  balanceBefore : Amount
  balanceAfter : Amount
  deriving DecidableEq

namespace GiftDeduction

/-- As much of the charge as the balance can pay. Nothing is paid from a balance below
zero, or towards a charge below zero. -/
def of (balance charge : Amount) : GiftDeduction :=
  let due := max charge 0
  let deducted := min (max balance 0) due
  { deducted
    remainingDue := due - deducted
    balanceBefore := balance
    balanceAfter := balance - deducted }

/-- The deduction is never more than the charge, and leaves no balance below zero that
was not below zero before. -/
theorem of_bounds (balance charge : Amount) :
    0 ≤ (of balance charge).deducted ∧ (of balance charge).deducted ≤ max charge 0 ∧
      min balance 0 ≤ (of balance charge).balanceAfter := by
  unfold Amount at *; simp only [of]; omega

end GiftDeduction

namespace GiftEntry

/-- The remark on what pays for a purchase. -/
def purchaseRemark : String := "Purchase order deduction"

/-- The remark on what pays for a renewal. -/
def renewalRemark : String := "Renewal order deduction"

/-- The remark on what an order that was closed gives back. -/
def refundRemark : String := "Order cancellation refund"

/-- The entry for a deduction, if anything was deducted. -/
def debit? (userId : UserId) (orderNo : OrderNo) (deduction : GiftDeduction) (remark : String)
    (now : Instant) : Option GiftEntry :=
  if 0 < deduction.deducted then
    some { userId, change := .decrease, orderNo, amount := deduction.deducted,
           balance := deduction.balanceAfter, remark, timestamp := now }
  else none

/-- The entry for what an order gives back. -/
def credit (userId : UserId) (orderNo : OrderNo) (amount balance : Amount) (now : Instant) :
    GiftEntry :=
  { userId, change := .increase, orderNo, amount, balance, remark := refundRemark,
    timestamp := now }

end GiftEntry

end OrderDesk
