import OrderDesk.Gift
import OrderDesk.Program

/-!
# Fulfillment

An order is stored in one commit with all that it takes: gift balance, a unit of the
plan and a redemption of the coupon.
-/

namespace OrderDesk

/-- Commits the writes that were prepared, unless preparing them was refused. -/
def Program.transaction (context : String) (writes : Except OrderError (List Write)) :
    Program Unit := do
  let writes ← Program.check writes
  let reply ← Program.perform (.commit writes)
  Program.written context reply

/-- An order and what it takes. -/
structure Fulfillment where
  order : Order
  /-- What the gift balance pays, and the remark on it. -/
  gift : Option (GiftDeduction × String)
  /-- The plan that a unit is taken of. -/
  plan : Option Plan

namespace Fulfillment

/-- The writes for what the gift balance pays. -/
def giftWrites (f : Fulfillment) (now : Instant) : List Write :=
  match f.gift with
  | none => []
  | some (deduction, remark) =>
    match GiftEntry.debit? f.order.userId f.order.orderNo deduction remark now with
    | none => []
    | some entry =>
      [.setGiftBalance f.order.userId deduction.balanceBefore deduction.balanceAfter,
        .appendEntry entry]

/-- The write for the unit of the plan. -/
def unitWrites (f : Fulfillment) : List Write :=
  match f.plan with
  | none => []
  | some plan => if plan.isFinite then [.takeUnit plan.id] else []

/-- The write for the coupon. -/
def couponWrites (f : Fulfillment) : List Write :=
  match f.order.coupon with
  | none => []
  | some code => [.redeem code]

/-- All writes for the order. -/
def writes (f : Fulfillment) (now : Instant) : List Write :=
  f.giftWrites now ++ f.unitWrites ++ f.couponWrites ++ [.insert f.order]

/-- Stores the order. -/
def store (f : Fulfillment) (now : Instant) : Program Order := do
  Program.transaction "insert order" (.ok (f.writes now))
  return f.order

end Fulfillment

end OrderDesk
