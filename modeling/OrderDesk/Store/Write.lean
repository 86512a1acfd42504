import OrderDesk.Coupon
import OrderDesk.Plan.Basic
import OrderDesk.Store.Error

/-!
# Writes

A write changes one record, under a condition of its own. The conditions are checked
against the record as it is when the write is carried out, so that a write is refused
when the record has changed since it was read.
-/

namespace OrderDesk

/-- One change of one record. -/
inductive Write
  /-- Sets a gift balance that is still the expected one. -/
  | setGiftBalance (user : UserId) (expected balance : Amount)
  /-- Adds an entry to the ledger. -/
  | appendEntry (entry : GiftEntry)
  /-- Takes a unit of a plan whose units are counted. -/
  | takeUnit (plan : PlanId)
  /-- Gives a unit back to a plan whose units are counted, if there is such a plan. -/
  | returnUnit (plan : PlanId)
  /-- Counts a redemption of a coupon that can still be redeemed. -/
  | redeem (code : String)
  /-- Takes a redemption back, if there is one. -/
  | release (code : String)
  /-- Adds an order under a number that no other order has. -/
  | insert (order : Order)
  /-- Moves an order from the status where it is expected to the next one. -/
  | move (orderNo : OrderNo) (current next : OrderStatus)
  deriving DecidableEq

/-- A write is refused, or a number would not fit any more. -/
inductive WriteFault
  | refused (error : StoreError)
  | stopped (overflow : Overflow)
  deriving DecidableEq

/-! ### What a write makes of its record -/

/-- The user with another gift balance. -/
def User.rebalance (user : User) (expected balance : Amount) : Except StoreError User :=
  if user.giftAmount ≠ expected then .error (.balanceMoved user.id user.giftAmount expected)
  else if balance < 0 then .error (.balanceNegative user.id balance)
  else .ok { user with giftAmount := balance }

/-- The plan with one unit less, if its units are counted. -/
def Plan.takeUnit (plan : Plan) : Except StoreError Plan :=
  if plan.isSoldOut then .error (.outOfStock plan.id)
  else if plan.isFinite then .ok { plan with inventory := plan.inventory - 1 }
  else .ok plan

/-- The plan with one unit more, if its units are counted. -/
def Plan.returnUnit (plan : Plan) : Except Overflow Plan :=
  if plan.isFinite then do
    let inventory ← Amount.add plan.inventory 1
    return { plan with inventory }
  else .ok plan

/-- The coupon with one redemption more. -/
def Coupon.redeem (coupon : Coupon) : Except WriteFault Coupon :=
  if coupon.hasRemaining then
    match Amount.add coupon.usedCount 1 with
    | .ok usedCount => .ok { coupon with usedCount }
    | .error overflow => .error (.stopped overflow)
  else .error (.refused (.couponUsedUp coupon.code))

/-- The coupon with one redemption less, if it has any. -/
def Coupon.release (coupon : Coupon) : Coupon :=
  if 0 < coupon.usedCount then { coupon with usedCount := coupon.usedCount - 1 } else coupon

/-- The order at its next status. -/
def Order.move (order : Order) (current next : OrderStatus) : Except StoreError Order :=
  if order.status = current ∧ current.canMoveTo next then .ok { order with status := next }
  else .error (.wrongStatus order.orderNo order.status current next)

/-- The plan with some units more, or fewer, if its units are counted. -/
def Plan.restock (plan : Plan) (units : Amount) : Plan :=
  if plan.isFinite then { plan with inventory := plan.inventory + units } else plan

/-! ### When a write is carried out, and what comes out -/

theorem User.rebalance_eq_ok_iff {user result : User} {expected balance : Amount} :
    user.rebalance expected balance = .ok result ↔
      user.giftAmount = expected ∧ 0 ≤ balance ∧ result = { user with giftAmount := balance } := by
  unfold User.rebalance
  by_cases hmoved : user.giftAmount = expected
  · by_cases hneg : balance < 0
    · simp [hmoved, hneg, Int.not_le.2 hneg]
    · simp [hmoved, hneg, Int.not_lt.1 hneg, eq_comm]
  · simp [hmoved]

@[simp] theorem Plan.id_restock (plan : Plan) (units : Amount) :
    (plan.restock units).id = plan.id := by
  unfold Plan.restock; split <;> rfl

theorem Plan.takeUnit_eq_ok_iff {plan result : Plan} :
    plan.takeUnit = .ok result ↔ plan.inventory ≠ 0 ∧ result = plan.restock (-1) := by
  unfold Plan.takeUnit Plan.isSoldOut Plan.restock
  by_cases h : plan.inventory = 0
  · simp [h]
  · simp only [h, beq_iff_eq, if_false, ne_eq, not_false_eq_true, true_and, Int.sub_eq_add_neg]
    split <;> simp [eq_comm]

theorem Plan.returnUnit_eq_ok_iff {plan result : Plan} :
    plan.returnUnit = .ok result ↔
      (plan.isFinite → Amount.Fits (plan.inventory + 1)) ∧ result = plan.restock 1 := by
  unfold Plan.returnUnit Plan.restock
  cases plan.isFinite with
  | false => simp [eq_comm]
  | true =>
    by_cases h : Amount.Fits (plan.inventory + 1) <;>
      simp [Amount.add, h, bind, Except.bind, pure, Except.pure, eq_comm]

theorem Coupon.redeem_eq_ok_iff {coupon result : Coupon} :
    coupon.redeem = .ok result ↔
      coupon.hasRemaining ∧ Amount.Fits (coupon.usedCount + 1) ∧
        result = { coupon with usedCount := coupon.usedCount + 1 } := by
  unfold Coupon.redeem
  cases coupon.hasRemaining with
  | false => simp
  | true =>
    by_cases h : Amount.Fits (coupon.usedCount + 1) <;> simp [Amount.add, h, eq_comm]

@[simp] theorem Coupon.code_release (coupon : Coupon) : coupon.release.code = coupon.code := by
  unfold Coupon.release; split <;> rfl

theorem Order.move_eq_ok_iff {order result : Order} {current next : OrderStatus} :
    order.move current next = .ok result ↔
      order.status = current ∧ current.canMoveTo next ∧ result = { order with status := next } := by
  unfold Order.move
  by_cases h : order.status = current ∧ current.canMoveTo next
  · simp [h, eq_comm]
  · simp only [h, if_false, reduceCtorEq, false_iff]
    rintro ⟨hstatus, hmove, -⟩
    exact h ⟨hstatus, hmove⟩

end OrderDesk
