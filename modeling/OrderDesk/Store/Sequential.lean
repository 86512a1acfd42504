import OrderDesk.Result
import OrderDesk.Store.Commit

/-!
# Writing in place

The plain reading of a list of writes: each one changes the store itself, and when one
fails the store is put back to what it was before the first.
-/

namespace OrderDesk.Store

open OrderDesk.Result

/-- Carries out one write in place. -/
def write (store : Store) : Write → Except WriteFault Store
  | .setGiftBalance id expected balance =>
    match store.users.find? id with
    | none => .error (.refused (.notFound (.user id)))
    | some user => do
      let user ← (user.rebalance expected balance).mapError .refused
      return { store with users := store.users.put user }
  | .appendEntry entry => .ok { store with ledger := store.ledger ++ [entry] }
  | .takeUnit id =>
    match store.plans.find? id with
    | none => .error (.refused (.notFound (.plan id)))
    | some plan => do
      let plan ← plan.takeUnit.mapError .refused
      return { store with plans := store.plans.put plan }
  | .returnUnit id =>
    match store.plans.find? id with
    | none => .ok store
    | some plan => do
      let plan ← plan.returnUnit.mapError .stopped
      return { store with plans := store.plans.put plan }
  | .redeem code =>
    match store.coupons.find? code with
    | none => .error (.refused (.notFound (.coupon code)))
    | some coupon => do
      let coupon ← coupon.redeem
      return { store with coupons := store.coupons.put coupon }
  | .release code =>
    match store.coupons.find? code with
    | none => .ok store
    | some coupon => .ok { store with coupons := store.coupons.put coupon.release }
  | .insert order =>
    match store.orders.find? order.orderNo with
    | none => .ok { store with orders := store.orders.put order }
    | some _ => .error (.refused (.orderExists order.orderNo))
  | .move orderNo current next =>
    match store.orders.find? orderNo with
    | none => .error (.refused (.notFound (.order orderNo)))
    | some order => do
      let order ← (order.move current next).mapError .refused
      return { store with orders := store.orders.put order }

/-- Carries out writes in place, from a store to go back to when one fails. -/
def executeFrom (before store : Store) : List Write → Except WriteFault Unit × Store
  | [] => (.ok (), store)
  | w :: rest =>
    match store.write w with
    | .ok store => executeFrom before store rest
    | .error fault => (.error fault, before)

/-- The answer to some writes, and the store that they leave. -/
def execute (store : Store) (writes : List Write) : Except WriteFault Unit × Store :=
  executeFrom store store writes

/-! ### When a write in place goes through, and what it leaves -/

variable {store after : Store}

theorem write_setGiftBalance_eq_ok_iff {id : UserId} {expected balance : Amount} :
    store.write (.setGiftBalance id expected balance) = .ok after ↔
      ∃ user, store.users.find? id = some user ∧ user.giftAmount = expected ∧ 0 ≤ balance ∧
        after = { store with users := store.users.put { user with giftAmount := balance } } := by
  simp only [write]
  cases store.users.find? id with
  | none => simp
  | some user =>
    simp [map_eq_ok_iff, mapError_eq_ok_iff, User.rebalance_eq_ok_iff, and_assoc]

theorem write_appendEntry_eq_ok_iff {entry : GiftEntry} :
    store.write (.appendEntry entry) = .ok after ↔
      after = { store with ledger := store.ledger ++ [entry] } := by
  simp [write, @eq_comm _ _ after]

theorem write_takeUnit_eq_ok_iff {id : PlanId} :
    store.write (.takeUnit id) = .ok after ↔
      ∃ plan, store.plans.find? id = some plan ∧ plan.inventory ≠ 0 ∧
        after = { store with plans := store.plans.put (plan.restock (-1)) } := by
  simp only [write]
  cases store.plans.find? id with
  | none => simp
  | some plan =>
    simp [map_eq_ok_iff, mapError_eq_ok_iff, Plan.takeUnit_eq_ok_iff, and_assoc]

theorem write_returnUnit_eq_ok_iff {id : PlanId} :
    store.write (.returnUnit id) = .ok after ↔
      store.plans.find? id = none ∧ after = store ∨
      ∃ plan, store.plans.find? id = some plan ∧
        (plan.isFinite → Amount.Fits (plan.inventory + 1)) ∧
        after = { store with plans := store.plans.put (plan.restock 1) } := by
  simp only [write]
  cases store.plans.find? id with
  | none => simp [@eq_comm _ store after]
  | some plan =>
    simp [map_eq_ok_iff, mapError_eq_ok_iff, Plan.returnUnit_eq_ok_iff, and_assoc]

theorem write_redeem_eq_ok_iff {code : String} :
    store.write (.redeem code) = .ok after ↔
      ∃ coupon, store.coupons.find? code = some coupon ∧ coupon.hasRemaining ∧
        Amount.Fits (coupon.usedCount + 1) ∧
        after = { store with
          coupons := store.coupons.put { coupon with usedCount := coupon.usedCount + 1 } } := by
  simp only [write]
  cases store.coupons.find? code with
  | none => simp
  | some coupon => simp [map_eq_ok_iff, Coupon.redeem_eq_ok_iff, and_assoc]

theorem write_release_eq_ok_iff {code : String} :
    store.write (.release code) = .ok after ↔
      store.coupons.find? code = none ∧ after = store ∨
      ∃ coupon, store.coupons.find? code = some coupon ∧
        after = { store with coupons := store.coupons.put coupon.release } := by
  simp only [write]
  cases store.coupons.find? code with
  | none => simp [@eq_comm _ store after]
  | some coupon => simp [@eq_comm _ _ after]

theorem write_insert_eq_ok_iff {order : Order} :
    store.write (.insert order) = .ok after ↔
      store.orders.find? order.orderNo = none ∧
        after = { store with orders := store.orders.put order } := by
  simp only [write]
  cases store.orders.find? order.orderNo <;> simp [@eq_comm _ _ after]

theorem write_move_eq_ok_iff {orderNo : OrderNo} {current next : OrderStatus} :
    store.write (.move orderNo current next) = .ok after ↔
      ∃ order, store.orders.find? orderNo = some order ∧ order.status = current ∧
        current.canMoveTo next ∧
        after = { store with orders := store.orders.put { order with status := next } } := by
  simp only [write]
  cases store.orders.find? orderNo with
  | none => simp
  | some order =>
    simp [map_eq_ok_iff, mapError_eq_ok_iff, Order.move_eq_ok_iff, and_assoc]

/-- No write touches the tables that the desk only reads. -/
theorem untouched_of_write {w : Write} (h : store.write w = .ok after) :
    after.payments = store.payments ∧ after.subscriptions = store.subscriptions := by
  cases w with
  | setGiftBalance id expected balance =>
    obtain ⟨user, -, -, -, rfl⟩ := write_setGiftBalance_eq_ok_iff.1 h
    exact ⟨rfl, rfl⟩
  | appendEntry entry =>
    obtain rfl := write_appendEntry_eq_ok_iff.1 h
    exact ⟨rfl, rfl⟩
  | takeUnit id =>
    obtain ⟨plan, -, -, rfl⟩ := write_takeUnit_eq_ok_iff.1 h
    exact ⟨rfl, rfl⟩
  | returnUnit id =>
    obtain ⟨-, rfl⟩ | ⟨plan, -, -, rfl⟩ := write_returnUnit_eq_ok_iff.1 h <;> exact ⟨rfl, rfl⟩
  | redeem code =>
    obtain ⟨coupon, -, -, -, rfl⟩ := write_redeem_eq_ok_iff.1 h
    exact ⟨rfl, rfl⟩
  | release code =>
    obtain ⟨-, rfl⟩ | ⟨coupon, -, rfl⟩ := write_release_eq_ok_iff.1 h <;> exact ⟨rfl, rfl⟩
  | insert order =>
    obtain ⟨-, rfl⟩ := write_insert_eq_ok_iff.1 h
    exact ⟨rfl, rfl⟩
  | move orderNo current next =>
    obtain ⟨order, -, -, -, rfl⟩ := write_move_eq_ok_iff.1 h
    exact ⟨rfl, rfl⟩

end OrderDesk.Store
