import OrderDesk.Coupon
import OrderDesk.Order
import OrderDesk.Payment
import OrderDesk.Plan.Basic
import OrderDesk.Store.Table

/-!
# The store

All records of the desk, table by table, and the gift ledger. Orders and the ledger
change by commits only; the other records can also be put in directly.
-/

namespace OrderDesk

/-- The records of the desk. -/
structure Store where
  plans : Table Plan.id
  payments : Table PaymentMethod.id
  coupons : Table Coupon.code
  users : Table User.id
  subscriptions : Table Subscription.id
  orders : Table Order.orderNo
  /-- The entries of the gift ledger, the oldest first. -/
  ledger : List GiftEntry
  deriving DecidableEq

namespace Store

/-- The store without records. -/
def empty : Store := ⟨.empty, .empty, .empty, .empty, .empty, .empty, []⟩

/-- The subscriptions of a user, by their numbers. -/
def subscriptionsOf (store : Store) (user : UserId) : List Subscription :=
  (store.subscriptions.rows.filter fun s => s.userId == user).mergeSort fun a b => a.id ≤ b.id

/-- How many orders of a user carry a coupon, wherever they stand. -/
def redemptions (store : Store) (user : UserId) (code : String) : Nat :=
  (store.orders.rows.filter fun o => o.userId == user && o.coupon == some code).length

/-- The user has an order that is paid. -/
def hasPaidOrders (store : Store) (user : UserId) : Bool :=
  store.orders.rows.any fun o => o.userId == user && o.status == .paid

/-- The ledger entries of a user, the oldest first. -/
def ledgerOf (store : Store) (user : UserId) : List GiftEntry :=
  store.ledger.filter fun entry => entry.userId == user

end Store

end OrderDesk
