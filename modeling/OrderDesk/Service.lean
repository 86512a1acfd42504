/-!
# Services

The services by which the desk reaches its store and its queue, each with a name. A
service may be down, which is an error of the call that was to go through it.
-/

namespace OrderDesk

/-- The calls by which the desk reaches its store and its queue. -/
inductive Service
  | findPlan
  | storePlan
  | findPayment
  | storePayment
  | findCoupon
  | storeCoupon
  | findUser
  | storeUser
  | subscriptions
  | findSubscription
  | storeSubscription
  | getOrder
  | countByCoupon
  | hasPaidOrders
  | allOrders
  | commit
  | enqueue
  | takeDue
  deriving DecidableEq

namespace Service

/-- The name of a service. -/
def name : Service → String
  | .findPlan => "plans.find"
  | .storePlan => "plans.store"
  | .findPayment => "payments.find"
  | .storePayment => "payments.store"
  | .findCoupon => "coupons.find_by_code"
  | .storeCoupon => "coupons.store"
  | .findUser => "users.find"
  | .storeUser => "users.store"
  | .subscriptions => "users.subscriptions"
  | .findSubscription => "users.find_subscription"
  | .storeSubscription => "users.store_subscription"
  | .getOrder => "orders.get"
  | .countByCoupon => "orders.count_by_coupon"
  | .hasPaidOrders => "orders.has_paid_orders"
  | .allOrders => "orders.all_orders"
  | .commit => "commit"
  | .enqueue => "enqueue"
  | .takeDue => "take_due"

/-- All services. -/
def all : List Service :=
  [findPlan, storePlan, findPayment, storePayment, findCoupon, storeCoupon, findUser, storeUser,
    subscriptions, findSubscription, storeSubscription, getOrder, countByCoupon, hasPaidOrders,
    allOrders, commit, enqueue, takeDue]

/-- The service with a name. -/
def ofName? (name : String) : Option Service := all.find? (·.name == name)

end Service

end OrderDesk
