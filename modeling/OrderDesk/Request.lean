import OrderDesk.Amount
import OrderDesk.Json.Fields

/-!
# Requests

What a user can ask for: buying a plan, renewing a subscription and recharging the
account.
-/

namespace OrderDesk

/-- Asks for units of a plan. -/
structure PurchaseRequest where
  planId : PlanId
  /-- Counts as one unless it is positive. -/
  quantity : Amount
  coupon : Option String
  paymentId : PaymentId
  deriving DecidableEq

namespace PurchaseRequest

/-- The JSON form of the request. -/
def toJson (r : PurchaseRequest) : Json :=
  .obj [("plan_id", .int r.planId), ("quantity", .int r.quantity),
    ("coupon", Json.ofOption .str r.coupon), ("payment_id", .int r.paymentId)]

/-- Reads the JSON form of the request. -/
def ofJson? (value : Json) : Option PurchaseRequest := do
  let fields ← Json.Fields.of? ["plan_id", "quantity", "coupon", "payment_id"] value
  let planId ← fields.required "plan_id" Json.id?
  let quantity ← fields.orElse "quantity" Json.amount? 0
  let coupon ← fields.orElse "coupon" (Json.nullable? Json.str?) none
  let paymentId ← fields.required "payment_id" Json.id?
  return { planId, quantity, coupon, paymentId }

end PurchaseRequest

/-- Asks to renew a subscription. -/
structure RenewalRequest where
  subscriptionId : SubscriptionId
  /-- Counts as one unless it is positive. -/
  quantity : Amount
  coupon : Option String
  paymentId : PaymentId
  deriving DecidableEq

namespace RenewalRequest

/-- The JSON form of the request. -/
def toJson (r : RenewalRequest) : Json :=
  .obj [("user_subscription_id", .int r.subscriptionId), ("quantity", .int r.quantity),
    ("coupon", Json.ofOption .str r.coupon), ("payment_id", .int r.paymentId)]

/-- Reads the JSON form of the request. -/
def ofJson? (value : Json) : Option RenewalRequest := do
  let fields ←
    Json.Fields.of? ["user_subscription_id", "quantity", "coupon", "payment_id"] value
  let subscriptionId ← fields.required "user_subscription_id" Json.id?
  let quantity ← fields.orElse "quantity" Json.amount? 0
  let coupon ← fields.orElse "coupon" (Json.nullable? Json.str?) none
  let paymentId ← fields.required "payment_id" Json.id?
  return { subscriptionId, quantity, coupon, paymentId }

end RenewalRequest

/-- Asks to pay money into the account. -/
structure RechargeRequest where
  amount : Amount
  paymentId : PaymentId
  deriving DecidableEq

namespace RechargeRequest

/-- The JSON form of the request. -/
def toJson (r : RechargeRequest) : Json :=
  .obj [("amount", .int r.amount), ("payment_id", .int r.paymentId)]

/-- Reads the JSON form of the request. -/
def ofJson? (value : Json) : Option RechargeRequest := do
  let fields ← Json.Fields.of? ["amount", "payment_id"] value
  let amount ← fields.required "amount" Json.amount?
  let paymentId ← fields.required "payment_id" Json.id?
  return { amount, paymentId }

end RechargeRequest

/-- What a user asks for. -/
inductive Request
  | purchase (request : PurchaseRequest)
  | renewal (request : RenewalRequest)
  | recharge (request : RechargeRequest)
  deriving DecidableEq

end OrderDesk
