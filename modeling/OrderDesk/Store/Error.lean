import OrderDesk.Order
import OrderDesk.Service
import OrderDesk.Text.Digits

/-!
# Errors of the store

Why the store does not do what it is asked for: a record is missing, a record is not as
it was expected, or the store does not answer.
-/

namespace OrderDesk

open OrderDesk.Text

/-- A record that is looked for. -/
inductive RecordName
  | user (id : UserId)
  | plan (id : PlanId)
  | coupon (code : String)
  | order (orderNo : OrderNo)
  | payment (id : PaymentId)
  | subscription (id : SubscriptionId)
  deriving DecidableEq

namespace RecordName

/-- The record in words. -/
def text : RecordName → String
  | .user id => "user " ++ natText id
  | .plan id => "subscribe plan " ++ natText id
  | .coupon code => "coupon " ++ code
  | .order orderNo => "order " ++ orderNo
  | .payment id => "payment method " ++ natText id
  | .subscription id => "user subscription " ++ natText id

end RecordName

/-- What the store may answer instead of doing its work. -/
inductive StoreError
  | notFound (record : RecordName)
  /-- The gift balance is not the one that was expected. -/
  | balanceMoved (user : UserId) (found expected : Amount)
  /-- The gift balance would be below zero. -/
  | balanceNegative (user : UserId) (balance : Amount)
  | outOfStock (plan : PlanId)
  | couponUsedUp (code : String)
  | orderExists (orderNo : OrderNo)
  /-- The order does not stand where it was expected, or cannot move there. -/
  | wrongStatus (orderNo : OrderNo) (found expected next : OrderStatus)
  /-- The store does not answer. -/
  | down (service : Service)
  deriving DecidableEq

namespace StoreError

/-- The error in words, after its kind. -/
def detail : StoreError → String
  | .notFound record => record.text
  | .balanceMoved user found expected =>
    "gift balance of user " ++ natText user ++ " is " ++ intText found ++ ", expected " ++
      intText expected
  | .balanceNegative user balance =>
    "gift balance of user " ++ natText user ++ " would become " ++ intText balance
  | .outOfStock plan => "subscribe plan " ++ natText plan ++ " is out of stock"
  | .couponUsedUp code => "coupon " ++ code ++ " is exhausted"
  | .orderExists orderNo => "order " ++ orderNo ++ " already exists"
  | .wrongStatus orderNo found expected next =>
    "order " ++ orderNo ++ " is " ++ found.title ++ ", cannot move from " ++ expected.title ++
      " to " ++ next.title
  | .down service => service.name ++ " is down"

/-- The error is a record that is missing, a conflict or a fault of the store. -/
def kind : StoreError → String
  | .notFound _ => "NotFound"
  | .down _ => "Internal"
  | _ => "Conflict"

/-- The error in words. -/
def message (e : StoreError) : String :=
  (match e with
    | .notFound _ => "record not found: "
    | .down _ => "internal store error: "
    | _ => "write conflict: ") ++ e.detail

end StoreError

end OrderDesk
