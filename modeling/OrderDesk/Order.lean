import OrderDesk.Account

/-!
# Orders

An order as it is stored: what was asked for, how its amount came about and where it
stands. All its fields but the status stay as they are.
-/

namespace OrderDesk

/-- What an order is for. -/
inductive OrderKind
  | purchase
  | renewal
  | recharge
  deriving DecidableEq

namespace OrderKind

/-- The number that stands for a kind. -/
def code : OrderKind → Nat
  | .purchase => 1
  | .renewal => 2
  | .recharge => 4

/-- The name of a kind. -/
def name : OrderKind → String
  | .purchase => "purchase"
  | .renewal => "renewal"
  | .recharge => "recharge"

/-- The kind with a name. -/
def ofName? (name : String) : Option OrderKind :=
  [purchase, renewal, recharge].find? (·.name == name)

/-- Reads the JSON form of a kind. -/
def ofJson? (value : Json) : Option OrderKind := value.name?.bind ofName?

end OrderKind

/-- Where an order stands. -/
inductive OrderStatus
  | pending
  | paid
  | cancelled
  deriving DecidableEq

namespace OrderStatus

/-- The name of a status in a record. -/
def name : OrderStatus → String
  | .pending => "pending"
  | .paid => "paid"
  | .cancelled => "cancelled"

/-- The name of a status in a message. -/
def title : OrderStatus → String
  | .pending => "Pending"
  | .paid => "Paid"
  | .cancelled => "Cancelled"

/-- Reads the JSON form of a status. -/
def ofJson? (value : Json) : Option OrderStatus :=
  value.name?.bind fun name => [pending, paid, cancelled].find? (·.name == name)

/-- An order may go from one status to the other: only a pending one moves. -/
def canMoveTo (status next : OrderStatus) : Bool := status == .pending && next != .pending

end OrderStatus

/-- An order. -/
structure Order where
  orderNo : OrderNo
  userId : UserId
  /-- The order that created the subscription being renewed. -/
  parentOrderNo : Option OrderNo
  kind : OrderKind
  quantity : Amount
  /-- The list price, before anything is taken off. -/
  price : Amount
  discount : Amount
  coupon : Option String
  couponDiscount : Amount
  giftAmount : Amount
  feeAmount : Amount
  /-- What is left to pay. -/
  amount : Amount
  paymentId : PaymentId
  method : String
  status : OrderStatus
  isNew : Bool
  planId : Option PlanId
  subscribeToken : Option String
  createdAt : Instant
  deriving DecidableEq

namespace Order

/-- The amount is the price less what was taken off and with the fee. -/
def reconciles (order : Order) : Except Overflow Bool := do
  let afterDiscount ← Amount.sub order.price order.discount
  let afterCoupon ← Amount.sub afterDiscount order.couponDiscount
  let afterGift ← Amount.sub afterCoupon order.giftAmount
  let total ← Amount.add afterGift order.feeAmount
  return total == order.amount

/-- The fields of an order, in order. -/
def keys : List String :=
  ["order_no", "user_id", "parent_order_no", "kind", "quantity", "price", "discount", "coupon",
    "coupon_discount", "gift_amount", "fee_amount", "amount", "payment_id", "method", "status",
    "is_new", "plan_id", "subscribe_token", "created_at"]

/-- The entries of the JSON form of an order. -/
def toEntries (order : Order) : List (String × Json) :=
  [("order_no", .str order.orderNo), ("user_id", .int order.userId),
    ("parent_order_no", Json.ofOption .str order.parentOrderNo), ("kind", .str order.kind.name),
    ("quantity", .int order.quantity), ("price", .int order.price),
    ("discount", .int order.discount), ("coupon", Json.ofOption .str order.coupon),
    ("coupon_discount", .int order.couponDiscount), ("gift_amount", .int order.giftAmount),
    ("fee_amount", .int order.feeAmount), ("amount", .int order.amount),
    ("payment_id", .int order.paymentId), ("method", .str order.method),
    ("status", .str order.status.name), ("is_new", .bool order.isNew),
    ("plan_id", Json.ofOption (fun id : Nat => .int id) order.planId),
    ("subscribe_token", Json.ofOption .str order.subscribeToken),
    ("created_at", order.createdAt.toJson)]

/-- The JSON form of an order. -/
def toJson (order : Order) : Json := .obj order.toEntries

/-- Reads the JSON form of an order. -/
def ofJson? (value : Json) : Option Order := do
  let fields ← Json.Fields.of? keys value
  let orderNo ← fields.required "order_no" Json.str?
  let userId ← fields.required "user_id" Json.id?
  let parentOrderNo ← fields.orElse "parent_order_no" (Json.nullable? Json.str?) none
  let kind ← fields.required "kind" OrderKind.ofJson?
  let quantity ← fields.required "quantity" Json.amount?
  let price ← fields.required "price" Json.amount?
  let discount ← fields.required "discount" Json.amount?
  let coupon ← fields.orElse "coupon" (Json.nullable? Json.str?) none
  let couponDiscount ← fields.required "coupon_discount" Json.amount?
  let giftAmount ← fields.required "gift_amount" Json.amount?
  let feeAmount ← fields.required "fee_amount" Json.amount?
  let amount ← fields.required "amount" Json.amount?
  let paymentId ← fields.required "payment_id" Json.id?
  let method ← fields.required "method" Json.str?
  let status ← fields.required "status" OrderStatus.ofJson?
  let isNew ← fields.required "is_new" Json.bool?
  let planId ← fields.orElse "plan_id" (Json.nullable? Json.id?) none
  let subscribeToken ← fields.orElse "subscribe_token" (Json.nullable? Json.str?) none
  let createdAt ← fields.required "created_at" Instant.ofJson?
  return { orderNo, userId, parentOrderNo, kind, quantity, price, discount, coupon, couponDiscount,
           giftAmount, feeAmount, amount, paymentId, method, status, isNew, planId, subscribeToken,
           createdAt }

end Order

namespace OrderNo

open OrderDesk.Text

/-- The part of an order number that tells when the order was made: year, month, day,
hour, minute and second. -/
def stampChars (t : Instant) : List Char :=
  let date := Date.ofDays (t.second / 86400)
  let ofDay := (t.second % 86400).toNat
  let second := ofDay % 60 + if 1000000000 ≤ t.nano then 1 else 0
  Instant.yearChars date.year ++ digitsPadded 2 date.month ++ digitsPadded 2 date.day ++
    digitsPadded 2 (ofDay / 3600) ++ digitsPadded 2 (ofDay / 60 % 60) ++ digitsPadded 2 second

/-- The number of an order: when it was made, and twelve hexadecimal digits drawn for it. -/
def generate (t : Instant) (drawn : String) : OrderNo := String.ofList (stampChars t) ++ drawn

end OrderNo

end OrderDesk
