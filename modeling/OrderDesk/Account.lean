import OrderDesk.Amount
import OrderDesk.Json.Fields
import OrderDesk.Time.Instant

/-!
# Accounts

What the desk knows of a user: the gift balance that can pay for orders, the
subscriptions held and the ledger of every change of the balance.
-/

namespace OrderDesk

/-- Reads the JSON form of an instant: its text. -/
def Instant.ofJson? (value : Json) : Option Instant := value.str?.bind Instant.ofText?

/-- The JSON form of an instant. -/
def Instant.toJson (t : Instant) : Json := .str t.text

/-- A user account. -/
structure User where
  id : UserId
  /-- The gift balance. -/
  giftAmount : Amount
  deriving DecidableEq

namespace User

/-- The JSON form of a user. -/
def toJson (user : User) : Json :=
  .obj [("id", .int user.id), ("gift_amount", .int user.giftAmount)]

/-- Reads the JSON form of a user. -/
def ofJson? (value : Json) : Option User := do
  let fields ← Json.Fields.of? ["id", "gift_amount"] value
  let id ← fields.required "id" Json.id?
  let giftAmount ← fields.orElse "gift_amount" Json.amount? 0
  return { id, giftAmount }

end User

/-- Where a subscription stands. -/
inductive SubscriptionStatus
  | pending
  | active
  | finished
  | expired
  | deducted
  deriving DecidableEq

namespace SubscriptionStatus

/-- The name of a status. -/
def name : SubscriptionStatus → String
  | .pending => "pending"
  | .active => "active"
  | .finished => "finished"
  | .expired => "expired"
  | .deducted => "deducted"

/-- Reads the JSON form of a status. -/
def ofJson? (value : Json) : Option SubscriptionStatus :=
  value.name?.bind fun name => [pending, active, finished, expired, deducted].find? (·.name == name)

end SubscriptionStatus

/-- A subscription that a user holds. -/
structure Subscription where
  id : SubscriptionId
  userId : UserId
  planId : PlanId
  /-- The order that created the subscription, if it is known. -/
  orderNo : Option OrderNo
  token : String
  status : SubscriptionStatus
  /-- When the subscription ends, if it does. -/
  expireAt : Option Instant
  deriving DecidableEq

namespace Subscription

/-- The subscription counts as one that the user holds. -/
def isActive (s : Subscription) : Bool := s.status == .pending || s.status == .active

/-- The subscription has ended before the instant. -/
def isExpired (s : Subscription) (now : Instant) : Bool :=
  match s.expireAt with
  | none => false
  | some last => last.isBefore now

/-- The fields of a subscription, in order. -/
def keys : List String :=
  ["id", "user_id", "plan_id", "order_no", "token", "status", "expire_at"]

/-- The JSON form of a subscription. -/
def toJson (s : Subscription) : Json :=
  .obj [("id", .int s.id), ("user_id", .int s.userId), ("plan_id", .int s.planId),
    ("order_no", Json.ofOption .str s.orderNo), ("token", .str s.token),
    ("status", .str s.status.name), ("expire_at", Json.ofOption Instant.toJson s.expireAt)]

/-- Reads the JSON form of a subscription. -/
def ofJson? (value : Json) : Option Subscription := do
  let fields ← Json.Fields.of? keys value
  let id ← fields.required "id" Json.id?
  let userId ← fields.required "user_id" Json.id?
  let planId ← fields.required "plan_id" Json.id?
  let orderNo ← fields.orElse "order_no" (Json.nullable? Json.str?) none
  let token ← fields.required "token" Json.str?
  let status ← fields.required "status" SubscriptionStatus.ofJson?
  let expireAt ← fields.orElse "expire_at" (Json.nullable? Instant.ofJson?) none
  return { id, userId, planId, orderNo, token, status, expireAt }

end Subscription

/-- Whether a gift balance went up or down. -/
inductive GiftChange
  | increase
  | decrease
  deriving DecidableEq

namespace GiftChange

/-- The name of a change. -/
def name : GiftChange → String
  | .increase => "increase"
  | .decrease => "decrease"

/-- Reads the JSON form of a change. -/
def ofJson? (value : Json) : Option GiftChange :=
  value.name?.bind fun name => [increase, decrease].find? (·.name == name)

end GiftChange

/-- An entry of the gift ledger. -/
structure GiftEntry where
  userId : UserId
  change : GiftChange
  /-- The order the change was made for. -/
  orderNo : OrderNo
  /-- By how much the balance changed. -/
  amount : Amount
  /-- The balance after the change. -/
  balance : Amount
  remark : String
  timestamp : Instant
  deriving DecidableEq

namespace GiftEntry

/-- The fields of an entry, in order. -/
def keys : List String :=
  ["user_id", "type", "order_no", "amount", "balance", "remark", "timestamp"]

/-- The JSON form of an entry. -/
def toJson (entry : GiftEntry) : Json :=
  .obj [("user_id", .int entry.userId), ("type", .str entry.change.name),
    ("order_no", .str entry.orderNo), ("amount", .int entry.amount),
    ("balance", .int entry.balance), ("remark", .str entry.remark),
    ("timestamp", entry.timestamp.toJson)]

/-- Reads the JSON form of an entry. -/
def ofJson? (value : Json) : Option GiftEntry := do
  let fields ← Json.Fields.of? keys value
  let userId ← fields.required "user_id" Json.id?
  let change ← fields.required "type" GiftChange.ofJson?
  let orderNo ← fields.required "order_no" Json.str?
  let amount ← fields.required "amount" Json.amount?
  let balance ← fields.required "balance" Json.amount?
  let remark ← fields.required "remark" Json.str?
  let timestamp ← fields.required "timestamp" Instant.ofJson?
  return { userId, change, orderNo, amount, balance, remark, timestamp }

end GiftEntry

end OrderDesk
