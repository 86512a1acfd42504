import OrderDesk.Amount
import OrderDesk.Json.Fields

/-!
# Coupons

A coupon lowers the price of an order. It can be redeemed a number of times in all and
a number of times by each user, perhaps only for some plans.
-/

namespace OrderDesk

/-- How a coupon lowers an amount. -/
inductive CouponRule
  /-- Some percent of the amount, and no more than the cap if there is one. -/
  | percentage (percent : Decimal) (cap : Option Amount)
  /-- A fixed reduction. -/
  | fixed (amount : Amount)
  deriving DecidableEq

namespace CouponRule

/-- The JSON form of a rule. -/
def toJson : CouponRule → Json
  | .percentage percent cap =>
    .obj [("type", .str "percentage"), ("percent", .str percent.text),
      ("max_discount", Json.ofOption .int cap)]
  | .fixed amount => .obj [("type", .str "fixed"), ("amount", .int amount)]

/-- Reads the JSON form of a rule. -/
def ofJson? (value : Json) : Option CouponRule := do
  let (name, fieldsWith) ← value.tagged? "type"
  if name = "percentage" then
    let fields ← fieldsWith ["percent", "max_discount"]
    let percent ← fields.required "percent" Json.decimal?
    let cap ← fields.orElse "max_discount" (Json.nullable? Json.amount?) none
    return .percentage percent cap
  else if name = "fixed" then
    let fields ← fieldsWith ["amount"]
    return .fixed (← fields.required "amount" Json.amount?)
  else none

end CouponRule

/-- A coupon. -/
structure Coupon where
  code : String
  rule : CouponRule
  /-- Redemptions there are in all; no limit when it is zero. -/
  count : Amount
  /-- Redemptions so far. -/
  usedCount : Amount
  /-- Redemptions there are for each user; none at all when it is zero. -/
  userLimit : Amount
  /-- Plans the coupon is for; every plan when the list is empty. -/
  plans : List PlanId
  deriving DecidableEq

namespace Coupon

/-- The coupon can still be redeemed. -/
def hasRemaining (coupon : Coupon) : Bool := coupon.count == 0 || coupon.usedCount < coupon.count

/-- The coupon is for the plan. -/
def appliesTo (coupon : Coupon) (plan : PlanId) : Bool :=
  coupon.plans.isEmpty || coupon.plans.contains plan

/-- A user who has redeemed the coupon so many times may redeem it again. -/
def allows (coupon : Coupon) (redeemed : Amount) : Bool := redeemed < coupon.userLimit

/-- The fields of a coupon, in order. -/
def keys : List String := ["code", "rule", "count", "used_count", "user_limit", "plans"]

/-- The JSON form of a coupon. -/
def toJson (coupon : Coupon) : Json :=
  .obj [("code", .str coupon.code), ("rule", coupon.rule.toJson), ("count", .int coupon.count),
    ("used_count", .int coupon.usedCount), ("user_limit", .int coupon.userLimit),
    ("plans", .arr (coupon.plans.map fun plan : Nat => .int plan))]

/-- Reads the JSON form of a coupon. -/
def ofJson? (value : Json) : Option Coupon := do
  let fields ← Json.Fields.of? keys value
  let code ← fields.required "code" Json.str?
  let rule ← fields.required "rule" CouponRule.ofJson?
  let count ← fields.orElse "count" Json.amount? 0
  let usedCount ← fields.orElse "used_count" Json.amount? 0
  let userLimit ← fields.orElse "user_limit" Json.amount? 0
  let plans ← fields.orElse "plans" (Json.list? Json.id?) []
  return { code, rule, count, usedCount, userLimit, plans }

end Coupon

end OrderDesk
