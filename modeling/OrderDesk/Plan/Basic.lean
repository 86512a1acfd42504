import OrderDesk.Plan.DiscountTable

/-!
# Plans

A subscription plan that can be bought: its price for one unit, its quantity discounts
and how many units are left.
-/

namespace OrderDesk

/-- A subscription plan. -/
structure Plan where
  id : PlanId
  name : String
  /-- Price of one unit. -/
  unitPrice : Amount
  discount : DiscountTable
  /-- Units left; a negative number means that there is no end to them. -/
  inventory : Amount
  /-- Subscriptions to the plan that a user may hold at once; no limit unless positive. -/
  quota : Amount
  /-- The plan is for sale. -/
  sell : Bool
  deriving DecidableEq

namespace Plan

/-- The units left are counted. -/
def isFinite (plan : Plan) : Bool := 0 ≤ plan.inventory

/-- No unit is left. -/
def isSoldOut (plan : Plan) : Bool := plan.inventory == 0

/-- The fields of a plan, in order. -/
def keys : List String :=
  ["id", "name", "unit_price", "discount", "inventory", "quota", "sell"]

/-- The JSON form of a plan. -/
def toJson (plan : Plan) : Json :=
  .obj [("id", .int plan.id), ("name", .str plan.name), ("unit_price", .int plan.unitPrice),
    ("discount", plan.discount.toJson), ("inventory", .int plan.inventory),
    ("quota", .int plan.quota), ("sell", .bool plan.sell)]

/-- Reads the JSON form of a plan. -/
def ofJson? (value : Json) : Option Plan := do
  let fields ← Json.Fields.of? keys value
  let id ← fields.required "id" Json.id?
  let name ← fields.orElse "name" Json.str? ""
  let unitPrice ← fields.required "unit_price" Json.amount?
  let discount ← fields.orElse "discount" DiscountTable.ofJson? DiscountTable.empty
  let inventory ← fields.required "inventory" Json.amount?
  let quota ← fields.orElse "quota" Json.amount? 0
  let sell ← fields.required "sell" Json.bool?
  return { id, name, unitPrice, discount, inventory, quota, sell }

end Plan

end OrderDesk
