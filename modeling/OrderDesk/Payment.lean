import OrderDesk.Amount
import OrderDesk.Json.Fields

/-!
# Payment methods

A payment method collects what is due and may add a fee to it.
-/

namespace OrderDesk

/-- The fee for collecting an amount. -/
inductive FeeRule
  | none
  /-- Some percent of the amount. -/
  | percent (rate : Decimal)
  /-- The same fee for every amount. -/
  | fixed (amount : Amount)
  /-- Some percent of the amount, and a fixed fee. -/
  | percentPlusFixed (rate : Decimal) (amount : Amount)
  deriving DecidableEq

namespace FeeRule

/-- The JSON form of a rule. -/
def toJson : FeeRule → Json
  | .none => .obj [("mode", .str "none")]
  | .percent rate => .obj [("mode", .str "percent"), ("percent", .str rate.text)]
  | .fixed amount => .obj [("mode", .str "fixed"), ("amount", .int amount)]
  | .percentPlusFixed rate amount =>
    .obj [("mode", .str "percent_plus_fixed"), ("percent", .str rate.text),
      ("amount", .int amount)]

/-- Reads the JSON form of a rule. -/
def ofJson? (value : Json) : Option FeeRule := do
  let (name, fieldsWith) ← value.tagged? "mode"
  if name = "none" then
    let _ ← fieldsWith []
    return .none
  else if name = "percent" then
    let fields ← fieldsWith ["percent"]
    return .percent (← fields.required "percent" Json.decimal?)
  else if name = "fixed" then
    let fields ← fieldsWith ["amount"]
    return .fixed (← fields.required "amount" Json.amount?)
  else if name = "percent_plus_fixed" then
    let fields ← fieldsWith ["percent", "amount"]
    let rate ← fields.required "percent" Json.decimal?
    let amount ← fields.required "amount" Json.amount?
    return .percentPlusFixed rate amount
  else Option.none

end FeeRule

/-- A payment method. -/
structure PaymentMethod where
  id : PaymentId
  platform : String
  fee : FeeRule
  deriving DecidableEq

namespace PaymentMethod

/-- The fields of a payment method, in order. -/
def keys : List String := ["id", "platform", "fee"]

/-- The JSON form of a payment method. -/
def toJson (method : PaymentMethod) : Json :=
  .obj [("id", .int method.id), ("platform", .str method.platform), ("fee", method.fee.toJson)]

/-- Reads the JSON form of a payment method. -/
def ofJson? (value : Json) : Option PaymentMethod := do
  let fields ← Json.Fields.of? keys value
  let id ← fields.required "id" Json.id?
  let platform ← fields.required "platform" Json.str?
  let fee ← fields.orElse "fee" FeeRule.ofJson? .none
  return { id, platform, fee }

end PaymentMethod

end OrderDesk
