import OrderDesk.Program

/-!
# Catalogs

A catalog lists what the store holds before the first request: plans, coupons, payment
methods, users and their subscriptions. No plan and no coupon may be listed twice, and
every subscription belongs to a user of the catalog.
-/

namespace OrderDesk

/-- What the store holds at the start. -/
structure Catalog where
  plans : List Plan
  coupons : List Coupon
  paymentMethods : List PaymentMethod
  users : List User
  subscriptions : List Subscription
  deriving DecidableEq

namespace Catalog

/-- Reads the JSON form of a catalog; every list may be missing. -/
def ofJson? (value : Json) : Option Catalog := do
  let fields ←
    Json.Fields.of? ["plans", "coupons", "payment_methods", "users", "subscriptions"] value
  let plans ← fields.orElse "plans" (Json.list? Plan.ofJson?) []
  let coupons ← fields.orElse "coupons" (Json.list? Coupon.ofJson?) []
  let paymentMethods ← fields.orElse "payment_methods" (Json.list? PaymentMethod.ofJson?) []
  let users ← fields.orElse "users" (Json.list? User.ofJson?) []
  let subscriptions ← fields.orElse "subscriptions" (Json.list? Subscription.ofJson?) []
  return { plans, coupons, paymentMethods, users, subscriptions }

/-- The first record whose key an earlier one has. -/
def repeated? {α κ : Type} [DecidableEq κ] (key : α → κ) (seen : List κ) : List α → Option α
  | [] => none
  | record :: rest =>
    if key record ∈ seen then some record else repeated? key (key record :: seen) rest

/-- Why the catalog is refused, if it is. -/
def fault? (catalog : Catalog) : Option OrderError :=
  let users := catalog.users.map User.id
  ((repeated? Plan.id [] catalog.plans).map fun plan => OrderError.duplicatePlan plan.id).or
    (((repeated? Coupon.code [] catalog.coupons).map fun coupon =>
      OrderError.duplicateCoupon coupon.code).or
    ((catalog.subscriptions.find? fun s => s.userId ∉ users).map fun s =>
      OrderError.orphanSubscription s.id s.userId))

/-- The catalog that a text writes. -/
def ofText (s : String) : Except OrderError Catalog :=
  match (Json.ofText? s).bind ofJson? with
  | none => .error .invalidCatalog
  | some catalog =>
    match catalog.fault? with
    | some error => .error error
    | none => .ok catalog

/-- Stores records one after the other. -/
def storeEach {α : Type} (context : String) (call : α → Program (Except StoreError Unit)) :
    List α → Program Unit
  | [] => return ()
  | record :: rest => do
    let reply ← call record
    Program.written context reply
    storeEach context call rest

/-- Puts all records of the catalog into the store. -/
def seed (catalog : Catalog) : Program Unit := do
  storeEach "seed plan" (fun plan => Program.perform (.storePlan plan)) catalog.plans
  storeEach "seed coupon" (fun coupon => Program.perform (.storeCoupon coupon)) catalog.coupons
  storeEach "seed payment method" (fun method => Program.perform (.storePayment method))
    catalog.paymentMethods
  storeEach "seed user" (fun user => Program.perform (.storeUser user)) catalog.users
  storeEach "seed user subscription" (fun s => Program.perform (.storeSubscription s))
    catalog.subscriptions

end Catalog

end OrderDesk
