import OrderDesk.Config
import OrderDesk.Coupon
import OrderDesk.Error
import OrderDesk.Plan.Basic

/-!
# Eligibility

The rules that a request has to meet before it is priced. Each rule is a check that
refuses with the error for it.
-/

namespace OrderDesk.Eligibility

/-- A check that lets everything pass that meets a condition. -/
def require (condition : Bool) (error : OrderError) : Except OrderError Unit :=
  if condition then .ok () else .error error

@[simp] theorem require_eq_ok_iff {condition : Bool} {error : OrderError} {u : Unit} :
    require condition error = .ok u ↔ condition = true := by
  cases condition <;> simp [require]

/-- Somebody is signed in. -/
def signedIn (session : Option UserId) : Except OrderError UserId :=
  match session with
  | some user => .ok user
  | none => .error .anonymous

/-- The quantity that is meant: one unless it is positive. It has a limit. -/
def quantity (config : Config) (wanted : Amount) : Except OrderError Amount :=
  if wanted ≤ 0 then .ok 1
  else if config.maxQuantity < wanted then .error (.quantityTooLarge config.maxQuantity)
  else .ok wanted

/-- The plan is for sale. -/
def sellable (plan : Plan) : Except OrderError Unit := require plan.sell (.planNotSellable plan.id)

/-- The plan is not sold out. -/
def inStock (plan : Plan) : Except OrderError Unit :=
  require (!plan.isSoldOut) (.planOutOfStock plan.id)

/-- The subscriptions to the plan that count as held. -/
def held (plan : Plan) (subscriptions : List Subscription) : Nat :=
  (subscriptions.filter fun s => s.planId == plan.id && s.isActive).length

/-- The user holds fewer subscriptions to the plan than the quota, if there is one. -/
def quota (plan : Plan) (subscriptions : List Subscription) : Except OrderError Unit :=
  require (plan.quota ≤ 0 || (held plan subscriptions : Int) < plan.quota)
    (.planQuotaExceeded plan.id plan.quota)

/-- Where users may hold one subscription only, the user holds none. -/
def single (config : Config) (user : UserId) (subscriptions : List Subscription) :
    Except OrderError Unit :=
  require (!(config.singleSubscription && subscriptions.any Subscription.isActive))
    (.userAlreadySubscribed user)

/-- The subscription is the user's. -/
def owner (user : UserId) (subscription : Subscription) : Except OrderError Unit :=
  require (subscription.userId == user) (.notOwner subscription.id)

/-- The amount is not below zero and not above the limit for orders. -/
def amount (config : Config) (amount : Amount) : Except OrderError Unit :=
  require (0 ≤ amount && amount ≤ config.maxOrderAmount) .amountOutOfRange

/-- The amount of a recharge is positive and not above its limit. -/
def recharge (config : Config) (amount : Amount) : Except OrderError Unit :=
  if amount ≤ 0 then .error .rechargeNotPositive
  else require (amount ≤ config.maxRechargeAmount) .rechargeTooLarge

/-- The coupon can still be redeemed. -/
def couponRemaining (coupon : Coupon) (code : String) : Except OrderError Unit :=
  require coupon.hasRemaining (.couponExhausted code)

/-- The coupon is for the plan. -/
def couponApplies (coupon : Coupon) (code : String) (plan : PlanId) : Except OrderError Unit :=
  require (coupon.appliesTo plan) (.couponNotApplicable code plan)

/-- The user may redeem the coupon once more. -/
def couponAllows (coupon : Coupon) (code : String) (redeemed : Amount) :
    Except OrderError Unit :=
  require (coupon.allows redeemed) (.couponUserLimitExceeded code coupon.userLimit)

end OrderDesk.Eligibility
