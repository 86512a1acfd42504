import OrderDesk.Expiry
import OrderDesk.Pricing.Price

/-!
# Submitting a request

A request is checked rule by rule, priced, stored as an order in one commit and put
down to be closed if it is not paid in time. The first rule that is broken refuses it.
-/

namespace OrderDesk.Submission

/-! ### Looking records up -/

/-- The account of a user. -/
def findUser (id : UserId) : Program User := do
  let reply ← Program.perform (.findUser id)
  match ← Program.read .user reply with
  | some user => return user
  | none => Program.refuse (.unknownUser id)

/-- A plan. -/
def findPlan (id : PlanId) : Program Plan := do
  let reply ← Program.perform (.findPlan id)
  let plan ← Program.read .plan reply
  Program.found .plan (.plan id) plan

/-- A payment method. -/
def findPayment (id : PaymentId) : Program PaymentMethod := do
  let reply ← Program.perform (.findPayment id)
  let payment ← Program.read .payment reply
  Program.found .payment (.payment id) payment

/-- A subscription. -/
def findSubscription (id : SubscriptionId) : Program Subscription := do
  let reply ← Program.perform (.findSubscription id)
  let subscription ← Program.read .subscription reply
  Program.found .subscription (.subscription id) subscription

/-- The subscriptions that a user holds. -/
def subscriptionsOf (user : UserId) : Program (List Subscription) := do
  let reply ← Program.perform (.subscriptions user)
  Program.read .heldSubscriptions reply

/-- The user has never paid an order. -/
def isNewCustomer (user : UserId) : Program Bool := do
  let reply ← Program.perform (.hasPaidOrders user)
  let paid ← Program.read .paidOrders reply
  return !paid

/-! ### Coupons -/

/-- The coupon with a code, if the user may redeem it for the plan. -/
def redeemableCoupon (user : UserId) (plan : PlanId) (code : String) : Program Coupon := do
  let reply ← Program.perform (.findCoupon code)
  match ← Program.read .coupon reply with
  | none => Program.refuse (.couponNotFound code)
  | some coupon =>
    Program.check (Eligibility.couponRemaining coupon code)
    Program.check (Eligibility.couponApplies coupon code plan)
    let reply ← Program.perform (.countByCoupon user code)
    let redeemed ← Program.read .redemptions reply
    Program.check (Eligibility.couponAllows coupon code redeemed)
    return coupon

/-- The code that is meant: none when it is blank. -/
def codeOf (wanted : Option String) : Option String :=
  match wanted.map Text.trim with
  | some code => if code.isEmpty then none else some code
  | none => none

/-- The coupon with the code, if there is a code. -/
def couponFor (user : UserId) (plan : PlanId) : Option String → Program (Option Coupon)
  | none => return none
  | some code => do
    let coupon ← redeemableCoupon user plan code
    return some coupon

/-! ### The three requests -/

/-- Number and time of the order to be made. -/
structure Stamp where
  orderNo : OrderNo
  now : Instant

/-- The order for a purchase. -/
def purchaseOrder (stamp : Stamp) (user : User) (plan : Plan) (quantity : Amount)
    (code : Option String) (payment : PaymentMethod) (price : Price) (isNew : Bool) : Order where
  orderNo := stamp.orderNo
  userId := user.id
  parentOrderNo := none
  kind := .purchase
  quantity := quantity
  price := price.quote.listPrice
  discount := price.quote.discount
  coupon := code
  couponDiscount := price.quote.couponDiscount
  giftAmount := price.quote.giftDeduction
  feeAmount := price.quote.fee
  amount := price.quote.amount
  paymentId := payment.id
  method := payment.platform
  status := .pending
  isNew := isNew
  planId := some plan.id
  subscribeToken := none
  createdAt := stamp.now

/-- Buys units of a plan, of which one is taken. -/
def purchase (config : Config) (stamp : Stamp) (session : Option UserId)
    (request : PurchaseRequest) : Program Fulfillment := do
  let signedIn ← Program.check (Eligibility.signedIn session)
  let quantity ← Program.check (Eligibility.quantity config request.quantity)
  let user ← findUser signedIn
  let plan ← findPlan request.planId
  Program.check (Eligibility.sellable plan)
  Program.check (Eligibility.inStock plan)
  let subscriptions ← subscriptionsOf user.id
  Program.check (Eligibility.quota plan subscriptions)
  Program.check (Eligibility.single config user.id subscriptions)
  let code := codeOf request.coupon
  let coupon ← couponFor user.id plan.id code
  let payment ← findPayment request.paymentId
  let price ← Program.compute (Price.ofPlan config plan quantity coupon user.giftAmount payment)
  let isNew ← isNewCustomer user.id
  return {
    order := purchaseOrder stamp user plan quantity code payment price isNew
    gift := some (price.deduction, GiftEntry.purchaseRemark)
    plan := some plan }

/-- The order for a renewal. -/
def renewalOrder (stamp : Stamp) (user : User) (subscription : Subscription) (plan : Plan)
    (quantity : Amount) (code : Option String) (payment : PaymentMethod) (price : Price) :
    Order where
  orderNo := stamp.orderNo
  userId := user.id
  parentOrderNo := subscription.orderNo
  kind := .renewal
  quantity := quantity
  price := price.quote.listPrice
  discount := price.quote.discount
  coupon := code
  couponDiscount := price.quote.couponDiscount
  giftAmount := price.quote.giftDeduction
  feeAmount := price.quote.fee
  amount := price.quote.amount
  paymentId := payment.id
  method := payment.platform
  status := .pending
  isNew := false
  planId := some plan.id
  subscribeToken := some subscription.token
  createdAt := stamp.now

/-- Renews a subscription. No unit of the plan is taken. -/
def renewal (config : Config) (stamp : Stamp) (session : Option UserId)
    (request : RenewalRequest) : Program Fulfillment := do
  let signedIn ← Program.check (Eligibility.signedIn session)
  let quantity ← Program.check (Eligibility.quantity config request.quantity)
  let user ← findUser signedIn
  let subscription ← findSubscription request.subscriptionId
  Program.check (Eligibility.owner user.id subscription)
  let plan ← findPlan subscription.planId
  Program.check (Eligibility.sellable plan)
  let code := codeOf request.coupon
  let coupon ← couponFor user.id plan.id code
  let payment ← findPayment request.paymentId
  let price ← Program.compute (Price.ofPlan config plan quantity coupon user.giftAmount payment)
  return {
    order := renewalOrder stamp user subscription plan quantity code payment price
    gift := some (price.deduction, GiftEntry.renewalRemark)
    plan := none }

/-- The order for a recharge. -/
def rechargeOrder (stamp : Stamp) (user : UserId) (payment : PaymentMethod) (quote : Quote)
    (isNew : Bool) : Order where
  orderNo := stamp.orderNo
  userId := user
  parentOrderNo := none
  kind := .recharge
  quantity := 0
  price := quote.listPrice
  discount := 0
  coupon := none
  couponDiscount := 0
  giftAmount := 0
  feeAmount := quote.fee
  amount := quote.amount
  paymentId := payment.id
  method := payment.platform
  status := .pending
  isNew := isNew
  planId := none
  subscribeToken := none
  createdAt := stamp.now

/-- Pays money into the account of the user who is signed in. -/
def recharge (config : Config) (stamp : Stamp) (session : Option UserId)
    (request : RechargeRequest) : Program Fulfillment := do
  let user ← Program.check (Eligibility.signedIn session)
  Program.check (Eligibility.recharge config request.amount)
  let payment ← findPayment request.paymentId
  let quote ← Program.compute (Price.ofRecharge config request.amount payment)
  let isNew ← isNewCustomer user
  return { order := rechargeOrder stamp user payment quote isNew, gift := none, plan := none }

/-! ### Carrying a request out -/

/-- Checks and prices a request: the order for it, and what the order takes. -/
def prepare (config : Config) (stamp : Stamp) (session : Option UserId) :
    Request → Program Fulfillment
  | .purchase request => purchase config stamp session request
  | .renewal request => renewal config stamp session request
  | .recharge request => recharge config stamp session request

/-- Stores an order and puts it down to be closed. -/
def place (config : Config) (now : Instant) (f : Fulfillment) : Program OrderNo := do
  let order ← f.store now
  let _ ← Expiry.scheduleClose config order.orderNo
  return order.orderNo

end OrderDesk.Submission

namespace OrderDesk

/-- Carries out a request and tells the number of the order made. -/
def submit (config : Config) (stamp : Submission.Stamp) (session : Option UserId)
    (request : Request) : Program OrderNo := do
  let f ← Submission.prepare config stamp session request
  Submission.place config stamp.now f

end OrderDesk
