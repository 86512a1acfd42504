import OrderDesk.Order
import OrderDesk.Queue.Error
import OrderDesk.Store.Error

/-!
# Refusals

Why a request, a task or an input was refused (`OrderError`). Each refusal is a cause;
its wording, its kind and its code are functions of the cause. Work can also end by
stopping at an overflow (`Failure`).
-/

namespace OrderDesk

open OrderDesk.Text

/-- A reading that failed, named for what was looked for. -/
inductive Lookup
  | user
  | plan
  | heldSubscriptions
  | subscription
  | coupon
  | redemptions
  | payment
  | paidOrders
  | order
  deriving DecidableEq

namespace Lookup

/-- The reading in words. -/
def text : Lookup → String
  | .user => "find user"
  | .plan => "find subscribe plan"
  | .heldSubscriptions => "find user subscription"
  | .subscription => "find user subscribe"
  | .coupon => "find coupon"
  | .redemptions => "count coupon redemptions"
  | .payment => "find payment method"
  | .paidOrders => "find user order"
  | .order => "find order"

end Lookup

/-- Why a request, a task or an input was refused. -/
inductive OrderError
  /-- Nobody is signed in. -/
  | anonymous
  | unknownUser (user : UserId)
  | notOwner (subscription : SubscriptionId)
  | quantityTooLarge (limit : Amount)
  /-- An amount is below zero or above the limit for orders. -/
  | amountOutOfRange
  | rechargeNotPositive
  | rechargeTooLarge
  /-- The list price does not fit, or is below zero. -/
  | priceOutOfRange (quantity unitPrice : Amount)
  /-- A row of a request file leaves out a column that its kind needs. -/
  | missingColumn (kind : OrderKind) (column : String)
  /-- The work on a transaction was given up for a reason of its own. -/
  | givenUp (reason : String)
  | query (lookup : Lookup) (cause : StoreError)
  /-- Writing failed; `context` says what was being written. -/
  | insert (context : String) (cause : StoreError)
  | planNotSellable (plan : PlanId)
  | planOutOfStock (plan : PlanId)
  | planQuotaExceeded (plan : PlanId) (quota : Amount)
  | userAlreadySubscribed (user : UserId)
  | couponNotFound (code : String)
  | couponExhausted (code : String)
  | couponNotApplicable (code : String) (plan : PlanId)
  | couponUserLimitExceeded (code : String) (limit : Amount)
  | orderNotFound (orderNo : OrderNo)
  | invalidTaskPayload
  | queue (cause : QueueError)
  /-- A row of a request file cannot be read. -/
  | malformedRow
  /-- The text is no catalog. -/
  | invalidCatalog
  | duplicatePlan (plan : PlanId)
  | duplicateCoupon (code : String)
  | orphanSubscription (subscription : SubscriptionId) (user : UserId)
  deriving DecidableEq

/-- A coarse classification of refusals. -/
inductive ErrorKind
  | invalidAccess
  | invalidParams
  | databaseQueryError
  | databaseInsertError
  | planNotSellable
  | planOutOfStock
  | planQuotaExceeded
  | userAlreadySubscribed
  | couponNotFound
  | couponExhausted
  | couponNotApplicable
  | couponUserLimitExceeded
  | orderNotFound
  | invalidTaskPayload
  | queueError
  | input
  deriving DecidableEq

namespace ErrorKind

/-- The name of a kind. -/
def name : ErrorKind → String
  | .invalidAccess => "InvalidAccess"
  | .invalidParams => "InvalidParams"
  | .databaseQueryError => "DatabaseQueryError"
  | .databaseInsertError => "DatabaseInsertError"
  | .planNotSellable => "PlanNotSellable"
  | .planOutOfStock => "PlanOutOfStock"
  | .planQuotaExceeded => "PlanQuotaExceeded"
  | .userAlreadySubscribed => "UserAlreadySubscribed"
  | .couponNotFound => "CouponNotFound"
  | .couponExhausted => "CouponExhausted"
  | .couponNotApplicable => "CouponNotApplicable"
  | .couponUserLimitExceeded => "CouponUserLimitExceeded"
  | .orderNotFound => "OrderNotFound"
  | .invalidTaskPayload => "InvalidTaskPayload"
  | .queueError => "QueueError"
  | .input => "Input"

end ErrorKind

namespace OrderError

/-- The error in words. -/
def message : OrderError → String
  | .anonymous => "invalid access: current user is not found"
  | .unknownUser user => "invalid access: user " ++ natText user ++ " does not exist"
  | .notOwner id =>
    "invalid access: user subscription " ++ natText id ++ " does not belong to the current user"
  | .quantityTooLarge limit =>
    "invalid params: quantity exceeds maximum limit of " ++ intText limit
  | .amountOutOfRange => "invalid params: order amount exceeds maximum limit"
  | .rechargeNotPositive => "invalid params: recharge amount must be greater than 0"
  | .rechargeTooLarge => "invalid params: recharge amount exceeds maximum limit"
  | .priceOutOfRange quantity unitPrice =>
    "invalid params: price of " ++ intText quantity ++ " units at " ++ intText unitPrice ++
      " is out of range"
  | .missingColumn kind column =>
    "invalid params: " ++ kind.name ++ " request is missing \x60" ++ column ++ "\x60"
  | .givenUp reason => "invalid params: " ++ reason
  | .query lookup cause => "database query error: " ++ lookup.text ++ ": " ++ cause.message
  | .insert context cause => "database insert error: " ++ context ++ ": " ++ cause.message
  | .planNotSellable plan => "subscribe plan " ++ natText plan ++ " is not for sale"
  | .planOutOfStock plan => "subscribe plan " ++ natText plan ++ " is out of stock"
  | .planQuotaExceeded plan quota =>
    "subscribe plan " ++ natText plan ++ " quota of " ++ intText quota ++ " reached"
  | .userAlreadySubscribed user => "user " ++ natText user ++ " already holds a subscription"
  | .couponNotFound code => "coupon " ++ code ++ " not found"
  | .couponExhausted code => "coupon " ++ code ++ " has no remaining uses"
  | .couponNotApplicable code plan =>
    "coupon " ++ code ++ " does not apply to plan " ++ natText plan
  | .couponUserLimitExceeded code limit =>
    "coupon " ++ code ++ " per-user limit of " ++ intText limit ++ " reached"
  | .orderNotFound orderNo => "order " ++ orderNo ++ " not found"
  | .invalidTaskPayload => "invalid task payload"
  | .queue cause => "task queue error: " ++ cause.message
  | .malformedRow => "CSV error"
  | .invalidCatalog => "catalog error: invalid catalog"
  | .duplicatePlan plan => "catalog error: duplicate plan id " ++ natText plan
  | .duplicateCoupon code => "catalog error: duplicate coupon " ++ code
  | .orphanSubscription id user =>
    "catalog error: subscription " ++ natText id ++ " belongs to unknown user " ++ natText user

/-- The kind of the error. -/
def kind : OrderError → ErrorKind
  | .anonymous | .unknownUser _ | .notOwner _ => .invalidAccess
  | .quantityTooLarge _ | .amountOutOfRange | .rechargeNotPositive | .rechargeTooLarge
  | .priceOutOfRange _ _ | .missingColumn _ _ | .givenUp _ => .invalidParams
  | .query _ _ => .databaseQueryError
  | .insert _ _ => .databaseInsertError
  | .planNotSellable _ => .planNotSellable
  | .planOutOfStock _ => .planOutOfStock
  | .planQuotaExceeded _ _ => .planQuotaExceeded
  | .userAlreadySubscribed _ => .userAlreadySubscribed
  | .couponNotFound _ => .couponNotFound
  | .couponExhausted _ => .couponExhausted
  | .couponNotApplicable _ _ => .couponNotApplicable
  | .couponUserLimitExceeded _ _ => .couponUserLimitExceeded
  | .orderNotFound _ => .orderNotFound
  | .invalidTaskPayload => .invalidTaskPayload
  | .queue _ => .queueError
  | .malformedRow | .invalidCatalog | .duplicatePlan _ | .duplicateCoupon _
  | .orphanSubscription _ _ => .input

/-- The code under which the error is listed. -/
def code : OrderError → String
  | .malformedRow => "order::csv"
  | .invalidCatalog | .duplicatePlan _ | .duplicateCoupon _ | .orphanSubscription _ _ =>
    "order::catalog"
  | e =>
    match e.kind with
    | .invalidAccess => "order::invalid_access"
    | .invalidParams => "order::invalid_params"
    | .databaseQueryError => "order::database_query"
    | .databaseInsertError => "order::database_insert"
    | .planNotSellable => "order::plan_not_sellable"
    | .planOutOfStock => "order::plan_out_of_stock"
    | .planQuotaExceeded => "order::plan_quota_exceeded"
    | .userAlreadySubscribed => "order::user_already_subscribed"
    | .couponNotFound => "order::coupon_not_found"
    | .couponExhausted => "order::coupon_exhausted"
    | .couponNotApplicable => "order::coupon_not_applicable"
    | .couponUserLimitExceeded => "order::coupon_user_limit"
    | .orderNotFound => "order::not_found"
    | .invalidTaskPayload => "order::invalid_task_payload"
    | .queueError => "order::queue"
    | .input => "order::io"

/-- What to do about the error, where there is something to say. -/
def help : OrderError → Option String
  | .userAlreadySubscribed _ =>
    some "single subscription mode is enabled; renew the existing subscription instead"
  | _ => none

end OrderError

/-- Work ends early: it is refused, or it stops at an overflow. -/
inductive Failure
  | refused (error : OrderError)
  | stopped (overflow : Overflow)
  deriving DecidableEq

namespace Failure

/-- Work that can only overflow, as work that can fail. -/
def ofOverflow {α : Type} : Except Overflow α → Except Failure α := Except.mapError .stopped

/-- Work that can only be refused, as work that can fail. -/
def ofRefusal {α : Type} : Except OrderError α → Except Failure α := Except.mapError .refused

end Failure

end OrderDesk
