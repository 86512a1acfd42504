import OrderDesk.Error
import OrderDesk.Queue
import OrderDesk.Request
import OrderDesk.Store.Basic
import OrderDesk.Store.Write

/-!
# Programs

What the desk does is a program: a tree of calls to the store and the queue, each with
a way to go on for every reply. A program does not say who replies, nor what happens
between two of its calls; that is up to whoever runs it.
-/

namespace OrderDesk

/-- A call to the store or to the queue. -/
inductive Call
  | findPlan (id : PlanId)
  | storePlan (plan : Plan)
  | findPayment (id : PaymentId)
  | storePayment (method : PaymentMethod)
  | findCoupon (code : String)
  | storeCoupon (coupon : Coupon)
  | findUser (id : UserId)
  | storeUser (user : User)
  /-- The subscriptions of a user. -/
  | subscriptions (user : UserId)
  | findSubscription (id : SubscriptionId)
  | storeSubscription (subscription : Subscription)
  | getOrder (orderNo : OrderNo)
  /-- How many orders of a user carry a coupon. -/
  | countByCoupon (user : UserId) (code : String)
  /-- Whether a user has an order that is paid. -/
  | hasPaidOrders (user : UserId)
  | allOrders
  | commit (writes : List Write)
  /-- Puts a task off by some seconds. -/
  | enqueue (task : Task) (delay : Nat)
  /-- Takes the tasks that are due at an instant out of the queue. -/
  | takeDue (now : Instant)

namespace Call

/-- The service that a call goes through. -/
def service : Call → Service
  | .findPlan _ => .findPlan
  | .storePlan _ => .storePlan
  | .findPayment _ => .findPayment
  | .storePayment _ => .storePayment
  | .findCoupon _ => .findCoupon
  | .storeCoupon _ => .storeCoupon
  | .findUser _ => .findUser
  | .storeUser _ => .storeUser
  | .subscriptions _ => .subscriptions
  | .findSubscription _ => .findSubscription
  | .storeSubscription _ => .storeSubscription
  | .getOrder _ => .getOrder
  | .countByCoupon _ _ => .countByCoupon
  | .hasPaidOrders _ => .hasPaidOrders
  | .allOrders => .allOrders
  | .commit _ => .commit
  | .enqueue _ _ => .enqueue
  | .takeDue _ => .takeDue

/-- What a call that goes well brings back. -/
abbrev Value : Call → Type
  | .findPlan _ => Option Plan
  | .findPayment _ => Option PaymentMethod
  | .findCoupon _ => Option Coupon
  | .findUser _ => Option User
  | .subscriptions _ => List Subscription
  | .findSubscription _ => Option Subscription
  | .getOrder _ => Option Order
  | .countByCoupon _ _ => Amount
  | .hasPaidOrders _ => Bool
  | .allOrders => List Order
  | .takeDue _ => List QueuedTask
  | .storePlan _ | .storePayment _ | .storeCoupon _ | .storeUser _ | .storeSubscription _
  | .commit _ | .enqueue _ _ => Unit

/-- What a call that goes wrong brings back. -/
abbrev Fault : Call → Type
  | .enqueue _ _ | .takeDue _ => QueueError
  | _ => StoreError

/-- What a call brings back. -/
abbrev Reply (c : Call) : Type := Except c.Fault c.Value

end Call

/-- A tree of calls that ends with a value or with a failure. -/
inductive Program (α : Type) : Type
  | done (value : α)
  | fail (failure : Failure)
  | call (c : Call) (next : c.Reply → Program α)

namespace Program

variable {α β : Type}

/-- Goes on with the value of a program. -/
def andThen : Program α → (α → Program β) → Program β
  | .done value, next => next value
  | .fail failure, _ => .fail failure
  | .call c reply, next => .call c fun r => (reply r).andThen next

instance : Monad Program where
  pure := .done
  bind := andThen

@[simp] theorem bind_eq_andThen (program : Program α) (next : α → Program β) :
    (program >>= next) = program.andThen next := rfl

@[simp] theorem pure_eq_done (value : α) : (pure value : Program α) = .done value := rfl

theorem andThen_done (program : Program α) : program.andThen .done = program := by
  induction program with
  | done => rfl
  | fail => rfl
  | call c next ih => simp only [andThen]; exact congrArg _ (funext ih)

theorem andThen_assoc {γ : Type} (program : Program α) (f : α → Program β) (g : β → Program γ) :
    (program.andThen f).andThen g = program.andThen fun a => (f a).andThen g := by
  induction program with
  | done => rfl
  | fail => rfl
  | call c next ih => simp only [andThen]; exact congrArg _ (funext ih)

/-- A program that is a single call. -/
def perform (c : Call) : Program c.Reply := .call c .done

/-- Refuses the work. -/
def refuse (error : OrderError) : Program α := .fail (.refused error)

/-- Goes on unless a check refuses. -/
def check : Except OrderError α → Program α
  | .ok value => .done value
  | .error error => .fail (.refused error)

/-- Goes on unless a computation fails. -/
def compute : Except Failure α → Program α
  | .ok value => .done value
  | .error failure => .fail failure

/-- Goes on with what a reading brought back. -/
def read (lookup : Lookup) : Except StoreError α → Program α
  | .ok value => .done value
  | .error cause => .fail (.refused (.query lookup cause))

/-- Goes on with a record that has to be there. -/
def found (lookup : Lookup) (record : RecordName) : Option α → Program α
  | some value => .done value
  | none => .fail (.refused (.query lookup (.notFound record)))

/-- Goes on after something was written. -/
def written (context : String) : Except StoreError α → Program α
  | .ok value => .done value
  | .error cause => .fail (.refused (.insert context cause))

/-- The program with its refusal, if it ends with one, as a value. -/
def attempt : Program α → Program (Except OrderError α)
  | .done value => .done (.ok value)
  | .fail (.refused error) => .done (.error error)
  | .fail (.stopped overflow) => .fail (.stopped overflow)
  | .call c next => .call c fun reply => (next reply).attempt

end Program

end OrderDesk
