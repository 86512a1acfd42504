import OrderDesk.Config
import OrderDesk.Fulfillment

/-!
# Expiry

An order that has not been paid is closed after a while. A task for that is put into
the queue when the order is made; a worker carries out the tasks that are due.

Closing gives back what the order took. It can be asked for again: an order that is
closed stays closed, and one that is paid is left alone.
-/

namespace OrderDesk.Expiry

/-- Puts the task that closes an order into the queue. The order stands even when the
queue does not take the task. -/
def scheduleClose (config : Config) (orderNo : OrderNo) : Program (Option Task) := do
  let task := Task.closeOrder orderNo
  match ← Program.perform (.enqueue task config.closeAfter) with
  | .ok () => return some task
  | .error _ => return none

/-- How closing an order ended. -/
inductive CloseOutcome
  | cancelled
  | alreadyClosed
  | alreadyPaid
  deriving DecidableEq

/-- The gift balance of a user before and after an order has given back what it took. -/
structure Refund where
  before : Amount
  after : Amount

/-- What an order gives back to the gift balance, if it took anything. -/
def refund? (order : Order) : Program (Option Refund) :=
  if 0 < order.giftAmount then do
    let reply ← Program.perform (.findUser order.userId)
    let user ← Program.read .user reply
    let user ← Program.found .user (.user order.userId) user
    let after ← Program.compute (Failure.ofOverflow (Amount.add user.giftAmount order.giftAmount))
    return some ⟨user.giftAmount, after⟩
  else return none

/-- The writes for what is given back to the gift balance. -/
def refundWrites (order : Order) (orderNo : OrderNo) (now : Instant) : Option Refund → List Write
  | none => []
  | some refund =>
    [.setGiftBalance order.userId refund.before refund.after,
      .appendEntry (GiftEntry.credit order.userId orderNo order.giftAmount refund.after now)]

/-- The write for the coupon. -/
def couponWrites (order : Order) : List Write :=
  match order.coupon with
  | none => []
  | some code => [.release code]

/-- The write for the unit of the plan, which only a purchase took. -/
def unitWrites (order : Order) : List Write :=
  match order.kind, order.planId with
  | .purchase, some plan => [.returnUnit plan]
  | _, _ => []

/-- The writes that close an order. -/
def closeWrites (order : Order) (orderNo : OrderNo) (now : Instant) (refund : Option Refund) :
    List Write :=
  .move orderNo .pending .cancelled :: refundWrites order orderNo now refund ++
    couponWrites order ++ unitWrites order

/-- Closes an order that is pending. -/
def closePending (order : Order) (orderNo : OrderNo) (now : Instant) : Program CloseOutcome := do
  let refund ← refund? order
  Program.transaction "close order" (.ok (closeWrites order orderNo now refund))
  return .cancelled

/-- Closes an order. -/
def close (orderNo : OrderNo) (now : Instant) : Program CloseOutcome := do
  let reply ← Program.perform (.getOrder orderNo)
  match ← Program.read .order reply with
  | none => Program.refuse (.orderNotFound orderNo)
  | some order =>
    match order.status with
    | .cancelled => return .alreadyClosed
    | .paid => return .alreadyPaid
    | .pending => closePending order orderNo now

/-- Closes the order that a task names. -/
def handle (task : Task) (now : Instant) : Program CloseOutcome :=
  match ClosePayload.ofText? task.payload with
  | none => Program.refuse .invalidTaskPayload
  | some payload => close payload.orderNo now

/-- Tries a task until it is done, some times at most, and tells whether it was. -/
def handleWithin (task : Task) (now : Instant) : Nat → Program Bool
  | 0 => return false
  | attempts + 1 => do
    match ← (handle task now).attempt with
    | .ok _ => return true
    | .error _ => handleWithin task now attempts

/-- Carries out a task, if it is of the kind that closes orders. -/
def runTask (task : Task) (now : Instant) : Program Bool :=
  if task.kind = Task.closeKind then handleWithin task now (max task.maxRetry 1)
  else return false

/-- What a worker has done. -/
structure WorkerReport where
  processed : Nat
  failed : Nat
  deriving DecidableEq

namespace WorkerReport

/-- The report with one task more. -/
def count (report : WorkerReport) (done : Bool) : WorkerReport :=
  if done then { report with processed := report.processed + 1 }
  else { report with failed := report.failed + 1 }

end WorkerReport

/-- Carries out some tasks, one after the other. -/
def runTasks (now : Instant) (report : WorkerReport) : List QueuedTask → Program WorkerReport
  | [] => return report
  | entry :: rest => do
    let done ← runTask entry.task now
    runTasks now (report.count done) rest

/-- Carries out the tasks that are due at an instant. -/
def runDue (deadline now : Instant) : Program WorkerReport := do
  match ← Program.perform (.takeDue deadline) with
  | .ok entries => runTasks now ⟨0, 0⟩ entries
  | .error cause => Program.refuse (.queue cause)

end OrderDesk.Expiry
