import OrderDesk.Program
import OrderDesk.Store.Commit

/-!
# Running a program

A world is a store, a queue and a clock that stands still, with what may go wrong: services
that do not answer for some calls, and writes of others that get in before the next
commit. A program runs in a world call by call and leaves a world behind; one that
fails leaves the world as its last call left it.
-/

namespace OrderDesk

/-- A service that does not answer. -/
structure Outage where
  service : Service
  /-- For how many more calls; for all of them when there is no number. -/
  left : Option Nat
  deriving DecidableEq

namespace Outage

/-- The outage is not over. -/
def isOn (outage : Outage) : Bool := outage.left != some 0

/-- The outage after one call more. -/
def used (outage : Outage) : Outage := { outage with left := outage.left.map (· - 1) }

end Outage

/-- Where a program runs. -/
structure World where
  store : Store
  queue : Queue
  now : Instant
  /-- One outage at most for each service. -/
  outages : List Outage
  /-- The writes of others, commit by commit, that get in before the next commit. -/
  races : List (List Write)
  deriving DecidableEq

/-- What a service that does not answer brings back. -/
def Call.down : (c : Call) → c.Fault
  | .findPlan _ => .down .findPlan
  | .storePlan _ => .down .storePlan
  | .findPayment _ => .down .findPayment
  | .storePayment _ => .down .storePayment
  | .findCoupon _ => .down .findCoupon
  | .storeCoupon _ => .down .storeCoupon
  | .findUser _ => .down .findUser
  | .storeUser _ => .down .storeUser
  | .subscriptions _ => .down .subscriptions
  | .findSubscription _ => .down .findSubscription
  | .storeSubscription _ => .down .storeSubscription
  | .getOrder _ => .down .getOrder
  | .countByCoupon _ _ => .down .countByCoupon
  | .hasPaidOrders _ => .down .hasPaidOrders
  | .allOrders => .down .allOrders
  | .commit _ => .down .commit
  | .enqueue _ _ => .down .enqueue
  | .takeDue _ => .down .takeDue

namespace World

/-- A world in which nothing goes wrong. -/
def calm (store : Store) (queue : Queue) (now : Instant) : World := ⟨store, queue, now, [], []⟩

/-! ### What goes wrong -/

/-- Takes a service down for some calls, or for all when there is no number. -/
def fail (world : World) (service : Service) (calls : Option Nat) : World :=
  { world with outages := ⟨service, calls⟩ :: world.outages.filter (·.service != service) }

/-- Ends all outages. -/
def heal (world : World) : World := { world with outages := [] }

/-- Lets writes of others get in before the next commit. -/
def race (world : World) (writes : List Write) : World :=
  { world with races := world.races ++ [writes] }

/-- The service is down. -/
def isDown (world : World) (service : Service) : Bool :=
  world.outages.any fun outage => outage.service == service && outage.isOn

/-- The world after a call that the service did not answer. -/
def afterDown (world : World) (service : Service) : World :=
  { world with outages := world.outages.map fun o => if o.service = service then o.used else o }

/-- A store after commits of others, of which the refused ones change nothing. -/
def commitRaces (store : Store) : List (List Write) → Except Overflow Unit × Store
  | [] => (.ok (), store)
  | writes :: rest =>
    match store.commit writes with
    | .ok store => commitRaces store rest
    | .error (.refused _) => commitRaces store rest
    | .error (.stopped overflow) => (.error overflow, store)

/-! ### Calls -/

/-- A commit to a store. -/
def commitTo (store : Store) (writes : List Write) :
    Except Overflow (Except StoreError Unit) × Store :=
  match store.commit writes with
  | .ok store => (.ok (.ok ()), store)
  | .error (.refused error) => (.ok (.error error), store)
  | .error (.stopped overflow) => (.error overflow, store)

/-- What a call brings back when its service is up, and what it changes. -/
def serve (world : World) : (c : Call) → Except Overflow c.Reply × World
  | .findPlan id => (.ok (.ok (world.store.plans.find? id)), world)
  | .storePlan plan =>
    (.ok (.ok ()), { world with store.plans := world.store.plans.put plan })
  | .findPayment id => (.ok (.ok (world.store.payments.find? id)), world)
  | .storePayment method =>
    (.ok (.ok ()), { world with store.payments := world.store.payments.put method })
  | .findCoupon code => (.ok (.ok (world.store.coupons.find? code)), world)
  | .storeCoupon coupon =>
    (.ok (.ok ()), { world with store.coupons := world.store.coupons.put coupon })
  | .findUser id => (.ok (.ok (world.store.users.find? id)), world)
  | .storeUser user => (.ok (.ok ()), { world with store.users := world.store.users.put user })
  | .subscriptions user => (.ok (.ok (world.store.subscriptionsOf user)), world)
  | .findSubscription id => (.ok (.ok (world.store.subscriptions.find? id)), world)
  | .storeSubscription s =>
    (.ok (.ok ()), { world with store.subscriptions := world.store.subscriptions.put s })
  | .getOrder orderNo => (.ok (.ok (world.store.orders.find? orderNo)), world)
  | .countByCoupon user code => (.ok (.ok (world.store.redemptions user code)), world)
  | .hasPaidOrders user => (.ok (.ok (world.store.hasPaidOrders user)), world)
  | .allOrders => (.ok (.ok world.store.orders.rows), world)
  | .commit writes =>
    let (reply, store) := commitTo world.store writes
    (reply, { world with store })
  | .enqueue task delay =>
    match world.queue.enqueue task delay world.now with
    | .ok queue => (.ok (.ok ()), { world with queue })
    | .error error => (.ok (.error error), world)
  | .takeDue now =>
    (.ok (.ok (world.queue.due now)), { world with queue := world.queue.waiting now })

/-- What a call brings back, up or down, when no writes of others get in before it. -/
def answerAlone (world : World) (c : Call) : Except Overflow c.Reply × World :=
  if world.isDown c.service then (.ok (.error c.down), world.afterDown c.service)
  else world.serve c

/-- What a call brings back, and the world after it. The writes of others get in before a
commit whether or not it is answered. -/
def answer (world : World) : (c : Call) → Except Overflow c.Reply × World
  | .commit writes =>
    match commitRaces world.store world.races with
    | (.error overflow, store) => (.error overflow, { world with store, races := [] })
    | (.ok (), store) => { world with store, races := [] }.answerAlone (.commit writes)
  | c => world.answerAlone c

end World

/-- How a program ends in a world, and the world that it leaves. -/
def Program.run {α : Type} : Program α → World → Except Failure α × World
  | .done value, world => (.ok value, world)
  | .fail failure, world => (.error failure, world)
  | .call c next, world =>
    match world.answer c with
    | (.ok reply, world) => (next reply).run world
    | (.error overflow, world) => (.error (.stopped overflow), world)

namespace Program

variable {α β : Type}

/-- What comes after a program runs in the world that the program leaves. -/
theorem run_andThen (program : Program α) (next : α → Program β) (world : World) :
    (program.andThen next).run world =
      match program.run world with
      | (.ok value, world) => (next value).run world
      | (.error failure, world) => (.error failure, world) := by
  induction program generalizing world with
  | done => rfl
  | fail => rfl
  | call c reply ih =>
    simp only [andThen, run]
    split
    · exact ih _ _
    · rfl

/-- An attempt ends as the program does, with a refusal as a value. -/
theorem run_attempt (program : Program α) (world : World) :
    program.attempt.run world =
      match program.run world with
      | (.ok value, world) => (.ok (.ok value), world)
      | (.error (.refused error), world) => (.ok (.error error), world)
      | (.error (.stopped overflow), world) => (.error (.stopped overflow), world) := by
  induction program generalizing world with
  | done => rfl
  | fail failure => cases failure <;> rfl
  | call c reply ih =>
    simp only [attempt, run]
    split
    · exact ih _ _
    · rfl

end Program

end OrderDesk
