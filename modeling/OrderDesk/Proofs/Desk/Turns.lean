import OrderDesk.Proofs.Desk.Clients
import OrderDesk.Proofs.Expiry.Tasks
import OrderDesk.Proofs.Submission.AllOrNothing

/-!
# Every order that is not paid is closed when it is due

Jobs are done one after the other, at a desk that opens without orders and tasks and at which
nothing goes wrong. Then the queue and the store go together (`World.Tended`): every task in the
queue is for an order that is there, and every pending order has one task. An order that is placed
brings its task along; closing and paying leave the tasks, which find the order settled when they
are due; and the worker takes tasks out only to settle their orders.

From this, and from what solvency says of closing, follows what the close tasks are for
(`World.closesInTime_of_day`).
-/

namespace OrderDesk

/-! ### Days -/

/-- A job that is done from beginning to end, and the time on the clock of the queue. -/
structure Turn where
  now : Instant
  job : Job

/-- The time until an order is closed is one that the queue accepts. -/
def Turn.HasWindow (turn : Turn) : Prop :=
  turn.job.Submits fun config _ _ _ =>
    config.closeAfter ≤ Queue.longestDelay ∧ (turn.now.after? config.closeAfter).isSome

instance (turn : Turn) : Decidable turn.HasWindow := inferInstanceAs (Decidable (Job.Submits _ _))

/-- The world after a job. -/
def World.take (world : World) (turn : Turn) : World :=
  (turn.job.program.run { world with now := turn.now }).2

/-- The world after some jobs, one after the other. -/
def World.day (world : World) (turns : List Turn) : World := turns.foldl take world

/-- **What a request does where nothing goes wrong**: it places an order and puts its task into the
queue, or it changes neither the store nor the queue. -/
theorem Submission.run_submit_of_calm {world : World} (hcalm : world.Calm) (config : Config)
    (stamp : Stamp) (session : Option UserId) (request : Request)
    (hdelay : config.closeAfter ≤ Queue.longestDelay)
    (hwindow : (world.now.after? config.closeAfter).isSome) :
    let after := ((submit config stamp session request).run world).2
    (∃ (order : Order) (dueAt : Instant), order.Placed world.store after.store ∧
      world.store.Later after.store ∧
      after.queue.entries = world.queue.entries ++ [⟨Task.closeOrder order.orderNo, dueAt⟩]) ∨
    after.store = world.store ∧ after.queue = world.queue := by
  rcases run_submit config stamp session request world with
    ⟨f, settled, after, hprepared, hraces, hcommit, henqueued, hends⟩ |
    ⟨error, after, hqueue, hstore, hends⟩ | ⟨overflow, after, hqueue, hstore, hends⟩
  · rw [hcalm.races] at hraces
    obtain rfl : world.store = settled := (Prod.mk.inj hraces).2
    have hplaced := Fulfillment.placed_of_commit hprepared.sound_of_still hcommit
    have hlater := Store.later_of_commit hcommit
    rw [hends]
    rcases henqueued with ⟨-, dueAt, -, hentries⟩ | ⟨hdown | ⟨error, hrefused⟩, -⟩
    · exact .inl ⟨f.order, dueAt, hplaced, hlater, hentries⟩
    · simp [hcalm.isDown] at hdown
    · obtain ⟨dueAt, hdueAt⟩ := Option.isSome_iff_exists.1 hwindow
      cases hrefused.symm.trans (Queue.enqueue_eq_ok_iff.2 ⟨hdelay, dueAt, hdueAt, rfl⟩)
  · rw [hends]
    rcases hstore with ⟨hsame, -⟩ | ⟨hraces, -⟩
    · exact .inr ⟨hsame, hqueue⟩
    · rw [hcalm.races] at hraces
      exact .inr ⟨(Prod.mk.inj hraces).2.symm, hqueue⟩
  · rw [hends]
    exact .inr ⟨hstore hcalm.races, hqueue⟩

/-! ### What is to be shown -/

/-- The tasks that close an order. -/
def Queue.tasksFor (queue : Queue) (orderNo : OrderNo) : List QueuedTask :=
  queue.entries.filter fun entry => entry.task.closes orderNo

/-- Every order is paid or cancelled, and all that is missing from the store of the start is what
the paid orders hold: no others stand. -/
structure Store.Restored (seed store : Store) : Prop where
  settled : ∀ orderNo order, store.orders.find? orderNo = some order →
    order.status = .paid ∨ order.status = .cancelled
  /-- What a cancelled order took was given back, and the ledger tells it. -/
  refunded : ∀ orderNo order, store.orders.find? orderNo = some order →
    order.status = .cancelled → 0 < order.giftAmount →
    ∃ entry ∈ store.ledger, entry.Tells order .increase
  gift : seed.users.Related
    (fun id (seeded user : User) => user.giftAmount + store.giftHeld id = seeded.giftAmount)
    store.users
  units : seed.plans.Related
    (fun id (seeded plan : Plan) =>
      if 0 ≤ seeded.inventory then
        0 ≤ plan.inventory ∧ plan.inventory + store.unitsHeld id = seeded.inventory
      else plan.inventory = seeded.inventory)
    store.plans
  /-- A coupon with a negative number of redemptions is left out: closing does not count it back. -/
  redemptions : ∀ code seeded, seed.coupons.find? code = some seeded → 0 ≤ seeded.usedCount →
    store.coupons.find? code = some (seeded.recount (store.redemptionsHeld code))

/-- Every pending order has a task that closes it in time. -/
structure World.ClosesInTime (seed : Store) (world : World) : Prop where
  /-- There is one task for a pending order, and no other. -/
  task : ∀ orderNo order, world.store.orders.find? orderNo = some order →
    order.status = .pending → (world.queue.tasksFor orderNo).length = 1
  /-- A pending order can be closed at any time. -/
  close : ∀ orderNo order now, world.store.orders.find? orderNo = some order →
    order.status = .pending → ∃ store, order.Closed world.store store ∧
      (Expiry.close orderNo now).run world = (.ok .cancelled, { world with store })
  /-- The worker does all tasks that are due, and leaves none of their orders pending. -/
  work : ∀ deadline now, ∃ store, (Expiry.runDue deadline now).run world =
      (.ok ⟨(world.queue.due deadline).length, 0⟩,
        { world with store, queue := world.queue.waiting deadline }) ∧
    (∀ entry ∈ world.queue.entries, entry.dueAt.isAtMost deadline →
      ∀ orderNo order, entry.task.closes orderNo → store.orders.find? orderNo = some order →
        order.status ≠ .pending) ∧
    ((∀ entry ∈ world.queue.entries, entry.dueAt.isAtMost deadline) → seed.Restored store)

/-! ### The invariant -/

/-- The store is solvent, and the tasks in the queue are those for its pending orders and for some
that were pending. -/
structure World.Tended (seed : Store) (world : World) : Prop where
  calm : world.Calm
  solvent : seed.Solvent world.store
  tasks : ∀ entry ∈ world.queue.entries, world.store.HasOrderOf entry.task
  pending : ∀ orderNo order, world.store.orders.find? orderNo = some order →
    order.status = .pending → (world.queue.tasksFor orderNo).length = 1

namespace World.Tended

variable {seed : Store} {world after : World} {order : Order}

theorem opened {store : Store} (horders : store.orders = .empty) (now : Instant) :
    Tended store (World.calm store .empty now) where
  calm := calm_calm store .empty now
  solvent := .refl horders
  tasks := nofun
  pending orderNo order hfound := by simp [World.calm, horders] at hfound

theorem withNow (h : Tended seed world) (now : Instant) : Tended seed { world with now } where
  calm := ⟨h.calm.outages, h.calm.races⟩
  solvent := h.solvent
  tasks := h.tasks
  pending := h.pending

/-- Closing and paying leave the queue as it is, and make no order pending. -/
theorem settles (h : Tended seed world) (hcalm : after.Calm) (hsolvent : seed.Solvent after.store)
    (hsettles : world.store.Settles after.store) (hqueue : after.queue = world.queue) :
    Tended seed after where
  calm := hcalm
  solvent := hsolvent
  tasks entry hmem := hsettles.hasOrderOf (h.tasks entry (hqueue ▸ hmem))
  pending orderNo order hfound hpending := by
    rw [hqueue]
    exact h.pending orderNo order (hsettles.pending orderNo order hfound hpending) hpending

/-- There are no tasks for an order that is not there. -/
theorem tasksFor_of_absent (h : Tended seed world) {orderNo : OrderNo}
    (habsent : world.store.orders.find? orderNo = none) : world.queue.tasksFor orderNo = [] := by
  apply List.filter_eq_nil_iff.2
  intro entry hmem hcloses
  obtain ⟨no, order, htask, hfound⟩ := h.tasks entry hmem
  rw [htask] at hcloses
  obtain rfl := Task.closes_closeOrder_iff.1 hcloses
  simp [habsent] at hfound

/-- An order that is placed brings its task along. -/
theorem placed (h : Tended seed world) (hcalm : after.Calm)
    (hlater : world.store.Later after.store) (hplaced : order.Placed world.store after.store)
    {dueAt : Instant}
    (hqueue : after.queue.entries =
      world.queue.entries ++ [⟨Task.closeOrder order.orderNo, dueAt⟩]) :
    Tended seed after where
  calm := hcalm
  solvent := h.solvent.placed hlater hplaced
  tasks entry hmem := by
    rw [hqueue] at hmem
    rcases List.mem_append.1 hmem with hold | hnew
    · obtain ⟨orderNo, found, htask, hfound⟩ := h.tasks entry hold
      obtain ⟨later, hfound', -⟩ := hlater.orders orderNo found hfound
      exact ⟨orderNo, later, htask, hfound'⟩
    · obtain rfl := List.mem_singleton.1 hnew
      exact ⟨order.orderNo, order, rfl, hplaced.found_after⟩
  pending orderNo found hfound hpending := by
    have htasks : after.queue.tasksFor orderNo = world.queue.tasksFor orderNo ++
        if order.orderNo = orderNo then [⟨Task.closeOrder order.orderNo, dueAt⟩] else [] := by
      rw [Queue.tasksFor, hqueue, List.filter_append]
      simp [Queue.tasksFor, List.filter_cons, Task.closes_closeOrder_iff]
    rw [hplaced.orders] at hfound
    obtain ⟨rfl, rfl⟩ | ⟨hother, hold⟩ := Table.found_of_put hfound
    · rw [htasks, h.tasksFor_of_absent hplaced.absent, if_pos rfl]
      rfl
    · rw [htasks, if_neg hother, List.append_nil]
      exact h.pending orderNo found hold hpending

/-- The orders of which the tasks are taken out are not pending afterwards. -/
theorem worked (h : Tended seed world) {store : Store} {deadline : Instant}
    (hsolvent : seed.Solvent store) (hsettles : world.store.Settles store)
    (hdone : Expiry.NonePending store (world.queue.due deadline)) :
    Tended seed { world with store, queue := world.queue.waiting deadline } where
  calm := ⟨h.calm.outages, h.calm.races⟩
  solvent := hsolvent
  tasks entry hmem := hsettles.hasOrderOf (h.tasks entry (List.mem_of_mem_filter hmem))
  pending orderNo order hfound hpending := by
    rw [← h.pending orderNo order (hsettles.pending orderNo order hfound hpending) hpending]
    have hwaits : ∀ entry ∈ world.queue.entries, entry.task.closes orderNo = true →
        entry.dueAt.isAtMost deadline = false := by
      intro entry hmem hcloses
      cases hdue : entry.dueAt.isAtMost deadline with
      | false => rfl
      | true =>
        have htaken : entry ∈ world.queue.due deadline := Queue.mem_due.2 ⟨hmem, hdue⟩
        exact absurd hpending (hdone entry htaken orderNo order hcloses hfound)
    simp only [Queue.tasksFor, Queue.waiting, List.filter_filter]
    apply congrArg List.length
    apply List.filter_congr
    intro entry hmem
    cases hcloses : entry.task.closes orderNo with
    | false => rfl
    | true => simp [hwaits entry hmem hcloses]

/-- When all tasks were due and are done, no order is pending: one that still is has its task. -/
theorem not_pending_of_done (h : Tended seed world) {store : Store} {deadline : Instant}
    (hsettles : world.store.Settles store)
    (hdone : Expiry.NonePending store (world.queue.due deadline))
    (hdue : ∀ entry ∈ world.queue.entries, entry.dueAt.isAtMost deadline = true)
    (orderNo : OrderNo) (order : Order) (hfound : store.orders.find? orderNo = some order) :
    order.status ≠ .pending := by
  intro hpending
  have hbefore := hsettles.pending orderNo order hfound hpending
  have htask := h.pending orderNo order hbefore hpending
  obtain ⟨entry, hmem⟩ := List.exists_mem_of_length_pos (htask ▸ Nat.one_pos)
  obtain ⟨hqueued, hcloses⟩ := List.mem_filter.1 hmem
  have htaken : entry ∈ world.queue.due deadline := Queue.mem_due.2 ⟨hqueued, hdue entry hqueued⟩
  exact hdone entry htaken orderNo order hcloses hfound hpending

/-! ### Every job keeps it -/

theorem submit (h : Tended seed world) (config : Config) (stamp : Submission.Stamp)
    (session : Option UserId) (request : Request) (hdelay : config.closeAfter ≤ Queue.longestDelay)
    (hwindow : (world.now.after? config.closeAfter).isSome) :
    Tended seed ((OrderDesk.submit config stamp session request).run world).2 := by
  have hcalm := h.calm.run (OrderDesk.submit config stamp session request)
  rcases Submission.run_submit_of_calm h.calm config stamp session request hdelay hwindow with
    ⟨order, dueAt, hplaced, hlater, hqueue⟩ | ⟨hstore, hqueue⟩
  · exact h.placed hcalm hlater hplaced hqueue
  · exact h.settles hcalm (hstore ▸ h.solvent) (hstore ▸ .refl _) hqueue

theorem close (h : Tended seed world) (hfits : seed.Fits) (orderNo : OrderNo) (now : Instant) :
    Tended seed ((Expiry.close orderNo now).run world).2 := by
  cases hfound : world.store.orders.find? orderNo with
  | none => rwa [Expiry.run_close_of_absent h.calm hfound]
  | some order =>
    obtain ⟨outcome, store, hrun, hends⟩ := Expiry.run_close h.calm h.solvent hfits hfound now
    rw [hrun]
    obtain ⟨-, -, hclosed, hlater⟩ | ⟨-, rfl⟩ := hends
    · exact h.settles ⟨h.calm.outages, h.calm.races⟩ (h.solvent.closed hlater hclosed)
        (.of_closed hclosed) rfl
    · exact h

theorem pay (h : Tended seed world) (orderNo : OrderNo) :
    Tended seed ((Job.payment orderNo).run world).2 := by
  cases hcommit : world.store.commit [.move orderNo .pending .paid] with
  | error fault => rwa [Job.payment, Program.run_transaction_of_error h.calm hcommit]
  | ok store =>
    rw [Job.payment, Program.run_transaction_of_ok h.calm hcommit]
    obtain ⟨order, hpaid⟩ := Store.paid_of_commit hcommit
    exact h.settles ⟨h.calm.outages, h.calm.races⟩
      (h.solvent.paid (Store.later_of_commit hcommit) hpaid) (.of_paid hpaid) rfl

theorem work (h : Tended seed world) (hfits : seed.Fits) (deadline now : Instant) :
    Tended seed ((Expiry.runDue deadline now).run world).2 := by
  obtain ⟨store, hrun, hsolvent, hclosings, hdone⟩ :=
    Expiry.run_runDue h.calm h.solvent hfits deadline now h.tasks
  rw [hrun]
  exact h.worked hsolvent hclosings.settles hdone

/-- **Every job keeps the queue and the store together.** -/
theorem take (h : Tended seed world) (hfits : seed.Fits) (turn : Turn) (hwindow : turn.HasWindow) :
    Tended seed (world.take turn) := by
  obtain ⟨now, job⟩ := turn
  have hnow := h.withNow now
  cases job with
  | submit config stamp session request =>
    rw [World.take, Job.program, Program.run_bind_pure]
    exact hnow.submit config stamp session request hwindow.1 hwindow.2
  | close orderNo closedAt =>
    rw [World.take, Job.program, Program.run_bind_pure]
    exact hnow.close hfits orderNo closedAt
  | pay orderNo => exact hnow.pay orderNo
  | work deadline workedAt =>
    rw [World.take, Job.program, Program.run_bind_pure]
    exact hnow.work hfits deadline workedAt

theorem day (h : Tended seed world) (hfits : seed.Fits) (turns : List Turn)
    (hwindow : ∀ turn ∈ turns, turn.HasWindow) : Tended seed (world.day turns) := by
  induction turns generalizing world with
  | nil => exact h
  | cons turn rest ih =>
    obtain ⟨hturn, hrest⟩ := List.forall_mem_cons.1 hwindow
    exact ih (h.take hfits turn hturn) hrest

/-! ### What it comes to -/

/-- A solvent store without pending orders is restored. -/
theorem restored {store : Store} (h : seed.Solvent store)
    (hnone : ∀ orderNo order, store.orders.find? orderNo = some order → order.status ≠ .pending) :
    seed.Restored store where
  settled orderNo order hfound := by
    cases hstatus : order.status with
    | pending => exact absurd hstatus (hnone orderNo order hfound)
    | paid => exact .inl rfl
    | cancelled => exact .inr rfl
  refunded := h.refunded
  gift := h.toBalanced.gift_conserved
  units := h.toBalanced.units_conserved
  redemptions code seeded hfound hused := by
    have hcounts : seed.CountsUp code := fun coupon hcoupon =>
      Option.some.inj (hfound.symm.trans hcoupon) ▸ hused
    rw [h.coupons code hcounts, hfound, Option.map_some]

theorem closesInTime (h : Tended seed world) (hfits : seed.Fits) :
    World.ClosesInTime seed world where
  task := h.pending
  close orderNo order now hfound hpending := by
    obtain ⟨outcome, store, hrun, ⟨-, rfl, hclosed, -⟩ | ⟨hother, -⟩⟩ :=
      Expiry.run_close h.calm h.solvent hfits hfound now
    · exact ⟨store, hclosed, hrun⟩
    · exact absurd hpending hother
  work deadline now := by
    obtain ⟨store, hrun, hsolvent, hclosings, hdone⟩ :=
      Expiry.run_runDue h.calm h.solvent hfits deadline now h.tasks
    refine ⟨store, hrun, fun entry hmem hdue => hdone entry (Queue.mem_due.2 ⟨hmem, hdue⟩), ?_⟩
    intro hdue
    exact restored hsolvent (h.not_pending_of_done hclosings.settles hdone hdue)

end World.Tended

/-- **Every order that is not paid is closed when it is due.** At a desk that opens without orders
and tasks, and at which nothing goes wrong, this holds after any jobs that were done one after the
other: a pending order has one task, it can be closed at any time, and the worker does all tasks
that are due and leaves none of their orders pending. Once all tasks are due, what is missing
from the store is what the paid orders hold. -/
theorem World.closesInTime_of_day (store : Store) (now : Instant) (turns : List Turn)
    (horders : store.orders = .empty) (hfits : store.Fits)
    (hwindow : ∀ turn ∈ turns, turn.HasWindow) :
    ClosesInTime store ((World.calm store .empty now).day turns) :=
  ((Tended.opened horders now).day hfits turns hwindow).closesInTime hfits

/-- The last unit is ordered, and ordered again after the first order was not paid in time. -/
def Desk.secondChance : List Turn :=
  [⟨⟨0, 0⟩, purchase "first"⟩, ⟨⟨900, 0⟩, .work ⟨900, 0⟩ ⟨900, 0⟩⟩, ⟨⟨901, 0⟩, purchase "second"⟩]

/-- The first order was closed and the second has its task, due 900 seconds after it was placed. -/
theorem World.closesInTime_of_secondChance :
    ClosesInTime Desk.lastUnit.store
        ((World.calm Desk.lastUnit.store .empty ⟨0, 0⟩).day Desk.secondChance) ∧
      (((World.calm Desk.lastUnit.store .empty ⟨0, 0⟩).day Desk.secondChance).store.orders.rows.map
          fun order => (order.orderNo, order.status)) =
        [("first", .cancelled), ("second", .pending)] ∧
      ((World.calm Desk.lastUnit.store .empty ⟨0, 0⟩).day Desk.secondChance).queue.entries =
        [⟨Task.closeOrder "second", ⟨1801, 0⟩⟩] := by
  refine ⟨closesInTime_of_day _ _ _ rfl ⟨?_, ?_⟩ ?_, ?_⟩
  · decide
  · decide
  · decide
  · decide +kernel

end OrderDesk
