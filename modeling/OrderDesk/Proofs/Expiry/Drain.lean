import Mathlib.Data.List.Nodup
import OrderDesk.Proofs.Desk.Turns
import OrderDesk.Proofs.Expiry.Worker
import OrderDesk.Proofs.Store.History

/-!
# The tasks may come in any order

The worker carries out the tasks that are due one after the other. Closing different orders moves
the same balances, the units of the same plans and the redemptions of the same coupons, and the
ledger tells after each of them what the balance is then. It makes no difference all the same in
which order the tasks come, how often, and which others are among them.

What the worker leaves is told by the set of the orders that the tasks name (`Store.ClosesNamed`):
those of them that were pending are cancelled, and the ledger has gained what each of them gave back.
One task makes such a change (`Expiry.run_runTask_closesNamed`), and so do some tasks, one after the
other (`Expiry.run_runTasks_closesNamed`). The rest follows from the orders, because the store is
balanced: every balance, every number of units and every count of redemptions is that of the start,
less what the standing orders hold (`Store.ClosesNamed.sameRecords`). The main result is
`Expiry.runDue_in_any_order`.
-/

namespace OrderDesk

/-! ### Orders that are named -/

/-- The entry without the balance that the change has led to. -/
def GiftEntry.withoutBalance (entry : GiftEntry) : GiftEntry := { entry with balance := 0 }

namespace Order

variable {named later : OrderNo → Bool} {order : Order}

/-- The order is pending, and named. -/
def isNamedOpen (named : OrderNo → Bool) (order : Order) : Bool :=
  order.status == .pending && named order.orderNo

/-- The order, cancelled if it is pending and named. -/
def closeNamed (named : OrderNo → Bool) (order : Order) : Order :=
  if order.isNamedOpen named then order.withStatus .cancelled else order

/-- The entry for what the order gives back when it is closed, without the balance. -/
def refundEntry? (now : Instant) (order : Order) : Option GiftEntry :=
  if 0 < order.giftAmount then
    some (GiftEntry.credit order.userId order.orderNo order.giftAmount 0 now)
  else none

theorem isNamedOpen_of_settled (h : order.status ≠ .pending) : order.isNamedOpen named = false := by
  rw [isNamedOpen, beq_false_of_ne h, Bool.false_and]

theorem isNamedOpen_of_unnamed (h : named order.orderNo = false) :
    order.isNamedOpen named = false := by
  rw [isNamedOpen, h, Bool.and_false]

theorem isNamedOpen_or :
    order.isNamedOpen (fun orderNo => named orderNo || later orderNo) =
      (order.isNamedOpen named || order.isNamedOpen later) :=
  Bool.and_or_distrib_left _ _ _

/-- What has been closed is not pending any more. -/
theorem isNamedOpen_closeNamed :
    (order.closeNamed named).isNamedOpen later =
      (order.isNamedOpen later && !order.isNamedOpen named) := by
  unfold closeNamed
  cases hopen : order.isNamedOpen named with
  | true =>
    rw [if_pos rfl, Bool.not_true, Bool.and_false]
    exact isNamedOpen_of_settled nofun
  | false => simp

/-- Orders may be closed by their names in two rounds. -/
theorem closeNamed_closeNamed :
    (order.closeNamed named).closeNamed later =
      order.closeNamed fun orderNo => named orderNo || later orderNo := by
  rw [closeNamed, isNamedOpen_closeNamed, closeNamed, closeNamed, isNamedOpen_or]
  cases order.isNamedOpen named <;> simp

end Order

/-! ### Closing the orders that are named -/

/-- The orders that are pending and named have been closed at an instant, in whatever order. -/
structure Store.ClosesNamed (named : OrderNo → Bool) (now : Instant) (before after : Store) :
    Prop where
  orders : after.orders.rows = before.orders.rows.map (Order.closeNamed named)
  ledger : (after.ledger.map GiftEntry.withoutBalance).Perm
    (before.ledger.map GiftEntry.withoutBalance ++
      (before.orders.rows.filter (Order.isNamedOpen named)).filterMap (Order.refundEntry? now))
  payments : after.payments = before.payments
  subscriptions : after.subscriptions = before.subscriptions

/-- Two stores have the same records under the same keys, and ledgers with the same entries in
whatever order and whatever balances they tell. -/
structure Store.SameRecords (first second : Store) : Prop where
  orders : first.orders = second.orders
  users : ∀ id, first.users.find? id = second.users.find? id
  plans : ∀ id, first.plans.find? id = second.plans.find? id
  coupons : ∀ code, first.coupons.find? code = second.coupons.find? code
  payments : first.payments = second.payments
  subscriptions : first.subscriptions = second.subscriptions
  ledger : (first.ledger.map GiftEntry.withoutBalance).Perm
    (second.ledger.map GiftEntry.withoutBalance)

namespace Store.ClosesNamed

variable {named later : OrderNo → Bool} {now : Instant} {a b c : Store} {order : Order}

/-- Nothing is closed where no order is pending and named. -/
theorem of_none (h : ∀ order ∈ a.orders.rows, order.isNamedOpen named = false) (now : Instant) :
    a.ClosesNamed named now a where
  orders := by
    refine ((List.map_congr_left fun order hmem => ?_).trans (List.map_id _)).symm
    exact if_neg (Bool.eq_false_iff.1 (h order hmem))
  ledger := by
    have hnone : a.orders.rows.filter (Order.isNamedOpen named) = [] :=
      List.filter_eq_nil_iff.2 fun order hmem => Bool.eq_false_iff.1 (h order hmem)
    rw [hnone, List.filterMap_nil, List.append_nil]
  payments := rfl
  subscriptions := rfl

/-- Where a pending order is named and no other number, it is the only one to be closed. -/
theorem isNamedOpen_iff (hfound : a.orders.find? order.orderNo = some order)
    (hpending : order.status = .pending)
    (hnamed : ∀ orderNo, named orderNo = true ↔ orderNo = order.orderNo) {other : Order}
    (hmem : other ∈ a.orders.rows) :
    other.isNamedOpen named = true ↔ other.orderNo = order.orderNo := by
  rw [Order.isNamedOpen, Bool.and_eq_true, beq_iff_eq, hnamed]
  refine and_iff_right_of_imp fun hno => ?_
  rw [Table.eq_of_find? hfound hmem hno, hpending]

theorem filter_isNamedOpen_perm (hfound : a.orders.find? order.orderNo = some order)
    (hpending : order.status = .pending)
    (hnamed : ∀ orderNo, named orderNo = true ↔ orderNo = order.orderNo) :
    (a.orders.rows.filter (Order.isNamedOpen named)).Perm [order] := by
  have hnodup : a.orders.rows.Nodup := List.Nodup.of_map Order.orderNo a.orders.nodup
  refine (List.perm_ext_iff_of_nodup (hnodup.filter _) (List.pairwise_singleton _ order)).2 ?_
  intro other
  rw [List.mem_filter, List.mem_singleton]
  constructor
  · rintro ⟨hmem, hopen⟩
    exact Table.eq_of_find? hfound hmem ((isNamedOpen_iff hfound hpending hnamed hmem).1 hopen)
  · rintro rfl
    have hmem := Table.mem_of_find? hfound
    exact ⟨hmem, (isNamedOpen_iff hfound hpending hnamed hmem).2 rfl⟩

/-- Closing the one order that is named. -/
theorem of_closed (hclosed : order.Closed a b)
    (hledger : b.ledger.map GiftEntry.withoutBalance =
      a.ledger.map GiftEntry.withoutBalance ++ (order.refundEntry? now).toList)
    (hnamed : ∀ orderNo, named orderNo = true ↔ orderNo = order.orderNo) :
    a.ClosesNamed named now b where
  orders := by
    rw [hclosed.rows]
    refine List.map_congr_left fun other hmem => ?_
    simp only [Order.closeNamed, isNamedOpen_iff hclosed.found hclosed.pending hnamed hmem]
  ledger := by
    have hperm := (filter_isNamedOpen_perm hclosed.found hclosed.pending hnamed).filterMap
      (Order.refundEntry? now)
    have hentry : [order].filterMap (Order.refundEntry? now) = (order.refundEntry? now).toList := by
      cases hrefund : order.refundEntry? now <;> simp [hrefund]
    rw [hledger, ← hentry]
    exact hperm.symm.append_left _
  payments := hclosed.payments
  subscriptions := hclosed.subscriptions

/-- What is left open after the first names and meets the second ones. -/
theorem filter_isNamedOpen (h : a.ClosesNamed named now b) :
    b.orders.rows.filter (Order.isNamedOpen later) =
      a.orders.rows.filter fun order => order.isNamedOpen later && !order.isNamedOpen named := by
  have hsame : ∀ order ∈ a.orders.rows.filter (Order.isNamedOpen later ∘ Order.closeNamed named),
      order.closeNamed named = order := by
    intro order hmem
    have hopen := (List.mem_filter.1 hmem).2
    rw [Function.comp, Order.isNamedOpen_closeNamed, Bool.and_eq_true, Bool.not_eq_true'] at hopen
    exact if_neg (Bool.eq_false_iff.1 hopen.2)
  rw [h.orders, List.filter_map, List.map_congr_left hsame, List.map_id']
  exact List.filter_congr fun order _ => Order.isNamedOpen_closeNamed

/-- **Orders may be closed in two rounds**, by the names of the first and then by those of the
second. -/
theorem trans (h : a.ClosesNamed named now b) (h' : b.ClosesNamed later now c) :
    a.ClosesNamed (fun orderNo => named orderNo || later orderNo) now c where
  orders := by
    rw [h'.orders, h.orders, List.map_map]
    exact List.map_congr_left fun order _ => Order.closeNamed_closeNamed
  ledger := by
    -- The orders to be closed are those of the first round and those that it leaves to the second.
    have hsplit : (a.orders.rows.filter (Order.isNamedOpen named) ++
        b.orders.rows.filter (Order.isNamedOpen later)).Perm
          (a.orders.rows.filter
            (Order.isNamedOpen fun orderNo => named orderNo || later orderNo)) := by
      refine .trans (.of_eq ?_) (List.filter_append_perm (Order.isNamedOpen named) _)
      rw [h.filter_isNamedOpen, List.filter_filter, List.filter_filter]
      congr 1
      all_goals
        refine List.filter_congr fun order _ => ?_
        rw [Order.isNamedOpen_or]
        cases order.isNamedOpen named <;> simp
    have hentries := hsplit.filterMap (Order.refundEntry? now)
    rw [List.filterMap_append] at hentries
    refine h'.ledger.trans ((h.ledger.append_right _).trans ?_)
    rw [List.append_assoc]
    exact hentries.append_left _
  payments := h'.payments.trans h.payments
  subscriptions := h'.subscriptions.trans h.subscriptions

/-- Only the names of orders that are there matter. -/
theorem congr (h : a.ClosesNamed named now b)
    (hsame : ∀ order ∈ a.orders.rows, named order.orderNo = later order.orderNo) :
    a.ClosesNamed later now b := by
  have hopen : ∀ order ∈ a.orders.rows, order.isNamedOpen named = order.isNamedOpen later :=
    fun order hmem => congrArg (order.status == .pending && ·) (hsame order hmem)
  refine ⟨h.orders.trans (List.map_congr_left fun order hmem => ?_), ?_, h.payments,
    h.subscriptions⟩
  · rw [Order.closeNamed, hopen order hmem, Order.closeNamed]
  · rw [← List.filter_congr hopen]
    exact h.ledger

/-- **Closing the same orders leads to the same**, from a store that has come from one without
orders. -/
theorem sameRecords {seed : Store} (hused : ∀ coupon ∈ seed.coupons.rows, 0 ≤ coupon.usedCount)
    (h : a.ClosesNamed named now b) (h' : a.ClosesNamed named now c) (hb : seed.Balanced b)
    (hc : seed.Balanced c) : b.SameRecords c := by
  have horders : b.orders = c.orders := Table.eq_of_rows_eq (h.orders.trans h'.orders.symm)
  have hcounts : ∀ code, seed.CountsUp code := fun code coupon hfound =>
    hused coupon (Table.mem_of_find? hfound)
  refine ⟨horders, fun id => ?_, fun id => ?_, fun code => ?_, h.payments.trans h'.payments.symm,
    h.subscriptions.trans h'.subscriptions.symm, h.ledger.trans h'.ledger.symm⟩
  · rw [hb.users, hc.users, giftHeld, giftHeld, held, held, horders]
  · rw [hb.plans, hc.plans, unitsHeld, unitsHeld, horders]
  · rw [hb.coupons code (hcounts code), hc.coupons code (hcounts code), redemptionsHeld,
      redemptionsHeld, horders]

end Store.ClosesNamed

/-! ### Days -/

/-- A job keeps a store solvent. -/
theorem Store.Solvent.take {seed : Store} {world : World} (h : seed.Solvent world.store)
    (hcalm : world.Calm) (turn : Turn) : seed.Solvent (world.take turn).store := by
  have hplaces : turn.job.Places fun _ => True := turn.job.places_of_forall fun _ => trivial
  let entered : World := { world with now := turn.now }
  have hentered : entered.races = [] := hcalm.races
  obtain ⟨hkeeps, -, -⟩ := Program.runAmid_of_conforms
    (turn.job.program_trades entered.store hplaces)
    (fun before c reply after hallows hanswers hbefore => by
      obtain rfl | ⟨hlater, hchange⟩ := Call.Trades.change hallows hanswers
      · exact hbefore
      · exact hbefore.of_change hlater hchange) hentered h []
  rwa [Program.runAmid_nil] at hkeeps

/-- **Days keep a store solvent**, whether or not the queue takes the tasks. -/
theorem Store.Solvent.day {seed : Store} {world : World} (h : seed.Solvent world.store)
    (hcalm : world.Calm) (turns : List Turn) :
    (world.day turns).Calm ∧ seed.Solvent (world.day turns).store := by
  induction turns generalizing world with
  | nil => exact ⟨hcalm, h⟩
  | cons turn rest ih =>
    have hnow : World.Calm { world with now := turn.now } := ⟨hcalm.outages, hcalm.races⟩
    have hcalm' : (world.take turn).Calm := hnow.run turn.job.program
    exact ih (h.take hcalm turn) hcalm'

namespace Expiry

variable {seed : Store} {world : World}

/-! ### The tasks -/

/-- The entry of the ledger among the writes that close an order. -/
theorem filterMap_entry?_closeWrites {order : Order} {refund : Option Refund}
    (hrefund : GivesBack order refund) (now : Instant) :
    ((closeWrites order order.orderNo now refund).filterMap Write.entry?).map
      GiftEntry.withoutBalance = (order.refundEntry? now).toList := by
  have hcoupon : (couponWrites order).filterMap Write.entry? = [] := by
    unfold couponWrites
    split <;> rfl
  have hunit : (unitWrites order).filterMap Write.entry? = [] := by
    unfold unitWrites
    split <;> rfl
  rw [closeWrites, List.filterMap_append, List.filterMap_append, hcoupon, hunit, List.append_nil,
    List.append_nil]
  cases refund with
  | none =>
    have hnothing : order.refundEntry? now = none := if_neg (Int.not_lt.2 hrefund)
    rw [hnothing]
    rfl
  | some r =>
    have hentry : order.refundEntry? now =
        some (GiftEntry.credit order.userId order.orderNo order.giftAmount 0 now) :=
      if_pos hrefund.1
    rw [hentry]
    rfl

/-- **A task closes the order that it names**, if that is there and pending, and does nothing
otherwise. -/
theorem run_runTask_closesNamed (hcalm : world.Calm) (hsolvent : seed.Solvent world.store)
    (hfits : seed.Fits) (task : Task) (now : Instant) :
    ∃ done store, (runTask task now).run world = (.ok done, { world with store }) ∧
      seed.Solvent store ∧ world.store.ClosesNamed task.closes now store := by
  by_cases hnames : ∃ orderNo order, task.closes orderNo = true ∧
      world.store.orders.find? orderNo = some order
  · obtain ⟨orderNo, order, hcloses, hfound⟩ := hnames
    obtain rfl := Table.key_of_find? hfound
    obtain ⟨hkind, hpayload⟩ := Task.closes_iff.1 hcloses
    have hhandle : handle task now = close order.orderNo now := by
      rw [handle, hpayload]
    have hnamed : ∀ no, task.closes no = true ↔ no = order.orderNo := by
      intro no
      rw [Task.closes_iff, hpayload]
      simp [hkind, eq_comm]
    by_cases hpending : order.status = .pending
    · obtain ⟨refund, store, hrun, hrefund, hcommit⟩ :=
        run_closePending_commits hcalm hsolvent hfits hfound hpending now
      have hclosed : order.Closed world.store store :=
        closed_of_commit hpending ⟨order, hfound, .refl order⟩ hrefund hcommit
      refine ⟨true, store, ?_, hsolvent.closed (Store.later_of_commit hcommit) hclosed,
        .of_closed hclosed ?_ hnamed⟩
      · rw [run_runTask_eq_verdict hcalm hkind, hhandle, run_close_of_pending hcalm hfound hpending,
          hrun, verdict]
      · rw [Store.ledger_of_commit hcommit, List.map_append, filterMap_entry?_closeWrites hrefund]
    · obtain ⟨outcome, hrun⟩ := run_close_of_settled hcalm hfound hpending now
      refine ⟨true, world.store, ?_, hsolvent, .of_none (fun other hmem => ?_) now⟩
      · rw [run_runTask_eq_verdict hcalm hkind, hhandle, hrun, verdict]
      · by_cases hno : other.orderNo = order.orderNo
        · rw [Table.eq_of_find? hfound hmem hno]
          exact Order.isNamedOpen_of_settled hpending
        · apply Order.isNamedOpen_of_unnamed
          exact Bool.eq_false_iff.2 fun h => hno ((hnamed _).1 h)
  · have habsent : ∀ orderNo, task.closes orderNo = true →
        world.store.orders.find? orderNo = none := fun orderNo hcloses =>
      Option.eq_none_iff_forall_ne_some.2 fun order hfound => hnames ⟨orderNo, order, hcloses, hfound⟩
    have hreports := run_runTask_reports hcalm task now
    rw [taskFate_of_absent habsent] at hreports
    refine ⟨false, world.store, hreports.eq_of_refused, hsolvent, .of_none (fun order hmem => ?_) now⟩
    apply Order.isNamedOpen_of_unnamed
    exact Bool.eq_false_iff.2 fun hcloses =>
      hnames ⟨order.orderNo, order, hcloses, Table.find?_of_mem hmem⟩

/-- A task among some is to close the order under a number. -/
def names (entries : List QueuedTask) (orderNo : OrderNo) : Bool :=
  entries.any fun entry => entry.task.closes orderNo

/-- **Some tasks close the orders that they name**, as far as those are there and pending. -/
theorem run_runTasks_closesNamed (hcalm : world.Calm) (hsolvent : seed.Solvent world.store)
    (hfits : seed.Fits) (now : Instant) (report : WorkerReport) (entries : List QueuedTask) :
    ∃ report' store, (runTasks now report entries).run world = (.ok report', { world with store }) ∧
      seed.Solvent store ∧ world.store.ClosesNamed (names entries) now store := by
  induction entries generalizing world report with
  | nil =>
    refine ⟨report, world.store, rfl, hsolvent, .of_none ?_ now⟩
    intro order _
    exact Order.isNamedOpen_of_unnamed rfl
  | cons entry rest ih =>
    obtain ⟨done, store, hrun, hsolvent', hcloses⟩ :=
      run_runTask_closesNamed hcalm hsolvent hfits entry.task now
    obtain ⟨report', store', hrun', hsolvent'', hcloses'⟩ :=
      @ih { world with store } ⟨hcalm.outages, hcalm.races⟩ hsolvent' (report.count done)
    refine ⟨report', store', ?_, hsolvent'', hcloses.trans hcloses'⟩
    rw [runTasks, Program.run_bind hrun, hrun']

/-- The tasks that are due close the orders that they name. -/
theorem run_runDue_closesNamed (hcalm : world.Calm) (hsolvent : seed.Solvent world.store)
    (hfits : seed.Fits) (deadline now : Instant) :
    ∃ report store, (runDue deadline now).run world =
        (.ok report, { world with store, queue := world.queue.waiting deadline }) ∧
      seed.Solvent store ∧
      world.store.ClosesNamed (names (world.queue.due deadline)) now store := by
  have hdrained : (world.drained deadline).Calm := ⟨hcalm.outages, hcalm.races⟩
  obtain ⟨report, store, hrun, hends⟩ :=
    run_runTasks_closesNamed hdrained hsolvent hfits now ⟨0, 0⟩ (world.queue.due deadline)
  refine ⟨report, store, ?_, hends⟩
  rw [run_runDue_of_up (hcalm.isDown .takeDue), hrun]
  rfl

/-- **The tasks may come in any order**, any number of times and among any others. From a store
without orders jobs are done one after the other, where nothing goes wrong. Two queues whose due
tasks name the same of the orders that are there by then are worked off to the end, and leave the
same orders, balances, units and redemptions, and the same entries of the ledger, but for their
order and the balances that they tell. -/
theorem runDue_in_any_order {store : Store} (horders : store.orders = .empty) (hfits : store.Fits)
    (hused : ∀ coupon ∈ store.coupons.rows, 0 ≤ coupon.usedCount) (queue : Queue) (start : Instant)
    (turns : List Turn) {first second : Queue} {deadline deadline' : Instant}
    (hnames : ∀ orderNo order,
      ((World.calm store queue start).day turns).store.orders.find? orderNo = some order →
      names (first.due deadline) orderNo = names (second.due deadline') orderNo) (now : Instant) :
    let world := (World.calm store queue start).day turns
    ∃ report report' left left',
      (runDue deadline now).run { world with queue := first } =
        (.ok report, { world with store := left, queue := first.waiting deadline }) ∧
      (runDue deadline' now).run { world with queue := second } =
        (.ok report', { world with store := left', queue := second.waiting deadline' }) ∧
      left.SameRecords left' := by
  intro world
  obtain ⟨hcalm, hsolvent⟩ : world.Calm ∧ store.Solvent world.store :=
    (Store.Solvent.refl horders).day (World.calm_calm store queue start) turns
  obtain ⟨report, left, hrun, hleft, hcloses⟩ :=
    @run_runDue_closesNamed store { world with queue := first } ⟨hcalm.outages, hcalm.races⟩
      hsolvent hfits deadline now
  obtain ⟨report', left', hrun', hleft', hcloses'⟩ :=
    @run_runDue_closesNamed store { world with queue := second } ⟨hcalm.outages, hcalm.races⟩
      hsolvent hfits deadline' now
  have hsame : world.store.ClosesNamed (names (second.due deadline')) now left :=
    hcloses.congr fun order hmem => hnames order.orderNo order (Table.find?_of_mem hmem)
  exact ⟨report, report', left, left', hrun, hrun',
    hsame.sameRecords hused hcloses' hleft.toBalanced hleft'.toBalanced⟩

/-- Units of a plan, and a user with some gift balance and a coupon. -/
def stocked : Store :=
  { Store.empty with
    plans := .ofList [⟨7, "basic", 300, .empty, 5, 0, true⟩]
    payments := .ofList [⟨3, "card", .none⟩]
    coupons := .ofList [⟨"TEN", .fixed 10, 5, 0, 5, []⟩]
    users := .ofList [⟨1, 500⟩] }

/-- The user buys three units, each with the coupon, and pays for the last. -/
def threePurchases : List Turn :=
  [⟨⟨0, 0⟩, Desk.purchase "first"⟩, ⟨⟨0, 0⟩, Desk.purchase "second"⟩,
    ⟨⟨0, 0⟩, Desk.purchase "third"⟩, ⟨⟨0, 0⟩, .pay "third"⟩]

/-- The tasks for the orders as they came. -/
def asTheyCame : Queue :=
  ⟨[⟨.closeOrder "first", ⟨0, 0⟩⟩, ⟨.closeOrder "second", ⟨0, 0⟩⟩, ⟨.closeOrder "third", ⟨0, 0⟩⟩]⟩

/-- The same tasks, of which one comes twice, with one of another kind, one that cannot be read and
one for an order that is not there. -/
def mixedUp : Queue :=
  ⟨[⟨.closeOrder "second", ⟨0, 0⟩⟩, ⟨⟨"remind", "first", 3⟩, ⟨1, 0⟩⟩, ⟨.closeOrder "third", ⟨1, 0⟩⟩,
    ⟨.closeOrder "nowhere", ⟨2, 0⟩⟩, ⟨.closeOrder "second", ⟨2, 0⟩⟩,
    ⟨⟨Task.closeKind, "first", 3⟩, ⟨3, 0⟩⟩, ⟨.closeOrder "first", ⟨4, 0⟩⟩]⟩

/-- Both queues give back the same, and the balances in the ledger tell in which order. -/
theorem runDue_in_any_order_of_mixedUp :
    let world := (World.calm stocked .empty ⟨0, 0⟩).day threePurchases
    let leftBy (queue : Queue) : Store :=
      ((runDue ⟨900, 0⟩ ⟨900, 0⟩).run { world with queue }).2.store
    (leftBy asTheyCame).SameRecords (leftBy mixedUp) ∧
      (leftBy asTheyCame).ledger.map (·.balance) = [210, 0, 290, 500] ∧
      (leftBy mixedUp).ledger.map (·.balance) = [210, 0, 210, 500] := by
  intro world leftBy
  have hcame : asTheyCame.due ⟨900, 0⟩ = asTheyCame.entries :=
    due_of_sorted (by decide) (by decide)
  have hmixed : mixedUp.due ⟨900, 0⟩ = mixedUp.entries := due_of_sorted (by decide) (by decide)
  have hrows : ∀ order ∈ world.store.orders.rows,
      names asTheyCame.entries order.orderNo = names mixedUp.entries order.orderNo := by
    decide +kernel
  have hnames : ∀ orderNo order, world.store.orders.find? orderNo = some order →
      names (asTheyCame.due ⟨900, 0⟩) orderNo = names (mixedUp.due ⟨900, 0⟩) orderNo := by
    intro orderNo order hfound
    obtain rfl := Table.key_of_find? hfound
    rw [hcame, hmixed]
    exact hrows order (Table.mem_of_find? hfound)
  refine ⟨?_, ?_, ?_⟩
  · have hfits : stocked.Fits := ⟨by decide, by decide⟩
    have hused : ∀ coupon ∈ stocked.coupons.rows, 0 ≤ coupon.usedCount := by decide
    obtain ⟨report, report', left, left', hrun, hrun', hleaves⟩ :=
      runDue_in_any_order rfl hfits hused .empty ⟨0, 0⟩ threePurchases hnames ⟨900, 0⟩
    have hleft : leftBy asTheyCame = left := congrArg (·.2.store) hrun
    have hleft' : leftBy mixedUp = left' := congrArg (·.2.store) hrun'
    rw [hleft, hleft']
    exact hleaves
  · show (((runDue ⟨900, 0⟩ ⟨900, 0⟩).run { world with queue := asTheyCame }).2.store).ledger.map
      (·.balance) = _
    rw [run_runDue_of_up rfl, hcame]
    decide +kernel
  · show (((runDue ⟨900, 0⟩ ⟨900, 0⟩).run { world with queue := mixedUp }).2.store).ledger.map
      (·.balance) = _
    rw [run_runDue_of_up rfl, hmixed]
    decide +kernel

end Expiry

end OrderDesk
