import OrderDesk.Proofs.Expiry.Close
import OrderDesk.Proofs.Json.ReadBack

/-!
# The worker does every task

A task to close an order says in JSON which order that is, and is read as it was written, whatever
the number of the order is (`ClosePayload.ofText?_text`). Closing an order that is there always
ends well, so the worker does each of its tasks at the first attempt: it counts every task that is
due as done, and leaves none of their orders pending (`Expiry.run_runDue`).
-/

namespace OrderDesk

open Json

/-! ### What a task says -/

namespace ClosePayload

/-- **A payload is read as it was written.** -/
theorem ofText?_text (payload : ClosePayload) : ofText? payload.toJson.text = some payload := by
  have hstorable : Storable maxDepth payload.toJson := by
    refine .obj fun entry hentry => ?_
    rw [List.mem_singleton.1 hentry]
    exact .str payload.orderNo
  rw [ofText?, Json.ofText?_text hstorable]
  rfl

end ClosePayload

/-- The task is of the kind that closes orders, and says to close this one. -/
def Task.closes (task : Task) (orderNo : OrderNo) : Bool :=
  task.kind == closeKind && ClosePayload.ofText? task.payload == some ⟨orderNo⟩

theorem Task.closes_iff {task : Task} {orderNo : OrderNo} :
    task.closes orderNo = true ↔
      task.kind = closeKind ∧ ClosePayload.ofText? task.payload = some ⟨orderNo⟩ := by
  simp [closes]

theorem Task.closes_closeOrder_iff {orderNo other : OrderNo} :
    (closeOrder orderNo).closes other = true ↔ orderNo = other := by
  simp [closes, closeOrder, ClosePayload.ofText?_text]

theorem Queue.mem_due {queue : Queue} {deadline : Instant} {entry : QueuedTask} :
    entry ∈ queue.due deadline ↔
      entry ∈ queue.entries ∧ entry.dueAt.isAtMost deadline = true := by
  rw [due, List.mem_mergeSort, List.mem_filter]

/-! ### What closing and paying make of the orders -/

/-- The task closes an order that is there. -/
def Store.HasOrderOf (store : Store) (task : Task) : Prop :=
  ∃ orderNo order, task = Task.closeOrder orderNo ∧ store.orders.find? orderNo = some order

/-- No order goes away, and one that is pending was so before. -/
structure Store.Settles (before after : Store) : Prop where
  kept : ∀ orderNo order, before.orders.find? orderNo = some order →
    ∃ order', after.orders.find? orderNo = some order'
  pending : ∀ orderNo order, after.orders.find? orderNo = some order → order.status = .pending →
    before.orders.find? orderNo = some order

namespace Store.Settles

variable {a b c : Store} {order : Order}

theorem refl (store : Store) : store.Settles store where
  kept _ order hfound := ⟨order, hfound⟩
  pending _ _ hfound _ := hfound

theorem trans (h : a.Settles b) (h' : b.Settles c) : a.Settles c where
  kept orderNo order hfound := by
    obtain ⟨order', hfound'⟩ := h.kept orderNo order hfound
    exact h'.kept orderNo order' hfound'
  pending orderNo order hfound hpending :=
    h.pending orderNo order (h'.pending orderNo order hfound hpending) hpending

/-- Moving an order to a status that is not pending. -/
theorem of_move {status : OrderStatus}
    (horders : b.orders = a.orders.put (order.withStatus status)) (hstatus : status ≠ .pending) :
    a.Settles b where
  kept orderNo found hfound := by
    rw [horders, Table.find?_put]
    split
    · exact ⟨_, rfl⟩
    · exact ⟨found, hfound⟩
  pending orderNo found hfound hpending := by
    rw [horders] at hfound
    obtain ⟨-, rfl⟩ | ⟨-, hold⟩ := Table.found_of_put hfound
    · exact absurd hpending hstatus
    · exact hold

theorem of_closed (h : order.Closed a b) : a.Settles b :=
  of_move h.orders nofun

theorem of_paid (h : order.Paid a b) : a.Settles b :=
  of_move (congrArg Store.orders h.store) nofun

theorem hasOrderOf (h : a.Settles b) {task : Task} (htask : a.HasOrderOf task) :
    b.HasOrderOf task := by
  obtain ⟨orderNo, order, hclose, hfound⟩ := htask
  obtain ⟨order', hfound'⟩ := h.kept orderNo order hfound
  exact ⟨orderNo, order', hclose, hfound'⟩

/-- An order that is not pending any more stays so. -/
theorem not_pending (h : a.Settles b) {orderNo : OrderNo}
    (hbefore : ∀ order, a.orders.find? orderNo = some order → order.status ≠ .pending)
    (order : Order) (hfound : b.orders.find? orderNo = some order) : order.status ≠ .pending :=
  fun hpending => hbefore order (h.pending orderNo order hfound hpending) hpending

end Store.Settles

/-- What closing some orders, one after the other, makes of a store. -/
inductive Store.Closings : Store → Store → Prop
  | nil (store : Store) : Closings store store
  | cons {order : Order} {before middle after : Store} (h : order.Closed before middle)
    (hrest : Closings middle after) : Closings before after

namespace Store.Closings

variable {a b c : Store} {order : Order}

theorem of_closed (h : order.Closed a b) : a.Closings b := .cons h (.nil b)

theorem trans (h : a.Closings b) (h' : b.Closings c) : a.Closings c := by
  induction h with
  | nil => exact h'
  | cons hclosed _ ih => exact .cons hclosed (ih h')

theorem settles (h : a.Closings b) : a.Settles b := by
  induction h with
  | nil store => exact .refl store
  | cons hclosed _ ih => exact (Settles.of_closed hclosed).trans ih

/-- **Closing orders only cancels them.** They stay where they are, and there are no others. -/
theorem cancels (h : a.Closings b) :
    ∃ f : Order → Order, b.orders.rows = a.orders.rows.map f ∧
      ∀ order ∈ a.orders.rows, f order = order ∨ f order = order.withStatus .cancelled := by
  induction h with
  | nil store => exact ⟨id, (List.map_id _).symm, fun order _ => .inl rfl⟩
  | @cons closed before middle after hclosed _ ih =>
    obtain ⟨f, hafter, hf⟩ := ih
    let cancel (order : Order) : Order :=
      if order.orderNo = closed.orderNo then order.withStatus .cancelled else order
    have hmiddle : middle.orders.rows = before.orders.rows.map cancel := hclosed.rows
    refine ⟨f ∘ cancel, by rw [hafter, hmiddle, List.map_map], fun order hmem => ?_⟩
    have hcancel : cancel order = order ∨ cancel order = order.withStatus .cancelled := by
      by_cases hno : order.orderNo = closed.orderNo
      · exact .inr (if_pos hno)
      · exact .inl (if_neg hno)
    have hlater := hf (cancel order) (hmiddle ▸ List.mem_map_of_mem hmem)
    rw [Function.comp_apply]
    rcases hcancel with hcancel | hcancel
    · rwa [hcancel] at hlater ⊢
    · rw [hcancel] at hlater ⊢
      rcases hlater with hlater | hlater
      · exact .inr hlater
      · exact .inr (hlater.trans rfl)

end Store.Closings

namespace Expiry

variable {seed : Store} {world : World}

/-- None of the orders that some entries of the queue are for is pending. -/
def NonePending (store : Store) (entries : List QueuedTask) : Prop :=
  ∀ entry ∈ entries, ∀ orderNo order, entry.task.closes orderNo = true →
    store.orders.find? orderNo = some order → order.status ≠ .pending

/-! ### The worker -/

/-- **A task for an order that is there is done at the first attempt.** -/
theorem run_runTask (hcalm : world.Calm) (hsolvent : Store.Solvent seed world.store)
    (hfits : seed.Fits) {task : Task} (htask : world.store.HasOrderOf task) (now : Instant) :
    ∃ store, (runTask task now).run world = (.ok true, { world with store }) ∧
      Store.Solvent seed store ∧ world.store.Closings store ∧
      ∀ orderNo order, task.closes orderNo = true → store.orders.find? orderNo = some order →
        order.status ≠ .pending := by
  obtain ⟨orderNo, order, rfl, hfound⟩ := htask
  obtain ⟨outcome, store, hclose, hends⟩ := run_close hcalm hsolvent hfits hfound now
  have hhandle : handle (Task.closeOrder orderNo) now = close orderNo now := by
    rw [handle, Task.closeOrder, ClosePayload.ofText?_text]
  have hattempt : (handle (Task.closeOrder orderNo) now).attempt.run world =
      (.ok (.ok outcome), { world with store }) := by
    rw [hhandle, Program.run_attempt, hclose]
  have hattempts : runTask (Task.closeOrder orderNo) now =
      handleWithin (Task.closeOrder orderNo) now 3 := rfl
  have hrun : (runTask (Task.closeOrder orderNo) now).run world =
      (.ok true, { world with store }) := by
    rw [hattempts, handleWithin, Program.run_bind hattempt]
    rfl
  refine ⟨store, hrun, ?_⟩
  rcases hends with ⟨-, -, hclosed, hlater⟩ | ⟨hstatus, rfl⟩
  · refine ⟨hsolvent.closed hlater hclosed, .of_closed hclosed, ?_⟩
    intro no found hcloses hstored
    obtain rfl := Task.closes_closeOrder_iff.1 hcloses
    obtain rfl := Table.key_of_find? hfound
    rw [hclosed.found_after, Option.some.injEq] at hstored
    subst hstored
    show OrderStatus.cancelled ≠ .pending
    decide
  · refine ⟨hsolvent, .nil _, ?_⟩
    intro no found hcloses hstored
    obtain rfl := Task.closes_closeOrder_iff.1 hcloses
    rw [hfound, Option.some.injEq] at hstored
    exact hstored ▸ hstatus

/-- **The worker does every task that it is given.** -/
theorem run_runTasks (hcalm : world.Calm) (hsolvent : Store.Solvent seed world.store)
    (hfits : seed.Fits) (now : Instant) (report : WorkerReport) (entries : List QueuedTask)
    (hentries : ∀ entry ∈ entries, world.store.HasOrderOf entry.task) :
    ∃ store, (runTasks now report entries).run world =
        (.ok ⟨report.processed + entries.length, report.failed⟩, { world with store }) ∧
      Store.Solvent seed store ∧ world.store.Closings store ∧ NonePending store entries := by
  induction entries generalizing world report with
  | nil => exact ⟨world.store, rfl, hsolvent, .nil _, nofun⟩
  | cons entry rest ih =>
    obtain ⟨hentry, hrest⟩ := List.forall_mem_cons.1 hentries
    obtain ⟨store, hrun, hsolvent', hclosings, hdone⟩ :=
      run_runTask hcalm hsolvent hfits hentry now
    obtain ⟨store', hrun', hsolvent'', hclosings', hdone'⟩ :=
      @ih { world with store } ⟨hcalm.outages, hcalm.races⟩ hsolvent' (report.count true)
        fun entry hmem => hclosings.settles.hasOrderOf (hrest entry hmem)
    refine ⟨store', ?_, hsolvent'', hclosings.trans hclosings', ?_⟩
    · rw [runTasks, Program.run_bind hrun, hrun']
      simp only [WorkerReport.count, if_true, List.length_cons]
      rw [Nat.add_assoc, Nat.add_comm 1]
    · intro other hmem orderNo order hcloses
      rcases List.mem_cons.1 hmem with rfl | hmem
      · -- The order of the first task was settled then, and stays so.
        apply hclosings'.settles.not_pending
        intro order hfound
        exact hdone orderNo order hcloses hfound
      · exact hdone' other hmem orderNo order hcloses

/-- **The worker does every task that is due**, none of them in vain, and the other tasks go on
waiting. -/
theorem run_runDue (hcalm : world.Calm) (hsolvent : Store.Solvent seed world.store)
    (hfits : seed.Fits) (deadline now : Instant)
    (hentries : ∀ entry ∈ world.queue.entries, world.store.HasOrderOf entry.task) :
    ∃ store, (runDue deadline now).run world = (.ok ⟨(world.queue.due deadline).length, 0⟩,
        { world with store, queue := world.queue.waiting deadline }) ∧
      Store.Solvent seed store ∧ world.store.Closings store ∧
      NonePending store (world.queue.due deadline) := by
  have hserve : world.serve (.takeDue deadline) = (.ok (.ok (world.queue.due deadline)),
      { world with queue := world.queue.waiting deadline }) := rfl
  have hdue : ∀ entry ∈ world.queue.due deadline, world.store.HasOrderOf entry.task :=
    fun entry hmem => hentries entry (Queue.mem_due.1 hmem).1
  obtain ⟨store, hrun, hends⟩ := @run_runTasks seed { world with
    queue := world.queue.waiting deadline } ⟨hcalm.outages, hcalm.races⟩ hsolvent hfits now ⟨0, 0⟩
    (world.queue.due deadline) hdue
  refine ⟨store, ?_, hends⟩
  rw [runDue, Program.run_bind (Program.run_perform hcalm hserve)]
  simp only [hrun, Nat.zero_add]

end Expiry

end OrderDesk
