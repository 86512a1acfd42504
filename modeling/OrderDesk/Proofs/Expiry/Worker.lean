import OrderDesk.Proofs.Expiry.Attempts
import OrderDesk.Proofs.Expiry.Tasks

/-!
# The worker goes on after a task that fails

The tasks that are due are taken out of the queue before the first of them is carried out, so what
the worker does not get to is lost. Whatever the store holds and whatever calls fail, the worker gets
to all of them and counts each as done or as failed, unless it meets one for which a sum does not
fit (`Expiry.runAmid_runTasks`). A task that is refused changes nothing: the pass ends just as one
without it, with one more that has failed (`Expiry.run_runTasks_of_refused`). The main result is
`Expiry.report_of_runDue`.

A sum that does not fit is no failure of one task. It stops the worker, and the tasks after it are
neither carried out nor waiting any more (`Expiry.stopped_by_first_task`).
-/

namespace OrderDesk

/-- The world when the tasks that are due have been taken out of the queue. -/
def World.drained (world : World) (deadline : Instant) : World :=
  { world with queue := world.queue.waiting deadline }

/-- Two worlds that differ in their outages only. -/
theorem World.eq_of_withOutages {world after : World} {store : Store}
    (h : { after with outages := [] } = { world with store, outages := [] }) :
    after = { world with store, outages := after.outages } := by
  cases after
  cases h
  rfl

namespace Expiry

/-! ### One task -/

/-- A task has been carried out as foretold: done, given up with nothing changed, or stopped. -/
inductive Fate.Reports (task : Task) (world : World) : Fate → Except Failure Bool × World → Prop
  | closed {order : Order} {store : Store} (hcloses : task.closes order.orderNo)
      (hclosed : order.Closed world.store store) :
    Reports task world (.ends .cancelled) (.ok true, { world with store })
  | left {outcome : CloseOutcome} (h : outcome ≠ .cancelled) :
    Reports task world (.ends outcome) (.ok true, world)
  | refused : Reports task world .refused (.ok false, world)
  | overflows : Reports task world .overflows (.error (.stopped .addition), world)

variable {world : World}

theorem Fate.Reports.eq_of_refused {task : Task} {ending : Except Failure Bool × World}
    (h : Fate.refused.Reports task world ending) : ending = (.ok false, world) := by
  cases h with
  | refused => rfl

theorem Fate.Reports.eq_of_overflows {task : Task} {ending : Except Failure Bool × World}
    (h : Fate.overflows.Reports task world ending) :
    ending = (.error (.stopped .addition), world) := by
  cases h with
  | overflows => rfl

/-- The worker is told what its handling tells of a task. -/
theorem Fate.Tells.reports {fate : Fate} {task : Task}
    {ending : Except Failure CloseOutcome × World}
    (h : fate.Tells (fun orderNo => ClosePayload.ofText? task.payload = some ⟨orderNo⟩) world ending)
    (hkind : task.kind = Task.closeKind) : fate.Reports task world (verdict ending) := by
  cases h with
  | cancelled hpayload hclosed => exact .closed (Task.closes_iff.2 ⟨hkind, hpayload⟩) hclosed
  | left hother => exact .left hother
  | refused error => exact .refused
  | overflows => exact .overflows

theorem taskFate_of_kind {task : Task} (hkind : task.kind = Task.closeKind) (store : Store) :
    taskFate store task = handleFate store task := if_pos hkind

/-- A task is refused that is of another kind, that cannot be read or whose order is not there. -/
theorem taskFate_of_absent {store : Store} {task : Task}
    (h : ∀ orderNo, task.closes orderNo → store.orders.find? orderNo = none) :
    taskFate store task = .refused := by
  by_cases hkind : task.kind = Task.closeKind
  · rw [taskFate_of_kind hkind, handleFate]
    cases hpayload : ClosePayload.ofText? task.payload with
    | none => rfl
    | some payload =>
      have hcloses : task.closes payload.orderNo := Task.closes_iff.2 ⟨hkind, hpayload⟩
      simp only [closeFate, h _ hcloses]
  · exact if_neg hkind

/-- **Carrying out a task ends as foretold**, whatever the store holds. -/
theorem run_runTask_reports (hcalm : world.Calm) (task : Task) (now : Instant) :
    (taskFate world.store task).Reports task world ((runTask task now).run world) := by
  by_cases hkind : task.kind = Task.closeKind
  · rw [taskFate_of_kind hkind, run_runTask_eq_verdict hcalm hkind]
    exact (run_handle_tells hcalm task now).reports hkind
  · rw [taskFate, if_neg hkind, runTask, if_neg hkind]
    exact .refused

/-- Whatever calls fail, a task is counted and leaves at most another store, or it stops the worker
because a sum does not fit. -/
theorem runAmid_runTask_ends (hcalm : world.Calm) (task : Task) (now : Instant)
    (faults : List Bool) :
    (∃ done store, ((runTask task now).runAmid faults world).1 = (.ok done, { world with store })) ∨
      taskFate world.store task = .overflows ∧
        ((runTask task now).runAmid faults world).1 = (.error (.stopped .addition), world) := by
  by_cases hkind : task.kind = Task.closeKind
  · obtain hverdict | ⟨-, hgiven⟩ := runAmid_runTask_cases hcalm hkind now faults
    · have hreports := run_runTask_reports hcalm task now
      rw [run_runTask_eq_verdict hcalm hkind, ← hverdict] at hreports
      generalize ((runTask task now).runAmid faults world).1 = ending at hreports
      generalize taskFate world.store task = fate at hreports
      cases hreports with
      | closed => exact .inl ⟨true, _, rfl⟩
      | left => exact .inl ⟨true, world.store, rfl⟩
      | refused => exact .inl ⟨false, world.store, rfl⟩
      | overflows => exact .inr ⟨rfl, rfl⟩
    · exact .inl ⟨false, world.store, hgiven⟩
  · rw [runAmid_runTask_of_kind hkind]
    exact .inl ⟨false, world.store, rfl⟩

/-! ### Some tasks -/

namespace WorkerReport

/-- How many tasks a report tells of. -/
def total (report : WorkerReport) : Nat := report.processed + report.failed

@[simp] theorem total_count (report : WorkerReport) (done : Bool) :
    (report.count done).total = report.total + 1 := by
  cases done <;> simp only [count, total, Bool.false_eq_true, if_true, if_false] <;> omega

theorem count_comm (report : WorkerReport) (a b : Bool) :
    (report.count a).count b = (report.count b).count a := by
  cases a <;> cases b <;> rfl

end WorkerReport

variable {now : Instant}

/-- **The worker counts every task**, whatever calls fail, unless a sum does not fit for one. -/
theorem runAmid_runTasks (hcalm : world.Calm) (report : WorkerReport) (entries : List QueuedTask)
    (faults : List Bool) :
    (∃ report' store, ((runTasks now report entries).runAmid faults world).1 =
        (.ok report', { world with store }) ∧
        report'.total = report.total + entries.length) ∨
      ∃ entry ∈ entries, ∃ store, taskFate store entry.task = .overflows ∧
        ((runTasks now report entries).runAmid faults world).1 =
          (.error (.stopped .addition), { world with store }) := by
  induction entries generalizing world report faults with
  | nil => exact .inl ⟨report, world.store, rfl, rfl⟩
  | cons entry rest ih =>
    rw [runTasks]
    cases hrun : (runTask entry.task now).runAmid faults world with
    | mk ending left =>
      have hends := runAmid_runTask_ends hcalm entry.task now faults
      rw [hrun] at hends
      rcases hends with ⟨done, store, rfl⟩ | ⟨hfate, rfl⟩
      · rw [Program.runAmid_bind_of_ok hrun]
        have hcalm' : World.Calm { world with store } := ⟨hcalm.outages, hcalm.races⟩
        rcases ih hcalm' (report.count done) left with
          ⟨report', store', hrest, htotal⟩ | ⟨other, hmem, store', hfate, hrest⟩
        · refine .inl ⟨report', store', hrest, ?_⟩
          rw [htotal, WorkerReport.total_count, List.length_cons]
          omega
        · exact .inr ⟨other, List.mem_cons_of_mem entry hmem, store', hfate, hrest⟩
      · rw [Program.runAmid_bind_of_error hrun]
        exact .inr ⟨entry, List.mem_cons_self, world.store, hfate, rfl⟩

/-- Carrying out some tasks and then others is carrying out all of them. -/
theorem runTasks_append (report : WorkerReport) (front rest : List QueuedTask) :
    runTasks now report (front ++ rest) =
      runTasks now report front >>= fun report => runTasks now report rest := by
  induction front generalizing report with
  | nil => rfl
  | cons entry front ih =>
    simp only [List.cons_append, runTasks, ih, Program.bind_eq_andThen, Program.andThen_assoc]

/-- A task that was counted before the others is counted after them all the same. -/
theorem runTasks_count (report : WorkerReport) (done : Bool) (entries : List QueuedTask) :
    runTasks now (report.count done) entries =
      runTasks now report entries >>= fun report => pure (report.count done) := by
  induction entries generalizing report with
  | nil => rfl
  | cons entry rest ih =>
    simp only [runTasks, Program.bind_eq_andThen, Program.andThen_assoc]
    apply congrArg
    funext other
    rw [WorkerReport.count_comm, ih]
    rfl

/-- How a pass of the worker ends that has failed at one task more. -/
def withFailure (ending : Except Failure WorkerReport × World) : Except Failure WorkerReport × World :=
  (ending.1.map (·.count false), ending.2)

/-- **A task that is refused at its turn might as well not be there**, but for being counted. -/
theorem run_runTasks_of_refused {report found : WorkerReport} {after : World}
    {front back : List QueuedTask} {entry : QueuedTask} (hcalm : after.Calm)
    (hfront : (runTasks now report front).run world = (.ok found, after))
    (hfate : taskFate after.store entry.task = .refused) :
    (runTasks now report (front ++ entry :: back)).run world =
      withFailure ((runTasks now report (front ++ back)).run world) := by
  have hentry : (runTask entry.task now).run after = (.ok false, after) := by
    have hreports := run_runTask_reports hcalm entry.task now
    rw [hfate] at hreports
    exact hreports.eq_of_refused
  rw [runTasks_append, Program.run_bind hfront, runTasks_append, Program.run_bind hfront, runTasks,
    Program.run_bind hentry, runTasks_count, Program.bind_eq_andThen, Program.run_andThen]
  cases (runTasks now found back).run after with
  | mk ending left => cases ending <;> rfl

/-- A task for which a sum does not fit stops the worker at its turn. -/
theorem run_runTasks_of_overflows {report found : WorkerReport} {after : World}
    {front back : List QueuedTask} {entry : QueuedTask} (hcalm : after.Calm)
    (hfront : (runTasks now report front).run world = (.ok found, after))
    (hfate : taskFate after.store entry.task = .overflows) :
    (runTasks now report (front ++ entry :: back)).run world =
      (.error (.stopped .addition), after) := by
  have hentry : (runTask entry.task now).run after = (.error (.stopped .addition), after) := by
    have hreports := run_runTask_reports hcalm entry.task now
    rw [hfate] at hreports
    exact hreports.eq_of_overflows
  rw [runTasks_append, Program.run_bind hfront, runTasks]
  exact Program.run_bind_of_error hentry _

/-! ### The tasks that are due -/

/-- When the queue is up, a pass of the worker is what it makes of the tasks that are due, once they
are taken out. -/
theorem run_runDue_of_up (hqueue : world.isDown .takeDue = false) (deadline now : Instant) :
    (runDue deadline now).run world =
      (runTasks now ⟨0, 0⟩ (world.queue.due deadline)).run (world.drained deadline) := by
  have hanswer : world.answer (.takeDue deadline) =
      (.ok (.ok (world.queue.due deadline)), world.drained deadline) :=
    World.answerAlone_of_up hqueue
  rw [runDue, Program.bind_eq_andThen, Program.perform, Program.andThen, Program.run, hanswer]
  rfl

/-- **The worker counts every task that is due**, whatever services other than the queue are down,
unless a sum does not fit for one. -/
theorem run_runDue_amid_outages (hraces : world.races = [])
    (hqueue : world.isDown .takeDue = false) (deadline now : Instant) :
    (∃ report store outages, (runDue deadline now).run world =
        (.ok report, { world.drained deadline with store, outages }) ∧
        report.total = (world.queue.due deadline).length) ∨
      ∃ entry ∈ world.queue.due deadline, ∃ store outages,
        taskFate store entry.task = .overflows ∧ (runDue deadline now).run world =
          (.error (.stopped .addition), { world.drained deadline with store, outages }) := by
  rw [run_runDue_of_up hqueue]
  -- The outages make for a pattern of failures, in a world without them.
  have hdrained : (world.drained deadline).races = [] := hraces
  obtain ⟨faults, hfaults⟩ :=
    Program.exists_runAmid (runTasks now ⟨0, 0⟩ (world.queue.due deadline)) hdrained
  have hcalm : World.Calm { world.drained deadline with outages := [] } := ⟨rfl, hraces⟩
  have hcounts := @runAmid_runTasks _ now hcalm ⟨0, 0⟩ (world.queue.due deadline) faults
  rw [hfaults] at hcounts
  cases hrun : (runTasks now ⟨0, 0⟩ (world.queue.due deadline)).run (world.drained deadline) with
  | mk ending after =>
    rw [hrun] at hcounts
    rcases hcounts with ⟨report, store, hending, htotal⟩ | ⟨entry, hmem, store, hfate, hending⟩
    · obtain ⟨rfl, hafter⟩ := Prod.mk.inj hending
      refine .inl ⟨report, store, after.outages, ?_, htotal.trans (Nat.zero_add _)⟩
      exact congrArg (Prod.mk _) (World.eq_of_withOutages hafter)
    · obtain ⟨rfl, hafter⟩ := Prod.mk.inj hending
      refine .inr ⟨entry, hmem, store, after.outages, hfate, ?_⟩
      exact congrArg (Prod.mk _) (World.eq_of_withOutages hafter)

/-- **The worker reports on every task that is due.** When the queue gives out its tasks, the pass
ends with a report that counts all of them, whatever the store holds and whatever other services are
down, unless a sum does not fit for one of them. Where no service is down, each task ends at its turn
as foretold: one that is refused changes nothing and the pass ends as it does without it, with one
more that has failed; one for which a sum does not fit stops the pass. A task that names no order that
is there is refused. -/
theorem report_of_runDue (hraces : world.races = []) (deadline now : Instant) :
    (world.isDown .takeDue = false →
      (∃ report store outages, (runDue deadline now).run world =
          (.ok report, { world.drained deadline with store, outages }) ∧
          report.processed + report.failed = (world.queue.due deadline).length) ∨
        ∃ entry ∈ world.queue.due deadline, ∃ store outages,
          taskFate store entry.task = .overflows ∧ (runDue deadline now).run world =
            (.error (.stopped .addition), { world.drained deadline with store, outages })) ∧
    (world.outages = [] →
      ∀ front entry back report after, world.queue.due deadline = front ++ entry :: back →
        (runTasks now ⟨0, 0⟩ front).run (world.drained deadline) = (.ok report, after) →
        (taskFate after.store entry.task).Reports entry.task after
            ((runTask entry.task now).run after) ∧
          ((∀ orderNo, entry.task.closes orderNo → after.store.orders.find? orderNo = none) →
            taskFate after.store entry.task = .refused) ∧
          (taskFate after.store entry.task = .refused → (runDue deadline now).run world =
            withFailure ((runTasks now ⟨0, 0⟩ (front ++ back)).run (world.drained deadline))) ∧
          (taskFate after.store entry.task = .overflows →
            (runDue deadline now).run world = (.error (.stopped .addition), after))) := by
  constructor
  · intro hqueue
    exact run_runDue_amid_outages hraces hqueue deadline now
  · intro houtages front entry back report after hdue hfront
    have hcalm : world.Calm := ⟨houtages, hraces⟩
    have hafter : after.Calm := by
      have hdrained : (world.drained deadline).Calm := ⟨houtages, hraces⟩
      have hkept := hdrained.run (runTasks now ⟨0, 0⟩ front)
      rwa [hfront] at hkept
    rw [run_runDue_of_up (hcalm.isDown .takeDue), hdue]
    exact ⟨run_runTask_reports hafter entry.task now, taskFate_of_absent,
      run_runTasks_of_refused hafter hfront, run_runTasks_of_overflows hafter hfront⟩

/-- Tasks that are all due, in the order of their times, are handed out as they came. -/
theorem due_of_sorted {entries : List QueuedTask} {deadline : Instant}
    (hdue : ∀ entry ∈ entries, entry.dueAt.isAtMost deadline)
    (hsorted : entries.Pairwise fun a b => a.dueAt.isAtMost b.dueAt) :
    (⟨entries⟩ : Queue).due deadline = entries := by
  rw [Queue.due, List.filter_eq_self.2 hdue, List.mergeSort_of_pairwise hsorted]

/-- A renewal that is pending and has taken so much of a gift balance. -/
def pendingRenewal (orderNo : OrderNo) (user : UserId) (gift : Amount) : Order :=
  ⟨orderNo, user, none, .renewal, 1, 300, 0, none, 0, gift, 0, 300 - gift, 3, "card", .pending, false,
    some 7, none, ⟨0, 0⟩⟩

/-- Tasks of which the second cannot be read, and others of another kind, for an order that is not
there, for an order of a user who is not there, and for one that can be closed. -/
def mixedTasks : List QueuedTask :=
  [⟨⟨"remind", "A", 3⟩, ⟨0, 0⟩⟩, ⟨⟨Task.closeKind, "A", 3⟩, ⟨0, 0⟩⟩, ⟨.closeOrder "C", ⟨0, 0⟩⟩,
    ⟨.closeOrder "B", ⟨0, 0⟩⟩, ⟨.closeOrder "A", ⟨0, 0⟩⟩]

/-- An order that can be closed and one of a user who is not there, with tasks of all sorts. -/
def mixed : World :=
  .calm
    { Store.empty with
      users := .ofList [⟨1, 20⟩]
      orders := .ofList [pendingRenewal "A" 1 30, pendingRenewal "B" 9 30] }
    ⟨mixedTasks⟩ ⟨0, 0⟩

/-- Four of five tasks fail. The third names an order that is not there, and the others end as if it
had not been there. -/
theorem report_of_mixed_tasks :
    mixed.races = [] ∧ mixed.isDown .takeDue = false ∧ mixed.outages = [] ∧
      mixed.queue.due ⟨900, 0⟩ = mixedTasks.take 2 ++ ⟨.closeOrder "C", ⟨0, 0⟩⟩ :: mixedTasks.drop 3 ∧
      (runTasks ⟨900, 0⟩ ⟨0, 0⟩ (mixedTasks.take 2)).run (mixed.drained ⟨900, 0⟩) =
        (.ok ⟨0, 2⟩, mixed.drained ⟨900, 0⟩) ∧
      (∀ orderNo, (Task.closeOrder "C").closes orderNo →
        (mixed.drained ⟨900, 0⟩).store.orders.find? orderNo = none) ∧
      (runDue ⟨900, 0⟩ ⟨900, 0⟩).run mixed = withFailure
        ((runTasks ⟨900, 0⟩ ⟨0, 0⟩ (mixedTasks.take 2 ++ mixedTasks.drop 3)).run
          (mixed.drained ⟨900, 0⟩)) ∧
      ((runDue ⟨900, 0⟩ ⟨900, 0⟩).run mixed).1 = .ok ⟨1, 4⟩ := by
  have hdue : mixed.queue.due ⟨900, 0⟩ =
      mixedTasks.take 2 ++ ⟨.closeOrder "C", ⟨0, 0⟩⟩ :: mixedTasks.drop 3 :=
    due_of_sorted (by decide) (by decide)
  have hfront : (runTasks ⟨900, 0⟩ ⟨0, 0⟩ (mixedTasks.take 2)).run (mixed.drained ⟨900, 0⟩) =
      (.ok ⟨0, 2⟩, mixed.drained ⟨900, 0⟩) := by decide +kernel
  have habsent : ∀ orderNo, (Task.closeOrder "C").closes orderNo →
      (mixed.drained ⟨900, 0⟩).store.orders.find? orderNo = none := by
    intro orderNo hcloses
    obtain rfl := Task.closes_closeOrder_iff.1 hcloses
    decide +kernel
  refine ⟨rfl, rfl, rfl, hdue, hfront, habsent, ?_, ?_⟩
  · obtain ⟨-, hrefused, hpass, -⟩ :=
      (@report_of_runDue mixed rfl ⟨900, 0⟩ ⟨900, 0⟩).2 rfl _ _ _ _ _ hdue hfront
    exact hpass (hrefused habsent)
  · rw [run_runDue_of_up rfl, hdue]
    decide +kernel

/-- A user with the greatest gift balance, an order that has taken one more from it and an order that
has taken nothing, each with its task. -/
def brimful : World :=
  .calm
    { Store.empty with
      users := .ofList [⟨1, 9223372036854775807⟩]
      orders := .ofList [pendingRenewal "A" 1 1, pendingRenewal "B" 1 0] }
    ⟨[⟨.closeOrder "A", ⟨0, 0⟩⟩, ⟨.closeOrder "B", ⟨0, 0⟩⟩]⟩ ⟨0, 0⟩

/-- **One task can stop the worker.** Two tasks are due. The first gives back more than fits, so that
the pass ends without a report; the second, which could be done, is lost with it. -/
theorem stopped_by_first_task :
    brimful.queue.due ⟨900, 0⟩ = [⟨.closeOrder "A", ⟨0, 0⟩⟩, ⟨.closeOrder "B", ⟨0, 0⟩⟩] ∧
      (runDue ⟨900, 0⟩ ⟨900, 0⟩).run brimful =
        (.error (.stopped .addition), brimful.drained ⟨900, 0⟩) ∧
      (brimful.drained ⟨900, 0⟩).queue = .empty ∧
      ((runTasks ⟨900, 0⟩ ⟨0, 0⟩ [⟨.closeOrder "B", ⟨0, 0⟩⟩]).run (brimful.drained ⟨900, 0⟩)).1 =
        .ok ⟨1, 0⟩ := by
  have hdue : brimful.queue.due ⟨900, 0⟩ =
      [⟨.closeOrder "A", ⟨0, 0⟩⟩, ⟨.closeOrder "B", ⟨0, 0⟩⟩] := due_of_sorted (by decide) (by decide)
  have hqueue : brimful.isDown .takeDue = false := rfl
  rw [run_runDue_of_up hqueue, hdue]
  decide +kernel

end Expiry

end OrderDesk
