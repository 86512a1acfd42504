import OrderDesk.Proofs.Expiry.Attempts
import OrderDesk.Proofs.Expiry.Tasks

/-!
# An order is closed once, however often it is tried

The worker tries a task again when an attempt at it fails, and the queue may hand out a task more
than once. Neither closes an order twice. Whatever calls fail, attempts at a task fail and change
nothing up to the one that cancels the order; that one changes the store just as `Order.Closed` says
and is the last (`Expiry.ClosesOnce`). From then on the order is told to be closed already, any
number of times (`Expiry.runAmid_handlings_of_cancelled`). Failures that leave one attempt of the
task alone make no difference to how it ends. The main result is `Expiry.closed_once`.

A sum that does not fit stops the worker; that is told apart.
-/

namespace OrderDesk

/-- Closing an order changes the store. -/
theorem Order.Closed.ne {order : Order} {before after : Store} (h : order.Closed before after) :
    after ≠ before := by
  rintro rfl
  have hstatus : order.withStatus .cancelled = order :=
    Option.some.inj (h.found_after.symm.trans h.found)
  have hpending := h.pending
  rw [← hstatus] at hpending
  cases hpending

/-- Closing an order leaves alone those that are paid. -/
theorem Order.Closed.find?_of_paid {order paid : Order} {before after : Store} {orderNo : OrderNo}
    (h : order.Closed before after) (hfound : before.orders.find? orderNo = some paid)
    (hpaid : paid.status = .paid) : after.orders.find? orderNo = some paid := by
  rw [h.orders, Table.find?_put_of_ne]
  · exact hfound
  · rintro rfl
    obtain rfl := Option.some.inj (h.found.symm.trans hfound)
    cases h.pending.symm.trans hpaid

namespace Expiry

/-! ### What attempts may do -/

/-- An attempt that has cancelled an order. -/
def cancels : Except OrderError CloseOutcome → Bool
  | .ok .cancelled => true
  | _ => false

theorem countP_cancels_of_failed {ended : List (Except OrderError CloseOutcome)}
    (h : ∀ e ∈ ended, Failed e) : ended.countP cancels = 0 := by
  rw [List.countP_eq_zero]
  intro e hmem
  obtain ⟨error, rfl⟩ := h e hmem
  exact Bool.false_ne_true

/-- Attempts at a task have led from one world to another. One of them at most has cancelled an
order, and the store has changed just if one has: it is the order of the task that was closed. -/
structure ClosesOnce (task : Task) (world : World) (ended : List (Except OrderError CloseOutcome))
    (after : World) : Prop where
  rest : after = { world with store := after.store }
  once : ended.countP cancels ≤ 1
  changes : after.store ≠ world.store ↔ ended.countP cancels = 1
  closed : ended.countP cancels = 1 → ∃ order : Order, task.closes order.orderNo ∧
    order.Closed world.store after.store
  paid : ∀ orderNo order, world.store.orders.find? orderNo = some order → order.status = .paid →
    after.store.orders.find? orderNo = some order

namespace ClosesOnce

variable {task : Task} {world after : World} {ended : List (Except OrderError CloseOutcome)}

/-- Attempts none of which has cancelled an order. -/
theorem of_none (h : ended.countP cancels = 0) : ClosesOnce task world ended world where
  rest := rfl
  once := h ▸ Nat.zero_le 1
  changes := by simp [h]
  closed hone := by simp [h] at hone
  paid _ _ hfound _ := hfound

/-- Attempts one of which has cancelled an order. -/
theorem of_closed (h : ended.countP cancels = 1) {order : Order} {store : Store}
    (hcloses : task.closes order.orderNo) (hclosed : order.Closed world.store store) :
    ClosesOnce task world ended { world with store } where
  rest := rfl
  once := Nat.le_of_eq h
  changes := iff_of_true hclosed.ne h
  closed _ := ⟨order, hcloses, hclosed⟩
  paid _ _ hfound hpaid := hclosed.find?_of_paid hfound hpaid

end ClosesOnce

variable {task : Task} {world after : World} {now : Instant}

theorem countP_cancels_append {ended : List (Except OrderError CloseOutcome)}
    (h : ∀ e ∈ ended, Failed e) (last : Except OrderError CloseOutcome) :
    (ended ++ [last]).countP cancels = [last].countP cancels := by
  rw [List.countP_append, countP_cancels_of_failed h, Nat.zero_add]

/-- Attempts that failed up to one that ended as foretold. -/
theorem closesOnce_of_tells {fate : Fate} {outcome : CloseOutcome}
    {ended : List (Except OrderError CloseOutcome)} (hfailed : ∀ e ∈ ended, Failed e)
    (hkind : task.kind = Task.closeKind)
    (htells : fate.Tells (fun orderNo => ClosePayload.ofText? task.payload = some ⟨orderNo⟩) world
      (.ok outcome, after)) :
    ClosesOnce task world (ended ++ [.ok outcome]) after := by
  have hcount := countP_cancels_append hfailed (.ok outcome)
  cases htells with
  | cancelled hpayload hclosed =>
    exact .of_closed (hcount.trans rfl) (Task.closes_iff.2 ⟨hkind, hpayload⟩) hclosed
  | left hother =>
    refine .of_none (hcount.trans ?_)
    cases outcome with
    | cancelled => exact absurd rfl hother
    | alreadyClosed => rfl
    | alreadyPaid => rfl

/-- **Attempts that end close an order once at most.** -/
theorem Attempted.closesOnce (hcalm : world.Calm) (hkind : task.kind = Task.closeKind)
    {spared : Prop} {ended : List (Except OrderError CloseOutcome)}
    (h : Attempted task now world spared (.ok ended, after)) :
    ClosesOnce task world ended after := by
  generalize hending : (Except.ok ended, after) = ending at h
  cases h with
  | failed hfailed hrefused =>
    cases hending
    exact .of_none (countP_cancels_of_failed hfailed)
  | done hfailed hhandle =>
    cases hending
    have htells := run_handle_tells hcalm task now
    rw [hhandle] at htells
    exact closesOnce_of_tells hfailed hkind htells
  | stopped => cases hending

/-! ### Handling a task again -/

/-- Handles a task at some instants, one after the other, and tells each answer. -/
def handlings (task : Task) : List Instant → Program (List (Except OrderError CloseOutcome))
  | [] => return []
  | now :: later => do
    let answer ← (handle task now).attempt
    let answers ← handlings task later
    return answer :: answers

theorem handleFate_of_cancelled {store : Store} {order : Order} {orderNo : OrderNo}
    (hcloses : task.closes orderNo) (hfound : store.orders.find? orderNo = some order)
    (hcancelled : order.status = .cancelled) : handleFate store task = .ends .alreadyClosed := by
  obtain ⟨-, hpayload⟩ := Task.closes_iff.1 hcloses
  simp only [handleFate, closeFate, hpayload, hfound, hcancelled]

/-- One handling more before the others. -/
theorem runAmid_handlings_cons {answer : Except OrderError CloseOutcome}
    {answers : List (Except OrderError CloseOutcome)} {later : List Instant}
    {faults rest : List Bool}
    (h : (handle task now).attempt.runAmid faults world = ((.ok answer, world), rest))
    (hlater : ((handlings task later).runAmid rest world).1 = (.ok answers, after)) :
    ((handlings task (now :: later)).runAmid faults world).1 = (.ok (answer :: answers), after) := by
  rw [handlings, Program.runAmid_bind_of_ok h, Program.runAmid_bind_of_ok (Prod.ext hlater rfl)]
  rfl

/-- **A task whose order is cancelled changes nothing any more**, however often it is handled and
whatever calls fail. Each handling answers that the order is closed already, but for as many as there
are failures. -/
theorem runAmid_handlings_of_cancelled (hcalm : world.Calm) {order : Order} {orderNo : OrderNo}
    (hcloses : task.closes orderNo) (hfound : world.store.orders.find? orderNo = some order)
    (hcancelled : order.status = .cancelled) (instants : List Instant) (faults : List Bool) :
    ∃ answers, ((handlings task instants).runAmid faults world).1 = (.ok answers, world) ∧
      answers.length = instants.length ∧
      (∀ answer ∈ answers, answer = .ok .alreadyClosed ∨ Failed answer) ∧
      answers.countP (!Except.isOk ·) ≤ faults.count true := by
  induction instants generalizing faults with
  | nil => exact ⟨[], rfl, rfl, nofun, Nat.zero_le _⟩
  | cons now later ih =>
    have htry := Program.runAmid_attempt (handle task now) faults world
    rcases Program.runAmid_of_givesUp (handle_givesUp task now) hcalm faults with
      ⟨rest, hhandle, hcount⟩ | ⟨error, rest, hhandle, hcount⟩
    · have hrun : (handle task now).run world = (.ok .alreadyClosed, world) := by
        have htells := run_handle_tells hcalm task now
        rw [handleFate_of_cancelled hcloses hfound hcancelled] at htells
        exact htells.eq_of_alreadyClosed
      rw [hhandle, hrun] at htry
      obtain ⟨answers, hlater, hlength, hanswers, hfailed⟩ := ih rest
      refine ⟨.ok .alreadyClosed :: answers, runAmid_handlings_cons htry hlater,
        congrArg (· + 1) hlength, List.forall_mem_cons.2 ⟨.inl rfl, hanswers⟩, ?_⟩
      rw [List.countP_cons_of_neg (by decide), ← hcount]
      exact hfailed
    · rw [hhandle] at htry
      obtain ⟨answers, hlater, hlength, hanswers, hfailed⟩ := ih rest
      refine ⟨.error error :: answers, runAmid_handlings_cons htry hlater,
        congrArg (· + 1) hlength, List.forall_mem_cons.2 ⟨.inr ⟨error, rfl⟩, hanswers⟩, ?_⟩
      rw [List.countP_cons_of_pos rfl, ← hcount]
      exact Nat.succ_le_succ hfailed

/-! ### The main result -/

/-- Failures that leave one attempt of a task alone make no difference to how the task ends. -/
theorem runAmid_runTask_of_spared (hcalm : world.Calm) (hkind : task.kind = Task.closeKind)
    (now : Instant) {faults : List Bool} (hspared : faults.count true < max task.maxRetry 1) :
    ((runTask task now).runAmid faults world).1 = (runTask task now).run world := by
  rw [run_runTask_eq_verdict hcalm hkind]
  exact (runAmid_runTask_cases hcalm hkind now faults).resolve_right fun hfailed =>
    absurd hspared (Nat.not_lt.2 hfailed.1)

/-- A task whose attempts do not end is one whose handling adds up to what does not fit. -/
theorem runAmid_attempts_of_overflows (hcalm : world.Calm) (hkind : task.kind = Task.closeKind)
    (now : Instant) (faults : List Bool) :
    (∃ ended after, ((attempts task now).runAmid faults world).1 = (.ok ended, after) ∧
        ClosesOnce task world ended after) ∨
      handleFate world.store task = .overflows ∧
        ((attempts task now).runAmid faults world).1 = (.error (.stopped .addition), world) := by
  have hattempted := runAmid_attempts hcalm task now (max task.maxRetry 1) faults
  rw [← attempts] at hattempted
  cases hrun : ((attempts task now).runAmid faults world).1 with
  | mk ending after =>
    rw [hrun] at hattempted
    cases ending with
    | ok ended => exact .inl ⟨ended, after, rfl, hattempted.closesOnce hcalm hkind⟩
    | error failure =>
      cases hattempted with
      | stopped hhandle =>
        have htells := run_handle_tells hcalm task now
        rw [hhandle] at htells
        obtain ⟨hfate, rfl, rfl⟩ := htells.eq_of_stopped
        exact .inr ⟨hfate, rfl⟩

/-- **A task closes its order once, whatever calls fail and however often it is tried.** Carrying it
out is trying it. The attempts change the store just if one of them cancels the order of the task, at
most one does, and then the order is closed with all that it took. The exception is a sum that does
not fit. Fewer failures than attempts make no difference, and handling a task whose order is cancelled
changes nothing any more. -/
theorem closed_once (hcalm : world.Calm) (hkind : task.kind = Task.closeKind) (now : Instant)
    (faults : List Bool) :
    (runTask task now = attempts task now >>= fun ended => pure (ended.any Except.isOk)) ∧
    ((∃ ended after, ((attempts task now).runAmid faults world).1 = (.ok ended, after) ∧
        ((runTask task now).runAmid faults world).1 = (.ok (ended.any Except.isOk), after) ∧
        ClosesOnce task world ended after) ∨
      handleFate world.store task = .overflows ∧
        ((runTask task now).runAmid faults world).1 = (.error (.stopped .addition), world)) ∧
    (faults.count true < max task.maxRetry 1 →
      ((runTask task now).runAmid faults world).1 = (runTask task now).run world) ∧
    ∀ orderNo order, task.closes orderNo → world.store.orders.find? orderNo = some order →
      order.status = .cancelled → ∀ instants : List Instant,
        ∃ answers, ((handlings task instants).runAmid faults world).1 = (.ok answers, world) ∧
          answers.length = instants.length ∧
          (∀ answer ∈ answers, answer = .ok .alreadyClosed ∨ Failed answer) ∧
          answers.countP (!Except.isOk ·) ≤ faults.count true := by
  refine ⟨runTask_eq hkind now, ?_, runAmid_runTask_of_spared hcalm hkind now, ?_⟩
  · rw [runAmid_runTask hkind]
    obtain ⟨ended, after, hended, honce⟩ | ⟨hfate, hstopped⟩ :=
      runAmid_attempts_of_overflows hcalm hkind now faults
    · refine .inl ⟨ended, after, hended, ?_, honce⟩
      rw [hended, told]
    · refine .inr ⟨hfate, ?_⟩
      rw [hstopped, told]
  · intro orderNo order hcloses hfound hcancelled instants
    exact runAmid_handlings_of_cancelled hcalm hcloses hfound hcancelled instants faults

/-- A plan, a coupon and a gift balance, and a pending order that has taken something of each. -/
def awaiting : World :=
  .calm
    { Store.empty with
      plans := .ofList [⟨7, "basic", 300, .empty, 4, 0, true⟩]
      coupons := .ofList [⟨"HALF", .fixed 150, 5, 1, 1, []⟩]
      users := .ofList [⟨1, 20⟩]
      orders := .ofList [⟨"A", 1, none, .purchase, 1, 300, 0, some "HALF", 150, 30, 0, 120, 3, "card",
        .pending, true, some 7, none, ⟨0, 0⟩⟩] }
    .empty ⟨0, 0⟩

/-- The user is not found at the first attempt, the order not at the second; the third closes it. -/
theorem closed_once_at_third_attempt :
    awaiting.Calm ∧ (Task.closeOrder "A").kind = Task.closeKind ∧
      [false, true, true].count true < max (Task.closeOrder "A").maxRetry 1 ∧
      ((runTask (.closeOrder "A") ⟨900, 0⟩).runAmid [false, true, true] awaiting).1 =
        (runTask (.closeOrder "A") ⟨900, 0⟩).run awaiting ∧
      ∃ after, ClosesOnce (.closeOrder "A") awaiting
          [.error (.query .user (.down .findUser)), .error (.query .order (.down .getOrder)),
            .ok .cancelled] after ∧
        after.store.users.find? 1 = some ⟨1, 50⟩ := by
  have hcalm : awaiting.Calm := World.calm_calm _ _ _
  have hspared : [false, true, true].count true < max (Task.closeOrder "A").maxRetry 1 := by decide
  obtain ⟨-, ⟨ended, after, hended, -, honce⟩ | ⟨hover, -⟩, hsame, -⟩ :=
    closed_once hcalm (rfl : (Task.closeOrder "A").kind = _) ⟨900, 0⟩ [false, true, true]
  · have htrace : ((attempts (.closeOrder "A") ⟨900, 0⟩).runAmid [false, true, true] awaiting).1.1 =
        .ok [.error (.query .user (.down .findUser)), .error (.query .order (.down .getOrder)),
          .ok .cancelled] := by
      decide +kernel
    have hbalance : ((attempts (.closeOrder "A") ⟨900, 0⟩).runAmid [false, true, true]
        awaiting).1.2.store.users.find? 1 = some ⟨1, 50⟩ := by
      decide +kernel
    rw [hended] at htrace hbalance
    cases htrace
    exact ⟨hcalm, rfl, hspared, hsame hspared, after, honce, hbalance⟩
  · exact absurd hover (by decide +kernel)

end Expiry

end OrderDesk
