import OrderDesk.Proofs.Expiry.Close

/-!
# How work on a task ends, whatever the store holds

A store may hold any records, not only those that the desk makes: a balance below zero, a balance
or a number of units next to the end of its range, an order of a user who is not there. Working on a
task then ends in one of three ways: with an outcome, with a refusal that changes nothing, or with
an addition whose result does not fit, which stops the program. Which of them it is, is told by the
records alone (`Expiry.taskFate`).

So closing an order and handling a task end as foretold (`Expiry.run_closePending_tells`,
`Expiry.run_handle_tells`): a pending order is closed with all that it took or not at all.
-/

namespace OrderDesk.Expiry

/-! ### What is foretold -/

/-- How work on a task ends. -/
inductive Fate
  | ends (outcome : CloseOutcome)
  /-- It is refused, for one of the reasons that an order or a record may give. -/
  | refused
  /-- A sum does not fit. -/
  | overflows
  deriving DecidableEq

/-- Giving back what an order took of a gift balance. The user may be gone, the sum may not fit, and
a balance that is below zero is not written. -/
def refundFate (store : Store) (order : Order) : Fate :=
  if order.giftAmount ≤ 0 then .ends .cancelled
  else
    match store.users.find? order.userId with
    | none => .refused
    | some user =>
      if ¬Amount.Fits (user.giftAmount + order.giftAmount) then .overflows
      else if user.giftAmount + order.giftAmount < 0 then .refused
      else .ends .cancelled

/-- Giving a unit back to the plan of a purchase. A plan whose units are counted may have as many as
can be counted. -/
def unitFate (store : Store) (order : Order) : Fate :=
  match order.kind, order.planId with
  | .purchase, some id =>
    match store.plans.find? id with
    | none => .ends .cancelled
    | some plan =>
      if plan.isFinite ∧ ¬Amount.Fits (plan.inventory + 1) then .overflows else .ends .cancelled
  | _, _ => .ends .cancelled

/-- Closing an order that is pending. -/
def pendingFate (store : Store) (order : Order) : Fate :=
  match refundFate store order with
  | .ends _ => unitFate store order
  | fate => fate

/-- Closing the order under a number. -/
def closeFate (store : Store) (orderNo : OrderNo) : Fate :=
  match store.orders.find? orderNo with
  | none => .refused
  | some order =>
    match order.status with
    | .cancelled => .ends .alreadyClosed
    | .paid => .ends .alreadyPaid
    | .pending => pendingFate store order

/-- Handling a task, whatever its kind. -/
def handleFate (store : Store) (task : Task) : Fate :=
  match ClosePayload.ofText? task.payload with
  | none => .refused
  | some payload => closeFate store payload.orderNo

/-- Carrying out a task. -/
def taskFate (store : Store) (task : Task) : Fate :=
  if task.kind = Task.closeKind then handleFate store task else .refused

/-- Work has ended as foretold in a world. An order is cancelled together with the return of all
that it took, and it is one that the work is about; anything else changes nothing. -/
inductive Fate.Tells (about : OrderNo → Prop) (world : World) :
    Fate → Except Failure CloseOutcome × World → Prop
  | cancelled {order : Order} {store : Store} (habout : about order.orderNo)
      (hclosed : order.Closed world.store store) :
    Tells about world (.ends .cancelled) (.ok .cancelled, { world with store })
  | left {outcome : CloseOutcome} (h : outcome ≠ .cancelled) :
    Tells about world (.ends outcome) (.ok outcome, world)
  | refused (error : OrderError) :
    Tells about world .refused (.error (.refused error), world)
  | overflows : Tells about world .overflows (.error (.stopped .addition), world)

namespace Fate.Tells

variable {fate : Fate} {about : OrderNo → Prop} {world after : World}

/-- Refused work has changed nothing. -/
theorem eq_of_refused {error : OrderError}
    (h : fate.Tells about world (.error (.refused error), after)) : after = world := by
  cases h with
  | refused => rfl

theorem eq_of_stopped {overflow : Overflow}
    (h : fate.Tells about world (.error (.stopped overflow), after)) :
    fate = .overflows ∧ overflow = .addition ∧ after = world := by
  cases h with
  | overflows => exact ⟨rfl, rfl, rfl⟩

theorem eq_of_alreadyClosed {ending : Except Failure CloseOutcome × World}
    (h : (Fate.ends .alreadyClosed).Tells about world ending) :
    ending = (.ok .alreadyClosed, world) := by
  cases h with
  | left => rfl

end Fate.Tells

/-! ### Writes that do not go through -/

variable {store : Store} {order : Order} {orderNo : OrderNo} {now : Instant} {refund : Refund}

/-- A balance that is below zero is not written, so the commit is refused. -/
theorem commit_closeWrites_of_neg (hfound : store.orders.find? orderNo = some order)
    (hpending : order.status = .pending) {user : User}
    (huser : store.users.find? order.userId = some user) (hbefore : user.giftAmount = refund.before)
    (hneg : refund.after < 0) :
    ∃ error, store.commit (closeWrites order orderNo now (some refund)) =
      .error (.refused error) := by
  obtain rfl := Table.key_of_find? hfound
  let moved : Store :=
    { store with orders := store.orders.put { order with status := .cancelled } }
  have hmove : store.write (.move order.orderNo .pending .cancelled) = .ok moved :=
    Store.write_move_eq_ok_iff.2 ⟨order, hfound, hpending, rfl, rfl⟩
  have hset : moved.write (.setGiftBalance order.userId refund.before refund.after) =
      .error (.refused (.balanceNegative user.id refund.after)) := by
    have hrebalance : user.rebalance refund.before refund.after =
        .error (.balanceNegative user.id refund.after) := by
      rw [User.rebalance, if_neg (not_not_intro hbefore), if_pos hneg]
    show (match store.users.find? order.userId with | none => _ | some user => _) = _
    rw [huser]
    show ((user.rebalance refund.before refund.after).mapError _ >>= _) = _
    rw [hrebalance]
    rfl
  refine ⟨.balanceNegative user.id refund.after, ?_⟩
  rw [closeWrites, refundWrites, List.cons_append, List.cons_append, Store.commit_cons, hmove]
  show moved.commit _ = _
  rw [List.cons_append, List.cons_append, Store.commit_cons, hset]
  rfl

/-- Whether the plan of an order has room for its unit, or the write for it stops the program. -/
theorem unitFate_cases (store : Store) (order : Order) :
    (unitFate store order = .ends .cancelled ∧ HasRoom store order) ∨
    (unitFate store order = .overflows ∧ ∀ middle : Store, middle.plans = store.plans →
      middle.commit (unitWrites order) = .error (.stopped .addition)) := by
  unfold unitFate
  split
  · rename_i id hkind hplan
    cases hfound : store.plans.find? id with
    | none =>
      refine .inl ⟨rfl, fun other plan _ hother hstored => ?_⟩
      obtain rfl := Option.some.inj (hplan.symm.trans hother)
      simp [hfound] at hstored
    | some plan =>
      by_cases hfull : plan.isFinite = true ∧ ¬Amount.Fits (plan.inventory + 1)
      · refine .inr ⟨if_pos hfull, fun middle hplans => ?_⟩
        have hreturn : plan.returnUnit = .error .addition := by
          rw [Plan.returnUnit, if_pos hfull.1, Amount.add, if_neg hfull.2]
          rfl
        have hwrite : middle.write (.returnUnit id) = .error (.stopped .addition) := by
          simp only [Store.write, hplans, hfound, hreturn]
          rfl
        rw [unitWrites, hkind, hplan]
        show middle.commit [.returnUnit id] = _
        rw [Store.commit_cons, hwrite]
        rfl
      · refine .inl ⟨if_neg hfull, fun other stored _ hother hstored hfinite => ?_⟩
        obtain rfl := Option.some.inj (hplan.symm.trans hother)
        obtain rfl := Option.some.inj (hfound.symm.trans hstored)
        exact Decidable.not_not.1 fun hfits => hfull ⟨hfinite, hfits⟩
  · rename_i hother
    exact .inl ⟨rfl, fun id plan hkind hplan => absurd hplan (hother id hkind)⟩

/-! ### The programs -/

variable {world : World} {about : OrderNo → Prop}

/-- The commit that closes a pending order ends as foretold by the room for its unit, once it is
known what is given back. -/
theorem run_commit_tells (hcalm : world.Calm) (hfound : world.store.orders.find? orderNo = some order)
    (habout : about orderNo) (hpending : order.status = .pending) {refund : Option Refund}
    (hrefund : GivesBack order refund) (hstands : Stands world.store order refund) :
    (unitFate world.store order).Tells about world
      ((Program.transaction "close order" (.ok (closeWrites order orderNo now refund)) >>= fun _ =>
        pure CloseOutcome.cancelled).run world) := by
  obtain ⟨middle, hplans, hbefore⟩ : ∃ middle, middle.plans = world.store.plans ∧
      world.store.commit (.move orderNo .pending .cancelled ::
        refundWrites order orderNo now refund ++ couponWrites order) = .ok middle :=
    commit_beforeUnit hfound hpending hrefund hstands
  rcases unitFate_cases world.store order with ⟨hfate, hroom⟩ | ⟨hfate, hfull⟩
  · obtain ⟨store, hcommit⟩ :
        ∃ store, world.store.commit (closeWrites order orderNo now refund) = .ok store :=
      commit_closeWrites hfound hpending hrefund hstands hroom
    have hclosed : order.Closed world.store store :=
      closed_of_commit hpending ⟨order, hfound, .refl order⟩ hrefund hcommit
    have hno : about order.orderNo := (Table.key_of_find? hfound).symm ▸ habout
    rw [hfate, Program.run_bind (Program.run_transaction_of_ok hcalm hcommit)]
    exact .cancelled hno hclosed
  · have hcommit : world.store.commit (closeWrites order orderNo now refund) =
        .error (.stopped .addition) := by
      rw [closeWrites, Store.commit_append, hbefore]
      exact hfull middle hplans
    rw [hfate, Program.run_bind_of_error (Program.run_transaction_of_stopped hcalm hcommit)]
    exact .overflows

/-- **Closing a pending order ends as foretold**, whatever the store holds. -/
theorem run_closePending_tells (hcalm : world.Calm)
    (hfound : world.store.orders.find? orderNo = some order) (habout : about orderNo)
    (hpending : order.status = .pending) (now : Instant) :
    (pendingFate world.store order).Tells about world
      ((closePending order orderNo now).run world) := by
  unfold pendingFate refundFate closePending
  by_cases hgift : 0 < order.giftAmount
  · -- The refund is worked out first, and its sign is looked at by the commit only.
    rw [if_neg (Int.not_le.2 hgift)]
    have hrefund := run_refund_of_pos hcalm hgift
    cases huser : world.store.users.find? order.userId with
    | none =>
      rw [huser] at hrefund
      rw [Program.run_bind_of_error hrefund]
      exact .refused _
    | some user =>
      rw [huser] at hrefund
      by_cases hfits : Amount.Fits (user.giftAmount + order.giftAmount)
      · simp only [hfits, not_true, if_false]
        simp only [hfits, if_true] at hrefund
        rw [Program.run_bind hrefund]
        by_cases hneg : user.giftAmount + order.giftAmount < 0
        · rw [if_pos hneg]
          obtain ⟨error, hcommit⟩ : ∃ error, world.store.commit (closeWrites order orderNo now
              (some ⟨user.giftAmount, user.giftAmount + order.giftAmount⟩)) =
                .error (.refused error) :=
            commit_closeWrites_of_neg hfound hpending huser rfl hneg
          rw [Program.run_bind_of_error (Program.run_transaction_of_refused hcalm hcommit)]
          exact .refused _
        · rw [if_neg hneg]
          refine run_commit_tells hcalm hfound habout hpending ⟨hgift, rfl⟩ ?_
          intro r hr
          obtain rfl := Option.some.inj hr
          exact ⟨user, huser, rfl, Int.not_lt.1 hneg⟩
      · simp only [hfits, not_false_eq_true, if_true]
        simp only [hfits, if_false] at hrefund
        rw [Program.run_bind_of_error hrefund]
        exact .overflows
  · have hnothing := Int.not_lt.1 hgift
    rw [if_pos hnothing, Program.run_bind (run_refund_of_le hnothing world)]
    exact run_commit_tells hcalm hfound habout hpending hnothing nofun

/-- Closing the order under a number ends as foretold. -/
theorem run_close_tells (hcalm : world.Calm) (habout : about orderNo) (now : Instant) :
    (closeFate world.store orderNo).Tells about world ((close orderNo now).run world) := by
  have hserve : world.serve (.getOrder orderNo) =
      (.ok (.ok (world.store.orders.find? orderNo)), world) := rfl
  rw [close, Program.run_bind (Program.run_perform hcalm hserve), closeFate]
  cases hfound : world.store.orders.find? orderNo with
  | none => exact .refused (.orderNotFound orderNo)
  | some order =>
    rw [Program.read_ok_bind]
    cases hstatus : order.status with
    | cancelled =>
      simp only [hstatus]
      exact .left (by decide)
    | paid =>
      simp only [hstatus]
      exact .left (by decide)
    | pending =>
      simp only [hstatus]
      exact run_closePending_tells hcalm hfound habout hstatus now

/-- **Handling a task ends as foretold**, whatever the store holds. -/
theorem run_handle_tells (hcalm : world.Calm) (task : Task) (now : Instant) :
    (handleFate world.store task).Tells
      (fun orderNo => ClosePayload.ofText? task.payload = some ⟨orderNo⟩) world
      ((handle task now).run world) := by
  unfold handle handleFate
  cases hpayload : ClosePayload.ofText? task.payload with
  | none => exact .refused .invalidTaskPayload
  | some payload =>
    refine run_close_tells hcalm ?_ now
    rfl

end OrderDesk.Expiry
