import OrderDesk.Proofs.Desk.Solvency
import OrderDesk.Proofs.Order.Closing
import OrderDesk.Proofs.Program.Calm

/-!
# Closing an order goes through

In a calm world with a solvent store nothing can keep a pending order from being closed: what it
took fits where it came from, and every write of the commit finds its record as it was read
(`Expiry.commit_closeWrites`). An order that is paid or cancelled is left alone. So closing an
order that is there always ends well (`Expiry.run_close`).
-/

namespace OrderDesk.Expiry

variable {seed store : Store} {order : Order} {orderNo : OrderNo} {now : Instant}
  {refund : Option Refund}

/-! ### Each part of the commit goes through -/

/-- What is to be given back was worked out from the balance that the user has. -/
def Stands (store : Store) (order : Order) (refund : Option Refund) : Prop :=
  ∀ r, refund = some r → ∃ user, store.users.find? order.userId = some user ∧
    user.giftAmount = r.before ∧ 0 ≤ r.after

theorem commit_refundWrites (h : Stands store order refund) :
    ∃ after, store.commit (refundWrites order orderNo now refund) = .ok after := by
  cases refund with
  | none => exact ⟨store, Store.commit_nil store⟩
  | some r =>
    obtain ⟨user, huser, hbefore, hnonneg⟩ := h r rfl
    have hset := Store.write_setGiftBalance_eq_ok_iff.2 ⟨user, huser, hbefore, hnonneg, rfl⟩
    exact ⟨_, Store.commit_cons_eq_ok_iff.2 ⟨_, hset, Store.commit_singleton_eq_ok_iff.2
      (Store.write_appendEntry_eq_ok_iff.2 rfl)⟩⟩

theorem commit_couponWrites (store : Store) (order : Order) :
    ∃ after, store.commit (couponWrites order) = .ok after := by
  unfold couponWrites
  split
  · exact ⟨store, Store.commit_nil store⟩
  · rename_i code _
    cases hfound : store.coupons.find? code with
    | none =>
      exact ⟨store, Store.commit_singleton_eq_ok_iff.2
        (Store.write_release_eq_ok_iff.2 (.inl ⟨hfound, rfl⟩))⟩
    | some coupon =>
      exact ⟨_, Store.commit_singleton_eq_ok_iff.2
        (Store.write_release_eq_ok_iff.2 (.inr ⟨coupon, hfound, rfl⟩))⟩

/-- The plan of a purchase has room for one unit more, if its units are counted. -/
def HasRoom (store : Store) (order : Order) : Prop :=
  ∀ id plan, order.kind = .purchase → order.planId = some id → store.plans.find? id = some plan →
    plan.isFinite = true → Amount.Fits (plan.inventory + 1)

theorem commit_unitWrites (h : HasRoom store order) :
    ∃ after, store.commit (unitWrites order) = .ok after := by
  unfold unitWrites
  split
  · rename_i id hkind hplan
    cases hfound : store.plans.find? id with
    | none =>
      exact ⟨store, Store.commit_singleton_eq_ok_iff.2
        (Store.write_returnUnit_eq_ok_iff.2 (.inl ⟨hfound, rfl⟩))⟩
    | some plan =>
      exact ⟨_, Store.commit_singleton_eq_ok_iff.2 (Store.write_returnUnit_eq_ok_iff.2
        (.inr ⟨plan, hfound, h id plan hkind hplan hfound, rfl⟩))⟩
  · exact ⟨store, Store.commit_nil store⟩

/-- The writes that come before the one for the unit go through, and leave the plans alone. -/
theorem commit_beforeUnit (hfound : store.orders.find? orderNo = some order)
    (hpending : order.status = .pending) (hrefund : GivesBack order refund)
    (hstands : Stands store order refund) :
    ∃ middle, middle.plans = store.plans ∧
      store.commit (.move orderNo .pending .cancelled :: refundWrites order orderNo now refund ++
        couponWrites order) = .ok middle := by
  obtain rfl := Table.key_of_find? hfound
  let moved : Store :=
    { store with orders := store.orders.put { order with status := .cancelled } }
  have hmove : store.write (.move order.orderNo .pending .cancelled) = .ok moved :=
    Store.write_move_eq_ok_iff.2 ⟨order, hfound, hpending, rfl, rfl⟩
  -- The parts of the commit are about different tables, so each finds its own as it was.
  obtain ⟨refunded, hgift⟩ :
      ∃ refunded, moved.commit (refundWrites order order.orderNo now refund) = .ok refunded :=
    commit_refundWrites hstands
  obtain ⟨-, users, ledger, rfl⟩ := movesGift_of_commit hrefund hgift
  obtain ⟨released, hcoupon⟩ := commit_couponWrites { moved with users, ledger } order
  obtain ⟨-, coupons, rfl⟩ := releases_of_commit hcoupon
  refine ⟨_, ?_, Store.commit_append_eq_ok_iff.2 ⟨_, ?_, hcoupon⟩⟩
  · rfl
  · exact Store.commit_cons_eq_ok_iff.2 ⟨_, hmove, hgift⟩

/-- **A commit that closes a pending order goes through**, when what it gives back was worked out
from the balance as it is and fits where it goes. -/
theorem commit_closeWrites (hfound : store.orders.find? orderNo = some order)
    (hpending : order.status = .pending) (hrefund : GivesBack order refund)
    (hstands : Stands store order refund) (hroom : HasRoom store order) :
    ∃ after, store.commit (closeWrites order orderNo now refund) = .ok after := by
  obtain ⟨middle, hplans, hbefore⟩ : ∃ middle, middle.plans = store.plans ∧
      store.commit (.move orderNo .pending .cancelled :: refundWrites order orderNo now refund ++
        couponWrites order) = .ok middle :=
    commit_beforeUnit hfound hpending hrefund hstands
  have hroom' : HasRoom middle order := fun id plan hkind hplan hstored =>
    hroom id plan hkind hplan (hplans ▸ hstored)
  obtain ⟨after, hunit⟩ := commit_unitWrites hroom'
  exact ⟨after, Store.commit_append_eq_ok_iff.2 ⟨middle, hbefore, hunit⟩⟩

/-! ### The program -/

variable {world : World}

/-- An order that took nothing has nothing to be given back. -/
theorem run_refund_of_le (hgift : order.giftAmount ≤ 0) (world : World) :
    (refund? order).run world = (.ok none, world) := by
  rw [refund?, if_neg (Int.not_lt.2 hgift)]
  rfl

/-- What an order is to give back is worked out from the balance of its user, if the user is there
and the sum fits. -/
theorem run_refund_of_pos (hcalm : world.Calm) (hgift : 0 < order.giftAmount) :
    (refund? order).run world =
      match world.store.users.find? order.userId with
      | none => (.error (.refused (.query .user (.notFound (.user order.userId)))), world)
      | some user =>
        if Amount.Fits (user.giftAmount + order.giftAmount) then
          (.ok (some ⟨user.giftAmount, user.giftAmount + order.giftAmount⟩), world)
        else (.error (.stopped .addition), world) := by
  have hserve : world.serve (.findUser order.userId) =
      (.ok (.ok (world.store.users.find? order.userId)), world) := rfl
  rw [refund?, if_pos hgift, Program.run_bind (Program.run_perform hcalm hserve)]
  cases world.store.users.find? order.userId with
  | none => rfl
  | some user =>
    show ((Program.compute (Failure.ofOverflow (Amount.add _ _)) >>= fun after => _).run world) = _
    unfold Amount.add
    by_cases hfits : Amount.Fits (user.giftAmount + order.giftAmount)
    · simp only [hfits, if_true]
      rfl
    · simp only [hfits, if_false]
      rfl

/-- What a standing order took can be worked out to be given back. -/
theorem run_refund (hcalm : world.Calm) (hsolvent : Store.Solvent seed world.store)
    (hfits : seed.Fits) (hfound : world.store.orders.find? orderNo = some order)
    (hstanding : order.isStanding = true) :
    ∃ refund, (refund? order).run world = (.ok refund, world) ∧ GivesBack order refund ∧
      Stands world.store order refund := by
  by_cases hgift : 0 < order.giftAmount
  · obtain ⟨user, huser, hnonneg⟩ := hsolvent.holders orderNo order hfound hgift
    have hfit := hsolvent.fits_credit hfits hfound hstanding hgift huser hnonneg
    refine ⟨some ⟨user.giftAmount, user.giftAmount + order.giftAmount⟩, ?_, ⟨hgift, rfl⟩, ?_⟩
    · simp only [run_refund_of_pos hcalm hgift, huser, hfit, if_true]
    · rintro r hr
      obtain rfl := Option.some.inj hr
      exact ⟨user, huser, rfl, Int.add_nonneg hnonneg (Int.le_of_lt hgift)⟩
  · refine ⟨none, run_refund_of_le (Int.not_lt.1 hgift) world, Int.not_lt.1 hgift, ?_⟩
    intro r hr
    cases hr

/-- Closing a pending order commits the writes that close it, with what it took to be given back. -/
theorem run_closePending_commits (hcalm : world.Calm) (hsolvent : Store.Solvent seed world.store)
    (hfits : seed.Fits) (hfound : world.store.orders.find? orderNo = some order)
    (hpending : order.status = .pending) (now : Instant) :
    ∃ refund store, (closePending order orderNo now).run world =
        (.ok .cancelled, { world with store }) ∧
      GivesBack order refund ∧
      world.store.commit (closeWrites order orderNo now refund) = .ok store := by
  have hstanding : order.isStanding = true := by
    rw [Order.isStanding, hpending]
    rfl
  have hroom : HasRoom world.store order := fun id plan hkind hplan hstored hfinite =>
    hsolvent.fits_return hfits hfound hstanding hkind hplan hstored hfinite
  obtain ⟨refund, hrun, hrefund, hstands⟩ := run_refund hcalm hsolvent hfits hfound hstanding
  obtain ⟨store, hcommit⟩ :
      ∃ store, world.store.commit (closeWrites order orderNo now refund) = .ok store :=
    commit_closeWrites hfound hpending hrefund hstands hroom
  refine ⟨refund, store, ?_, hrefund, hcommit⟩
  rw [closePending, Program.run_bind hrun,
    Program.run_bind (Program.run_transaction_of_ok hcalm hcommit)]
  rfl

/-- **Closing a pending order closes it.** -/
theorem run_closePending (hcalm : world.Calm) (hsolvent : Store.Solvent seed world.store)
    (hfits : seed.Fits) (hfound : world.store.orders.find? orderNo = some order)
    (hpending : order.status = .pending) (now : Instant) :
    ∃ store, (closePending order orderNo now).run world = (.ok .cancelled, { world with store }) ∧
      order.Closed world.store store ∧ world.store.Later store := by
  obtain ⟨refund, store, hrun, hrefund, hcommit⟩ :=
    run_closePending_commits hcalm hsolvent hfits hfound hpending now
  have hstored : ∃ stored, world.store.orders.find? orderNo = some stored ∧ order.Evolves stored :=
    ⟨order, hfound, .refl order⟩
  exact ⟨store, hrun, closed_of_commit hpending hstored hrefund hcommit,
    Store.later_of_commit hcommit⟩

/-- Closing an order that is not there changes nothing. -/
theorem run_close_of_absent (hcalm : world.Calm)
    (habsent : world.store.orders.find? orderNo = none) (now : Instant) :
    ((close orderNo now).run world).2 = world := by
  have hserve : world.serve (.getOrder orderNo) = (.ok (.ok none), world) := by
    simp only [World.serve, habsent]
  rw [close, Program.run_bind (Program.run_perform hcalm hserve)]
  rfl

/-- Closing an order that is pending is what is done for a pending one. -/
theorem run_close_of_pending (hcalm : world.Calm)
    (hfound : world.store.orders.find? orderNo = some order) (hpending : order.status = .pending)
    (now : Instant) :
    (close orderNo now).run world = (closePending order orderNo now).run world := by
  have hserve : world.serve (.getOrder orderNo) = (.ok (.ok (some order)), world) := by
    simp only [World.serve, hfound]
  rw [close, Program.run_bind (Program.run_perform hcalm hserve), Program.read_ok_bind]
  simp only [hpending]

/-- An order that is paid or cancelled is left alone. -/
theorem run_close_of_settled (hcalm : world.Calm)
    (hfound : world.store.orders.find? orderNo = some order) (hsettled : order.status ≠ .pending)
    (now : Instant) : ∃ outcome, (close orderNo now).run world = (.ok outcome, world) := by
  have hserve : world.serve (.getOrder orderNo) = (.ok (.ok (some order)), world) := by
    simp only [World.serve, hfound]
  rw [close, Program.run_bind (Program.run_perform hcalm hserve), Program.read_ok_bind]
  cases hstatus : order.status with
  | cancelled =>
    simp only [hstatus]
    exact ⟨.alreadyClosed, rfl⟩
  | paid =>
    simp only [hstatus]
    exact ⟨.alreadyPaid, rfl⟩
  | pending => exact absurd hstatus hsettled

/-- **How closing an order ends**: it is closed if it was pending, and left alone otherwise. -/
theorem run_close (hcalm : world.Calm) (hsolvent : Store.Solvent seed world.store)
    (hfits : seed.Fits) (hfound : world.store.orders.find? orderNo = some order) (now : Instant) :
    ∃ outcome store, (close orderNo now).run world = (.ok outcome, { world with store }) ∧
      (order.status = .pending ∧ outcome = .cancelled ∧ order.Closed world.store store ∧
          world.store.Later store ∨
        order.status ≠ .pending ∧ store = world.store) := by
  by_cases hpending : order.status = .pending
  · obtain ⟨store, hrun, hclosed, hlater⟩ :=
      run_closePending hcalm hsolvent hfits hfound hpending now
    refine ⟨.cancelled, store, ?_, .inl ⟨hpending, rfl, hclosed, hlater⟩⟩
    rw [run_close_of_pending hcalm hfound hpending, hrun]
  · obtain ⟨outcome, hrun⟩ := run_close_of_settled hcalm hfound hpending now
    exact ⟨outcome, world.store, hrun, .inr ⟨hpending, rfl⟩⟩

end OrderDesk.Expiry
