import OrderDesk.Expiry
import OrderDesk.Proofs.Order.Change

/-!
# The commits that close and pay an order

A commit for an order that was read as pending closes the order as it is stored, whatever has
happened since (`Expiry.closed_of_commit`). What the order took is known from the order that was
read, because nothing but the status of an order ever changes, and the commit is refused when
the stored order is not pending any more. One move pays an order (`Store.paid_of_commit`).
-/

namespace OrderDesk

/-- An order that was read as pending is the stored one as long as that is pending. -/
theorem Order.Evolves.eq_of_pending {order stored : Order} (h : order.Evolves stored)
    (horder : order.status = .pending) (hstored : stored.status = .pending) : stored = order := by
  obtain ⟨status, rfl, -⟩ := h
  obtain rfl : status = .pending := hstored
  rw [← horder]

namespace Expiry

variable {order : Order} {store after : Store} {orderNo : OrderNo} {now : Instant}
  {refund : Option Refund}

/-! ### Each part of the commit -/

/-- What is to be given back to a gift balance is what the order took. -/
def GivesBack (order : Order) : Option Refund → Prop
  | none => order.giftAmount ≤ 0
  | some refund => 0 < order.giftAmount ∧ refund.after = refund.before + order.giftAmount

/-- The writes for the gift balance give back what the order took. -/
theorem movesGift_of_commit (hrefund : GivesBack order refund)
    (h : store.commit (refundWrites order order.orderNo now refund) = .ok after) :
    order.MovesGift .increase store after ∧
      ∃ users ledger, after = { store with users, ledger } := by
  cases refund with
  | none =>
    obtain rfl := Store.commit_nil_eq_ok_iff.1 h
    exact ⟨Order.movesGift_of_le _ _ hrefund, _, _, rfl⟩
  | some refund =>
    exact Order.movesGift_of_commit h hrefund.1 hrefund.2 rfl rfl rfl rfl rfl

/-- The write for the coupon takes one redemption back. -/
theorem releases_of_commit (h : store.commit (couponWrites order) = .ok after) :
    (∀ code, after.coupons.find? code = (store.coupons.find? code).map fun coupon =>
      if order.coupon = some code then coupon.release else coupon) ∧
    ∃ coupons, after = { store with coupons } := by
  cases hcode : order.coupon with
  | none =>
    simp only [couponWrites, hcode] at h
    obtain rfl := Store.commit_nil_eq_ok_iff.1 h
    exact ⟨Table.find?_eq_map fun code coupon _ => if_neg nofun, _, rfl⟩
  | some code =>
    have hother : ∀ k (coupon : Coupon), code ≠ k →
        (if some code = some k then coupon.release else coupon) = coupon :=
      fun k coupon hk => if_neg fun heq => hk (Option.some.inj heq)
    simp only [couponWrites, hcode] at h
    obtain ⟨hnone, rfl⟩ | ⟨coupon, hfound, rfl⟩ :=
      Store.write_release_eq_ok_iff.1 (Store.commit_singleton_eq_ok_iff.1 h)
    · refine ⟨Table.find?_eq_map fun k coupon hk => hother k coupon ?_, _, rfl⟩
      rintro rfl
      simp [hnone] at hk
    · obtain rfl := Table.key_of_find? hfound
      have hold : store.coupons.find? coupon.release.code = some coupon := by
        rw [Coupon.code_release, hfound]
      refine ⟨Table.find?_put_eq_map hold ?_ fun k a hk => ?_, _, rfl⟩
      · rw [Coupon.code_release, if_pos rfl]
      · exact hother k a (coupon.code_release ▸ hk)

/-- The write for the unit gives one back to the plan of a purchase, if its units are counted. -/
theorem returnsUnit_of_commit (h : store.commit (unitWrites order) = .ok after) :
    (∀ id, after.plans.find? id =
      (store.plans.find? id).map fun plan => plan.restock (order.unitsOf id)) ∧
    ∃ plans, after = { store with plans } := by
  have hnothing : store.commit [] = .ok after → (∀ id, order.unitsOf id = 0) →
      (∀ id, after.plans.find? id =
        (store.plans.find? id).map fun plan => plan.restock (order.unitsOf id)) ∧
      ∃ plans, after = { store with plans } := by
    intro hnil hzero
    obtain rfl := Store.commit_nil_eq_ok_iff.1 hnil
    exact ⟨Table.find?_eq_map fun id plan _ => by rw [hzero, Plan.restock_zero], _, rfl⟩
  cases hkind : order.kind with
  | renewal =>
    simp only [unitWrites, hkind] at h
    exact hnothing h fun id => Order.unitsOf_of_kind (by simp [hkind])
  | recharge =>
    simp only [unitWrites, hkind] at h
    exact hnothing h fun id => Order.unitsOf_of_kind (by simp [hkind])
  | purchase =>
    cases hplan : order.planId with
    | none =>
      simp only [unitWrites, hkind, hplan] at h
      exact hnothing h fun id => Order.unitsOf_of_none hplan
    | some planId =>
      simp only [unitWrites, hkind, hplan] at h
      obtain ⟨hnone, rfl⟩ | ⟨plan, hfound, -, rfl⟩ :=
        Store.write_returnUnit_eq_ok_iff.1 (Store.commit_singleton_eq_ok_iff.1 h)
      · refine ⟨Table.find?_eq_map fun k plan hk => ?_, _, rfl⟩
        refine Order.restock_of_ne (f := id) hplan rfl ?_ plan
        rintro rfl
        simp [hnone] at hk
      · exact ⟨Order.find?_restock (f := id) hkind hplan hfound rfl, _, rfl⟩

/-! ### The whole commit -/

/-- **A commit that closes an order closes the one that is stored**, if it goes through. -/
theorem closed_of_commit (hpending : order.status = .pending)
    (hstored : ∃ stored, store.orders.find? orderNo = some stored ∧ order.Evolves stored)
    (hrefund : GivesBack order refund)
    (h : store.commit (closeWrites order orderNo now refund) = .ok after) :
    order.Closed store after := by
  obtain ⟨_, h, hunit⟩ := Store.commit_append_eq_ok_iff.1 h
  obtain ⟨_, h, hcoupon⟩ := Store.commit_append_eq_ok_iff.1 h
  obtain ⟨_, hmove, hgift⟩ := Store.commit_cons_eq_ok_iff.1 h
  obtain ⟨stored, hfound, hevolves⟩ := hstored
  obtain ⟨moved, hmoved, hstatus, -, rfl⟩ := Store.write_move_eq_ok_iff.1 hmove
  obtain rfl := Option.some.inj (hfound.symm.trans hmoved)
  obtain rfl := hevolves.eq_of_pending hpending hstatus
  obtain rfl := Table.key_of_find? hfound
  obtain ⟨hmoves, users, ledger, rfl⟩ := movesGift_of_commit hrefund hgift
  obtain ⟨hcoupons, coupons, rfl⟩ := releases_of_commit hcoupon
  obtain ⟨hplans, plans, rfl⟩ := returnsUnit_of_commit hunit
  exact {
    found := hfound
    pending := hpending
    orders := rfl
    gift := ⟨hmoves.users, hmoves.ledger⟩
    plans := hplans
    coupons := hcoupons
    payments := rfl
    subscriptions := rfl }

end Expiry

/-- **A commit that moves an order to paid pays it**, if it goes through. -/
theorem Store.paid_of_commit {store after : Store} {orderNo : OrderNo}
    (h : store.commit [.move orderNo .pending .paid] = .ok after) :
    ∃ order : Order, order.Paid store after := by
  obtain ⟨order, hfound, hstatus, -, rfl⟩ :=
    write_move_eq_ok_iff.1 (commit_singleton_eq_ok_iff.1 h)
  obtain rfl := Table.key_of_find? hfound
  exact ⟨order, hfound, hstatus, rfl⟩

end OrderDesk
