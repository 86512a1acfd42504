import OrderDesk.Fulfillment
import OrderDesk.Proofs.Order.Change

/-!
# The commit that places an order

The writes are made from records that were read before. What is proved here is what they come
to when they go through, whatever has happened to the records in between: the commit of an
order that was prepared soundly places that order (`Fulfillment.placed_of_commit`).

What a client has to know for this is little (`Fulfillment.Sound`). Which balance the deduction
was worked out from does not matter, because the write of the balance is refused when it has
moved. When the plan was read to be without end no unit is taken, and what is to be known is
that it has stayed so.
-/

namespace OrderDesk

/-- The store has the plan that was read, and has no end to it when there was none then. -/
def Store.Knows (store : Store) (plan : Plan) : Prop :=
  ∃ stored, store.plans.find? plan.id = some stored ∧ plan.StaysEndless stored

theorem Store.Updated.knows {store later : Store} {plan : Plan} (h : store.Updated later)
    (hknows : store.Knows plan) : later.Knows plan := by
  obtain ⟨stored, hstored, hendless⟩ := hknows
  obtain ⟨stored', hstored', hendless'⟩ := h.plans _ stored hstored
  exact ⟨stored', hstored', fun hread => hendless' (hendless hread)⟩

/-- An order was prepared from what is, or was, in the store: it takes from the gift balance what
its deduction says, and a unit of a plan just when it is a purchase. -/
structure Fulfillment.Sound (f : Fulfillment) (store : Store) : Prop where
  pending : f.order.status = .pending
  no_gift : f.gift = none → f.order.giftAmount = 0
  gift : ∀ deduction remark, f.gift = some (deduction, remark) →
    f.order.giftAmount = deduction.deducted ∧ 0 ≤ deduction.deducted ∧
      deduction.balanceAfter = deduction.balanceBefore - deduction.deducted
  no_unit : f.plan = none → f.order.kind ≠ .purchase
  unit : ∀ plan, f.plan = some plan →
    f.order.kind = .purchase ∧ f.order.planId = some plan.id ∧ store.Knows plan

namespace Fulfillment

variable {f : Fulfillment} {store after : Store} {now : Instant}

/-- A fulfillment stays sound whatever others commit, and with plans put in anew. -/
theorem Sound.later {later : Store} (hsound : f.Sound store) (h : store.Updated later) :
    f.Sound later :=
  { hsound with
    unit := fun plan hplan =>
      have ⟨hkind, hid, hknows⟩ := hsound.unit plan hplan
      ⟨hkind, hid, h.knows hknows⟩ }

theorem Sound.gift_nonneg (hsound : f.Sound store) : 0 ≤ f.order.giftAmount := by
  cases hgift : f.gift with
  | none => exact Int.le_of_eq (hsound.no_gift hgift).symm
  | some taken =>
    obtain ⟨hamount, hnonneg, -⟩ := hsound.gift taken.1 taken.2 hgift
    rwa [hamount]

/-! ### Each part of the commit -/

/-- The writes for the gift balance move it by what the order takes. -/
theorem movesGift_of_commit (hsound : f.Sound store)
    (h : store.commit (f.giftWrites now) = .ok after) :
    f.order.MovesGift .decrease store after ∧
      ∃ users ledger, after = { store with users, ledger } := by
  have hnothing : store.commit [] = .ok after → f.order.giftAmount = 0 →
      f.order.MovesGift .decrease store after ∧
        ∃ users ledger, after = { store with users, ledger } := by
    intro hnil hzero
    obtain rfl := Store.commit_nil_eq_ok_iff.1 hnil
    exact ⟨Order.movesGift_of_le _ _ (Int.le_of_eq hzero), _, _, rfl⟩
  cases hgift : f.gift with
  | none =>
    simp only [giftWrites, hgift] at h
    exact hnothing h (hsound.no_gift hgift)
  | some taken =>
    obtain ⟨deduction, remark⟩ := taken
    obtain ⟨hamount, hnonneg, hbalance⟩ := hsound.gift deduction remark hgift
    by_cases hpos : 0 < deduction.deducted
    · simp only [giftWrites, hgift, GiftEntry.debit?, if_pos hpos] at h
      refine Order.movesGift_of_commit h (by rwa [hamount]) ?_ rfl rfl rfl hamount.symm rfl
      rw [hbalance, hamount, GiftChange.signed, Int.sub_eq_add_neg]
    · simp only [giftWrites, hgift, GiftEntry.debit?, if_neg hpos] at h
      have hzero : deduction.deducted = 0 := Int.le_antisymm (Int.not_lt.1 hpos) hnonneg
      exact hnothing h (hamount.trans hzero)

/-- The write for the unit takes one of the plan of a purchase, if its units are counted. -/
theorem takesUnit_of_commit (hsound : f.Sound store)
    (h : store.commit f.unitWrites = .ok after) :
    (∀ id, after.plans.find? id =
      (store.plans.find? id).map fun plan => plan.restock (-f.order.unitsOf id)) ∧
    (f.order.kind = .purchase → ∃ id plan, f.order.planId = some id ∧
      store.plans.find? id = some plan ∧ plan.inventory ≠ 0) ∧
    ∃ plans, after = { store with plans } := by
  cases hplan : f.plan with
  | none =>
    simp only [unitWrites, hplan] at h
    obtain rfl := Store.commit_nil_eq_ok_iff.1 h
    have hkind := hsound.no_unit hplan
    refine ⟨fun id => ?_, fun hpurchase => absurd hpurchase hkind, _, rfl⟩
    simp [Order.unitsOf_of_kind hkind]
  | some read =>
    obtain ⟨hkind, hid, stored, hstored, hstays⟩ := hsound.unit read hplan
    cases hcounted : read.isFinite with
    | true =>
      simp only [unitWrites, hplan, hcounted, if_true] at h
      obtain ⟨plan, hfound, hleft, rfl⟩ :=
        Store.write_takeUnit_eq_ok_iff.1 (Store.commit_singleton_eq_ok_iff.1 h)
      exact ⟨Order.find?_restock hkind hid hfound Int.neg_zero,
        fun _ => ⟨read.id, plan, hid, hfound, hleft⟩, _, rfl⟩
    | false =>
      simp only [unitWrites, hplan, hcounted, Bool.false_eq_true, if_false] at h
      obtain rfl := Store.commit_nil_eq_ok_iff.1 h
      have hendless : stored.isFinite = false := hstays hcounted
      refine ⟨Table.find?_eq_map fun k plan hfound => ?_,
        fun _ => ⟨read.id, stored, hid, hstored, fun hzero => ?_⟩, _, rfl⟩
      · by_cases hk : read.id = k
        · subst hk
          obtain rfl := Option.some.inj (hstored.symm.trans hfound)
          exact Plan.restock_of_endless hendless
        · exact Order.restock_of_ne hid Int.neg_zero hk plan
      · simp [Plan.isFinite, hzero] at hendless

/-- The write for the coupon counts one redemption more. -/
theorem redeems_of_commit (h : store.commit f.couponWrites = .ok after) :
    (∀ code, after.coupons.find? code =
      (store.coupons.find? code).map fun coupon => coupon.recount (f.order.redemptionsOf code)) ∧
    (∀ code, f.order.coupon = some code → ∃ coupon,
      store.coupons.find? code = some coupon ∧ coupon.hasRemaining) ∧
    ∃ coupons, after = { store with coupons } := by
  cases hcode : f.order.coupon with
  | none =>
    simp only [couponWrites, hcode] at h
    obtain rfl := Store.commit_nil_eq_ok_iff.1 h
    refine ⟨fun code => ?_, fun code hsome => by simp at hsome, _, rfl⟩
    simp [Order.redemptionsOf, hcode]
  | some code =>
    simp only [couponWrites, hcode] at h
    obtain ⟨coupon, hfound, hremaining, -, rfl⟩ :=
      Store.write_redeem_eq_ok_iff.1 (Store.commit_singleton_eq_ok_iff.1 h)
    obtain rfl := Table.key_of_find? hfound
    have hold : store.coupons.find?
      ({ coupon with usedCount := coupon.usedCount + 1 } : Coupon).code = some coupon := hfound
    refine ⟨fun id => ?_, fun k hk => ?_, _, rfl⟩
    · refine Table.find?_put_eq_map
        (f := fun code coupon => coupon.recount (f.order.redemptionsOf code)) hold ?_ ?_ id
      · rw [Order.redemptionsOf_self hcode, Coupon.recount]
      · intro k a hk
        rw [Order.redemptionsOf_of_ne hcode hk, Coupon.recount_zero]
    · obtain rfl := Option.some.inj hk
      exact ⟨coupon, hfound, hremaining⟩

/-! ### The whole commit -/

/-- **A commit of a prepared order places it**, if it goes through. -/
theorem placed_of_commit (hsound : f.Sound store)
    (h : store.commit (f.writes now) = .ok after) : f.order.Placed store after := by
  obtain ⟨_, h, hinsert⟩ := Store.commit_append_eq_ok_iff.1 h
  obtain ⟨_, h, hredeem⟩ := Store.commit_append_eq_ok_iff.1 h
  obtain ⟨_, hgift, htake⟩ := Store.commit_append_eq_ok_iff.1 h
  obtain ⟨hmoves, users, ledger, rfl⟩ := movesGift_of_commit hsound hgift
  have hsound' : f.Sound { store with users, ledger } := hsound.later (Store.later_of_commit hgift).updated
  obtain ⟨hplans, hstocked, plans, rfl⟩ := takesUnit_of_commit hsound' htake
  obtain ⟨hcoupons, hredeemable, coupons, rfl⟩ := redeems_of_commit hredeem
  obtain ⟨habsent, rfl⟩ :=
    Store.write_insert_eq_ok_iff.1 (Store.commit_singleton_eq_ok_iff.1 hinsert)
  exact {
    absent := habsent
    pending := hsound.pending
    gift_nonneg := hsound.gift_nonneg
    orders := rfl
    gift := ⟨hmoves.users, hmoves.ledger⟩
    plans := hplans
    stocked := hstocked
    coupons := hcoupons
    redeemable := hredeemable
    payments := rfl
    subscriptions := rfl }

end Fulfillment

end OrderDesk
