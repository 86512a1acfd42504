import OrderDesk.Proofs.Desk.Conservation

/-!
# What an order took can be given back

Closing a pending order adds what it took to the gift balance of its user, and one to the units of
its plan. Both additions could leave the range of amounts, the balance could be one that the store
refuses to set, and the user could be missing. None of this happens in a store that has come from
one without orders (`Store.Solvent`): what an order would give back is part of what the store had
at the start (`Store.Solvent.fits_credit`, `Store.Solvent.fits_return`), and a balance that paid
something is not below zero.
-/

namespace OrderDesk

namespace Store

/-- The gift balances and the numbers of units fit in 64 bits with a sign, as all that is read does. -/
structure Fits (store : Store) : Prop where
  gift : ∀ user ∈ store.users.rows, Amount.Fits user.giftAmount
  units : ∀ plan ∈ store.plans.rows, Amount.Fits plan.inventory

/-- A balanced store, in which the users of orders that took something have a balance to give it
back to, and what cancelled orders took has been given back. -/
structure Solvent (seed store : Store) : Prop extends Balanced seed store where
  holders : ∀ orderNo order, store.orders.find? orderNo = some order → 0 < order.giftAmount →
    ∃ user, store.users.find? order.userId = some user ∧ 0 ≤ user.giftAmount
  refunded : ∀ orderNo order, store.orders.find? orderNo = some order →
    order.status = .cancelled → 0 < order.giftAmount →
    ∃ entry ∈ store.ledger, entry.Tells order .increase

variable {seed before after : Store} {order : Order} {change : GiftChange}

/-! ### Changes preserve it -/

/-- A balance that has moved for an order that takes something is there and not below zero. -/
theorem exists_user_of_moves (h : order.MovesGift change before after)
    (hgift : 0 < order.giftAmount) :
    ∃ user, after.users.find? order.userId = some user ∧ 0 ≤ user.giftAmount := by
  obtain ⟨entries, -, hrecorded⟩ := h.ledger
  obtain ⟨entry, -, hrecords⟩ := (Order.recorded_iff_of_pos hgift).1 hrecorded
  obtain ⟨user, huser, -, hnonneg⟩ := hrecords.balance
  exact ⟨user, huser, hnonneg⟩

/-- A balance that is not below zero is not moved below zero. -/
theorem user_nonneg_of_moves (h : order.MovesGift change before after) {id : UserId}
    (hbefore : ∃ user, before.users.find? id = some user ∧ 0 ≤ user.giftAmount) :
    ∃ user, after.users.find? id = some user ∧ 0 ≤ user.giftAmount := by
  by_cases hmoved : order.userId = id ∧ 0 < order.giftAmount
  · obtain ⟨rfl, hgift⟩ := hmoved
    exact exists_user_of_moves h hgift
  · obtain ⟨user, huser, hnonneg⟩ := hbefore
    have hzero : order.giftOf id = 0 := by
      by_cases hid : order.userId = id
      · exact Order.giftOf_of_le (Int.not_lt.1 fun hgift => hmoved ⟨hid, hgift⟩)
      · exact Order.giftOf_of_ne hid
    refine ⟨user, ?_, hnonneg⟩
    rw [h.users, huser, Option.map_some, hzero, GiftChange.signed_zero, User.credit_zero]

namespace Solvent

/-- Where there are no orders, there is nothing to give back. -/
theorem refl (horders : seed.orders = .empty) : Solvent seed seed where
  toBalanced := .refl horders
  holders orderNo order h := by simp [horders] at h
  refunded orderNo order h := by simp [horders] at h

theorem placed (h : Solvent seed before) (hlater : before.Later after)
    (hplaced : order.Placed before after) : Solvent seed after where
  toBalanced := h.toBalanced.placed hlater hplaced
  holders orderNo found hfound hgift := by
    rw [hplaced.orders] at hfound
    obtain ⟨-, rfl⟩ | ⟨-, hold⟩ := Table.found_of_put hfound
    · exact exists_user_of_moves hplaced.gift hgift
    · exact user_nonneg_of_moves hplaced.gift (h.holders orderNo found hold hgift)
  refunded orderNo found hfound hcancelled hgift := by
    rw [hplaced.orders] at hfound
    obtain ⟨-, rfl⟩ | ⟨-, hold⟩ := Table.found_of_put hfound
    · rw [hplaced.pending] at hcancelled
      cases hcancelled
    · obtain ⟨entry, hmem, htells⟩ := h.refunded orderNo found hold hcancelled hgift
      obtain ⟨entries, hledger, -⟩ := hplaced.gift.ledger
      exact ⟨entry, hledger ▸ List.mem_append_left entries hmem, htells⟩

theorem closed (h : Solvent seed before) (hlater : before.Later after)
    (hclosed : order.Closed before after) : Solvent seed after where
  toBalanced := h.toBalanced.closed hlater hclosed
  holders orderNo found hfound hgift := by
    rw [hclosed.orders] at hfound
    obtain ⟨-, rfl⟩ | ⟨-, hold⟩ := Table.found_of_put hfound
    · have hmoved := exists_user_of_moves hclosed.gift
      exact hmoved hgift
    · exact user_nonneg_of_moves hclosed.gift (h.holders orderNo found hold hgift)
  refunded orderNo found hfound hcancelled hgift := by
    obtain ⟨entries, hledger, hrecorded⟩ := hclosed.gift.ledger
    rw [hclosed.orders] at hfound
    obtain ⟨-, rfl⟩ | ⟨-, hold⟩ := Table.found_of_put hfound
    · have hpos : 0 < order.giftAmount := hgift
      obtain ⟨entry, rfl, hrecords⟩ := (Order.recorded_iff_of_pos hpos).1 hrecorded
      refine ⟨entry, hledger ▸ List.mem_append_right _ (List.mem_singleton_self entry), ?_⟩
      exact ⟨hrecords.userId, hrecords.change, hrecords.orderNo, hrecords.amount⟩
    · obtain ⟨entry, hmem, htells⟩ := h.refunded orderNo found hold hcancelled hgift
      exact ⟨entry, hledger ▸ List.mem_append_left entries hmem, htells⟩

theorem paid (h : Solvent seed before) (hlater : before.Later after)
    (hpaid : order.Paid before after) : Solvent seed after := by
  refine ⟨h.toBalanced.paid hlater hpaid, ?_, ?_⟩
  · intro orderNo found hfound hgift
    rw [hpaid.store] at hfound ⊢
    obtain ⟨-, rfl⟩ | ⟨-, hold⟩ := Table.found_of_put hfound
    · exact h.holders _ order hpaid.found hgift
    · exact h.holders orderNo found hold hgift
  · intro orderNo found hfound hcancelled hgift
    rw [hpaid.store] at hfound ⊢
    obtain ⟨-, rfl⟩ | ⟨-, hold⟩ := Table.found_of_put hfound
    · cases hcancelled
    · exact h.refunded orderNo found hold hcancelled hgift

/-- **Every change of the store keeps it solvent.** -/
theorem of_change {P : Order → Prop} (h : Solvent seed before) (hlater : before.Later after)
    (hchange : before.Change P after) : Solvent seed after := by
  cases hchange with
  | placed order _ hplaced => exact h.placed hlater hplaced
  | closed order hclosed => exact h.closed hlater hclosed
  | paid order hpaid => exact h.paid hlater hpaid

/-! ### There is room for what is given back -/

/-- A standing order holds no more than all standing orders of its user. -/
theorem gift_le_giftHeld (h : Solvent seed before) {orderNo : OrderNo}
    (hfound : before.orders.find? orderNo = some order) (hstanding : order.isStanding = true) :
    order.giftAmount ≤ before.giftHeld order.userId := by
  let isOfUser : Order → Bool := fun other => other.isStanding && other.userId == order.userId
  have hnonneg : ∀ other ∈ before.orders.rows, 0 ≤ Table.share isOfUser Order.giftAmount other := by
    intro other hother
    unfold Table.share
    split
    · exact h.gift_nonneg _ other (Table.find?_of_mem hother)
    · exact Int.le_refl 0
  have hshare := Table.share_le_sumOver hnonneg (Table.mem_of_find? hfound)
  have hself : Table.share isOfUser Order.giftAmount order = order.giftAmount := by
    simp [Table.share, isOfUser, hstanding]
  rw [hself] at hshare
  exact hshare

/-- A standing purchase is one of those that hold a unit of its plan. -/
theorem one_le_unitsHeld {orderNo : OrderNo} {id : PlanId}
    (hfound : before.orders.find? orderNo = some order) (hstanding : order.isStanding = true)
    (hkind : order.kind = .purchase) (hplan : order.planId = some id) :
    1 ≤ before.unitsHeld id := by
  refine List.length_pos_of_mem (List.mem_filter.2 ⟨Table.mem_of_find? hfound, ?_⟩)
  simp [hstanding, hkind, hplan]

/-- **What a standing order took fits into the balance** from which it was taken. -/
theorem fits_credit (h : Solvent seed before) (hfits : seed.Fits) {orderNo : OrderNo} {user : User}
    (hfound : before.orders.find? orderNo = some order) (hstanding : order.isStanding = true)
    (hgift : 0 < order.giftAmount) (huser : before.users.find? order.userId = some user)
    (hnonneg : 0 ≤ user.giftAmount) : Amount.Fits (user.giftAmount + order.giftAmount) := by
  have hheld := h.gift_le_giftHeld hfound hstanding
  rw [h.users, Option.map_eq_some_iff] at huser
  obtain ⟨seeded, hseeded, rfl⟩ := huser
  have hseed := hfits.gift seeded (Table.mem_of_find? hseeded)
  simp only [User.credit] at hnonneg ⊢
  unfold Amount.Fits Amount.least Amount.greatest at *
  unfold Amount at *
  omega

/-- **The unit of a standing purchase fits into the units of its plan.** -/
theorem fits_return (h : Solvent seed before) (hfits : seed.Fits) {orderNo : OrderNo} {id : PlanId}
    {plan : Plan} (hfound : before.orders.find? orderNo = some order)
    (hstanding : order.isStanding = true) (hkind : order.kind = .purchase)
    (hplan : order.planId = some id) (hstored : before.plans.find? id = some plan)
    (hfinite : plan.isFinite = true) : Amount.Fits (plan.inventory + 1) := by
  have hheld := one_le_unitsHeld hfound hstanding hkind hplan
  rw [h.plans, Option.map_eq_some_iff] at hstored
  obtain ⟨seeded, hseeded, rfl⟩ := hstored
  have hcounted : seeded.isFinite = true := (h.isFinite_restock hseeded).symm.trans hfinite
  have hseed := hfits.units seeded (Table.mem_of_find? hseeded)
  have hrestock : seeded.restock (-before.unitsHeld id) =
      { seeded with inventory := seeded.inventory + -before.unitsHeld id } := if_pos hcounted
  simp only [hrestock, Plan.isFinite, decide_eq_true_eq] at hfinite ⊢
  unfold Amount.Fits Amount.least Amount.greatest at *
  unfold Amount at *
  omega

end Solvent

end Store

end OrderDesk
