import OrderDesk.Proofs.Desk.Clients
import OrderDesk.Proofs.Store.Tally

/-!
# Nothing is lost between clients

A desk opens with a store without orders. From then on gift balances, units of plans and
redemptions of coupons only move between the records and the orders that stand: what the
orders that are not cancelled hold, together with what is left, is what there was at the
start. So no plan is oversold, however the calls of the clients interleave.

The invariant is `Store.Balanced`: every record is the one of the start, less what the standing
orders hold of it. Placing an order adds to what they hold (`Store.held_of_placed`), closing it
takes that away again (`Store.held_of_closed`), and paying changes nothing
(`Store.held_of_paid`).
-/

namespace OrderDesk

/-! ### What the standing orders hold -/

/-- The order has not been cancelled. -/
def Order.isStanding (order : Order) : Bool := order.status != .cancelled

namespace Store

/-- The sum of a quantity over the standing orders that meet a condition. -/
def held (store : Store) (p : Order → Bool) (f : Order → Amount) : Amount :=
  store.orders.sumOver (fun order => order.isStanding && p order) f

/-- What the standing orders hold of the gift balance of a user. -/
def giftHeld (store : Store) (id : UserId) : Amount :=
  store.held (fun order => order.userId == id) Order.giftAmount

/-- How many standing purchases there are of a plan. -/
def unitsHeld (store : Store) (id : PlanId) : Nat :=
  store.orders.count fun order =>
    order.isStanding && (order.kind == .purchase && order.planId == some id)

/-- How many standing orders carry a coupon. -/
def redemptionsHeld (store : Store) (code : String) : Nat :=
  store.orders.count fun order => order.isStanding && order.coupon == some code

variable {before after : Store} {order : Order} {p : Order → Bool} {f : Order → Amount}

/-- Placing an order adds its share. -/
theorem held_of_placed (h : order.Placed before after) (p : Order → Bool) (f : Order → Amount) :
    after.held p f = before.held p f + Table.share p f order := by
  unfold held
  rw [h.orders, Table.sumOver_put_of_none h.absent]
  simp only [Table.share, Order.isStanding, h.pending]
  rfl

/-- Closing an order takes its share away. -/
theorem held_of_closed (h : order.Closed before after) (p : Order → Bool) (f : Order → Amount) :
    after.held p f = before.held p f - Table.share p f order := by
  have hold : before.orders.find? (order.withStatus .cancelled).orderNo = some order := h.found
  unfold held
  rw [h.orders, Table.sumOver_put_of_some hold]
  simp [Table.share, Order.isStanding, h.pending, Order.withStatus]

/-- Paying an order keeps its share, as long as that does not look at its status. -/
theorem held_of_paid (h : order.Paid before after) (hp : p (order.withStatus .paid) = p order)
    (hf : f (order.withStatus .paid) = f order) : after.held p f = before.held p f := by
  have hold : before.orders.find? (order.withStatus .paid).orderNo = some order := h.found
  have hstanding : (order.withStatus .paid).isStanding = order.isStanding := by
    rw [Order.isStanding, Order.isStanding, h.pending]
    rfl
  unfold held
  rw [h.store, Table.sumOver_put_of_some hold]
  simp [Table.share, hstanding, hp, hf]

theorem unitsHeld_eq_held (store : Store) (id : PlanId) :
    (store.unitsHeld id : Amount) =
      store.held (fun order => order.kind == .purchase && order.planId == some id) fun _ => 1 :=
  Table.count_eq_sumOver _ _

theorem redemptionsHeld_eq_held (store : Store) (code : String) :
    (store.redemptionsHeld code : Amount) =
      store.held (fun order => order.coupon == some code) fun _ => 1 :=
  Table.count_eq_sumOver _ _

end Store

/-! ### What an order takes is its share -/

namespace Order

variable {order : Order}

theorem giftOf_eq_share (h : 0 ≤ order.giftAmount) (id : UserId) :
    order.giftOf id = Table.share (fun order => order.userId == id) giftAmount order := by
  simp [giftOf, Table.share, Int.max_eq_left h]

theorem unitsOf_eq_share (id : PlanId) :
    order.unitsOf id =
      Table.share (fun order => order.kind == .purchase && order.planId == some id) (fun _ => 1)
        order := by
  simp [unitsOf, Table.share]

theorem redemptionsOf_eq_share (code : String) :
    order.redemptionsOf code =
      Table.share (fun order => order.coupon == some code) (fun _ => 1) order := by
  simp [redemptionsOf, Table.share]

end Order

/-! ### How changes move what is held -/

namespace Store

variable {before after : Store} {order : Order}

theorem giftHeld_of_placed (h : order.Placed before after) (id : UserId) :
    after.giftHeld id = before.giftHeld id + order.giftOf id := by
  rw [Order.giftOf_eq_share h.gift_nonneg]
  exact held_of_placed h _ _

theorem giftHeld_of_closed (h : order.Closed before after) (hgift : 0 ≤ order.giftAmount)
    (id : UserId) : after.giftHeld id = before.giftHeld id - order.giftOf id := by
  rw [Order.giftOf_eq_share hgift]
  exact held_of_closed h _ _

theorem giftHeld_of_paid (h : order.Paid before after) (id : UserId) :
    after.giftHeld id = before.giftHeld id := held_of_paid h rfl rfl

theorem unitsHeld_of_placed (h : order.Placed before after) (id : PlanId) :
    (after.unitsHeld id : Amount) = before.unitsHeld id + order.unitsOf id := by
  rw [unitsHeld_eq_held, unitsHeld_eq_held, Order.unitsOf_eq_share]
  exact held_of_placed h _ _

theorem unitsHeld_of_closed (h : order.Closed before after) (id : PlanId) :
    (after.unitsHeld id : Amount) = before.unitsHeld id - order.unitsOf id := by
  rw [unitsHeld_eq_held, unitsHeld_eq_held, Order.unitsOf_eq_share]
  exact held_of_closed h _ _

theorem unitsHeld_of_paid (h : order.Paid before after) (id : PlanId) :
    (after.unitsHeld id : Amount) = before.unitsHeld id := by
  rw [unitsHeld_eq_held, unitsHeld_eq_held]
  exact held_of_paid h rfl rfl

theorem redemptionsHeld_of_placed (h : order.Placed before after) (code : String) :
    (after.redemptionsHeld code : Amount) =
      before.redemptionsHeld code + order.redemptionsOf code := by
  rw [redemptionsHeld_eq_held, redemptionsHeld_eq_held, Order.redemptionsOf_eq_share]
  exact held_of_placed h _ _

theorem redemptionsHeld_of_closed (h : order.Closed before after) (code : String) :
    (after.redemptionsHeld code : Amount) =
      before.redemptionsHeld code - order.redemptionsOf code := by
  rw [redemptionsHeld_eq_held, redemptionsHeld_eq_held, Order.redemptionsOf_eq_share]
  exact held_of_closed h _ _

theorem redemptionsHeld_of_paid (h : order.Paid before after) (code : String) :
    (after.redemptionsHeld code : Amount) = before.redemptionsHeld code := by
  rw [redemptionsHeld_eq_held, redemptionsHeld_eq_held]
  exact held_of_paid h rfl rfl

end Store

/-! ### The invariant -/

/-- The coupon with a code, if there is one, counts no negative number of redemptions. -/
def Store.CountsUp (store : Store) (code : String) : Prop :=
  ∀ coupon, store.coupons.find? code = some coupon → 0 ≤ coupon.usedCount

/-- Every record is the one of the start, less what the standing orders hold of it. -/
structure Store.Balanced (seed store : Store) : Prop where
  later : seed.Later store
  gift_nonneg : ∀ orderNo order, store.orders.find? orderNo = some order → 0 ≤ order.giftAmount
  users : ∀ id, store.users.find? id =
    (seed.users.find? id).map fun user => user.credit (-store.giftHeld id)
  plans : ∀ id, store.plans.find? id =
    (seed.plans.find? id).map fun plan => plan.restock (-store.unitsHeld id)
  /-- A redemption that is taken back is counted only by a coupon that has some. -/
  coupons : ∀ code, seed.CountsUp code → store.coupons.find? code =
    (seed.coupons.find? code).map fun coupon => coupon.recount (store.redemptionsHeld code)

namespace Store.Balanced

private theorem neg_add_eq_neg_sub (a b : Amount) : -a + b = -(a - b) := by
  rw [Int.neg_sub, Int.sub_eq_add_neg, Int.add_comm]

variable {seed before after : Store} {order : Order}

/-- The units of a plan that the store has are counted just when they were at the start. -/
theorem isFinite_restock (h : Balanced seed before) {id : PlanId} {plan : Plan}
    (hplan : seed.plans.find? id = some plan) :
    (plan.restock (-before.unitsHeld id)).isFinite = plan.isFinite := by
  obtain ⟨stored, hstored, -, -, hfinite⟩ := h.later.plans id plan hplan
  rw [h.plans, hplan, Option.map_some, Option.some.injEq] at hstored
  rw [hstored, hfinite]

/-- A balance that moves as what the orders hold of it. -/
theorem users_of_moves (h : Balanced seed before) {change : GiftChange}
    (hmoves : order.MovesGift change before after) {id : UserId}
    (hheld : after.giftHeld id = before.giftHeld id - change.signed (order.giftOf id)) :
    after.users.find? id =
      (seed.users.find? id).map fun user => user.credit (-after.giftHeld id) := by
  rw [hmoves.users, h.users, Option.map_map]
  refine Option.map_congr fun user _ => ?_
  rw [Function.comp, User.credit_credit, hheld, neg_add_eq_neg_sub]

/-- Units that move as what the orders hold of them. -/
theorem plans_of_restock (h : Balanced seed before) {id : PlanId} {units : Amount}
    (hplans : after.plans.find? id = (before.plans.find? id).map fun plan => plan.restock units)
    (hheld : (after.unitsHeld id : Amount) = before.unitsHeld id - units) :
    after.plans.find? id =
      (seed.plans.find? id).map fun plan => plan.restock (-after.unitsHeld id) := by
  rw [hplans, h.plans, Option.map_map]
  refine Option.map_congr fun plan hplan => ?_
  rw [Function.comp, Plan.restock_restock (h.isFinite_restock hplan), hheld, neg_add_eq_neg_sub]

/-- Redemptions that are counted with the order that carries the coupon. -/
theorem coupons_of_recount (h : Balanced seed before) {code : String} {redemptions : Amount}
    (hused : seed.CountsUp code) (hcoupons : after.coupons.find? code =
      (before.coupons.find? code).map fun coupon => coupon.recount redemptions)
    (hheld : (after.redemptionsHeld code : Amount) = before.redemptionsHeld code + redemptions) :
    after.coupons.find? code =
      (seed.coupons.find? code).map fun coupon => coupon.recount (after.redemptionsHeld code) := by
  rw [hcoupons, h.coupons code hused, Option.map_map]
  refine Option.map_congr fun coupon _ => ?_
  rw [Function.comp, Coupon.recount_recount, hheld]

/-- A redemption that is taken back from a coupon that counts it. -/
theorem coupons_of_release (h : Balanced seed before) {code : String} (hused : seed.CountsUp code)
    (hclosed : order.Closed before after) :
    after.coupons.find? code =
      (seed.coupons.find? code).map fun coupon => coupon.recount (after.redemptionsHeld code) := by
  have hheld := redemptionsHeld_of_closed hclosed code
  rw [hclosed.coupons, h.coupons code hused, Option.map_map]
  refine Option.map_congr fun coupon hcoupon => ?_
  by_cases hcode : order.coupon = some code
  · have hone : order.redemptionsOf code = 1 := if_pos hcode
    have hcounted : 0 < (coupon.recount (before.redemptionsHeld code)).usedCount := by
      have hseed := hused coupon hcoupon
      rw [hone] at hheld
      simp only [Coupon.recount]
      unfold Amount at *
      omega
    rw [Function.comp, if_pos hcode, Coupon.release, if_pos hcounted, hheld, hone]
    simp [Coupon.recount, Int.add_sub_assoc]
  · have hzero : order.redemptionsOf code = 0 := if_neg hcode
    rw [Function.comp, if_neg hcode, hheld, hzero, Int.sub_zero]

/-- At the start there are no orders that hold anything. -/
theorem refl {seed : Store} (horders : seed.orders = .empty) : Balanced seed seed where
  later := .refl seed
  gift_nonneg orderNo order h := by simp [horders] at h
  users id := by simp [giftHeld, held, horders]
  plans id := by simp [unitsHeld, horders]
  coupons code _ := by simp [redemptionsHeld, horders]

/-- An order that changes its status takes what it took. -/
theorem gift_nonneg_put (h : Balanced seed before) {moved found : Order} {orderNo : OrderNo}
    (hfound : (before.orders.put moved).find? orderNo = some found) (hmoved : 0 ≤ moved.giftAmount) :
    0 ≤ found.giftAmount := by
  obtain ⟨-, rfl⟩ | ⟨-, hold⟩ := Table.found_of_put hfound
  · exact hmoved
  · exact h.gift_nonneg orderNo found hold

theorem placed (h : Balanced seed before) (hlater : before.Later after)
    (hplaced : order.Placed before after) : Balanced seed after where
  later := h.later.trans hlater
  gift_nonneg orderNo found hfound := by
    rw [hplaced.orders] at hfound
    exact h.gift_nonneg_put hfound hplaced.gift_nonneg
  users id := by
    refine h.users_of_moves hplaced.gift ?_
    rw [giftHeld_of_placed hplaced, GiftChange.signed, Int.sub_neg]
  plans id := by
    refine h.plans_of_restock (hplaced.plans id) ?_
    rw [unitsHeld_of_placed hplaced, Int.sub_neg]
  coupons code hused :=
    h.coupons_of_recount hused (hplaced.coupons code) (redemptionsHeld_of_placed hplaced code)

theorem closed (h : Balanced seed before) (hlater : before.Later after)
    (hclosed : order.Closed before after) : Balanced seed after where
  later := h.later.trans hlater
  gift_nonneg orderNo found hfound := by
    rw [hclosed.orders] at hfound
    exact h.gift_nonneg_put hfound (h.gift_nonneg _ order hclosed.found)
  users id := by
    refine h.users_of_moves hclosed.gift ?_
    rw [giftHeld_of_closed hclosed (h.gift_nonneg _ order hclosed.found), GiftChange.signed]
  plans id := h.plans_of_restock (hclosed.plans id) (unitsHeld_of_closed hclosed id)
  coupons _ hused := h.coupons_of_release hused hclosed

theorem paid (h : Balanced seed before) (hlater : before.Later after)
    (hpaid : order.Paid before after) : Balanced seed after := by
  refine ⟨h.later.trans hlater, fun orderNo found hfound => ?_, fun id => ?_, fun id => ?_,
    fun code hused => ?_⟩
  · rw [hpaid.store] at hfound
    exact h.gift_nonneg_put hfound (h.gift_nonneg _ order hpaid.found)
  · rw [giftHeld_of_paid hpaid, ← h.users, hpaid.store]
  · rw [unitsHeld_of_paid hpaid, ← h.plans, hpaid.store]
  · rw [redemptionsHeld_of_paid hpaid, ← h.coupons code hused, hpaid.store]

/-- **Every change of the store preserves the balance.** -/
theorem of_change {P : Order → Prop} (h : Balanced seed before) (hlater : before.Later after)
    (hchange : before.Change P after) : Balanced seed after := by
  cases hchange with
  | placed order _ hplaced => exact h.placed hlater hplaced
  | closed order hclosed => exact h.closed hlater hclosed
  | paid order hpaid => exact h.paid hlater hpaid

end Store.Balanced

/-! ### The law -/

/-- What there was at the start is what is left and what the standing orders hold. The users, plans
and coupons are those of the start. -/
structure Store.Conserved (seed store : Store) : Prop where
  gift : seed.users.Related
    (fun id (seeded user : User) => user.giftAmount + store.giftHeld id = seeded.giftAmount)
    store.users
  /-- A plan with so many units is never oversold; one without end stays so. -/
  units : seed.plans.Related
    (fun id (seeded plan : Plan) =>
      if 0 ≤ seeded.inventory then
        0 ≤ plan.inventory ∧ plan.inventory + store.unitsHeld id = seeded.inventory
      else plan.inventory = seeded.inventory)
    store.plans
  redemptions : seed.coupons.Related
    (fun code (seeded coupon : Coupon) =>
      coupon.usedCount = seeded.usedCount + store.redemptionsHeld code)
    store.coupons

namespace Store.Balanced

variable {seed store : Store}

theorem gift_conserved (h : Balanced seed store) : seed.users.Related
    (fun id (seeded user : User) => user.giftAmount + store.giftHeld id = seeded.giftAmount)
    store.users :=
  .of_map h.users fun id user _ => Int.neg_add_cancel_right user.giftAmount (store.giftHeld id)

theorem units_conserved (h : Balanced seed store) : seed.plans.Related
    (fun id (seeded plan : Plan) =>
      if 0 ≤ seeded.inventory then
        0 ≤ plan.inventory ∧ plan.inventory + store.unitsHeld id = seeded.inventory
      else plan.inventory = seeded.inventory)
    store.plans := by
  refine .of_map h.plans fun id plan hplan => ?_
  have hfinite := h.isFinite_restock hplan
  by_cases hcounted : 0 ≤ plan.inventory
  · have hrestock : plan.restock (-store.unitsHeld id) =
        { plan with inventory := plan.inventory + -store.unitsHeld id } :=
      if_pos (decide_eq_true hcounted)
    rw [hrestock] at hfinite ⊢
    simp only [Plan.isFinite, hcounted, decide_true, decide_eq_true_eq] at hfinite
    rw [if_pos hcounted]
    exact ⟨hfinite, Int.neg_add_cancel_right plan.inventory (store.unitsHeld id)⟩
  · rw [if_neg hcounted, Plan.restock_of_endless (by simp [Plan.isFinite, hcounted])]

/-- A balanced store has lost nothing. -/
theorem conserved (h : Balanced seed store) (hused : ∀ code, seed.CountsUp code) :
    Conserved seed store where
  gift := h.gift_conserved
  units := h.units_conserved
  redemptions := .of_map (fun code => h.coupons code (hused code)) fun _ _ _ => rfl

end Store.Balanced

/-- **Nothing is lost between clients.** At a desk that opens without orders, and with coupons that
count no negative number of redemptions, this holds after every run: the gift balance of a user
and what the standing orders of the user hold of it, the units left of a plan and its standing
purchases, and the redemptions of a coupon without the standing orders that carry it, are what
they were at the start. -/
theorem Desk.conserved_of_run (world : World) (horders : world.store.orders = .empty)
    (hused : ∀ coupon ∈ world.store.coupons.rows, 0 ≤ coupon.usedCount) (events : List Event) :
    world.store.Conserved ((Desk.opened world).run events).world.store := by
  have hbalanced := run_preserves (P := world.store.Balanced)
    (fun _ _ h hlater hchange => h.of_change hlater hchange) (opened_trades world) (.refl horders)
    events
  exact hbalanced.conserved fun code coupon hfound => hused coupon (Table.mem_of_find? hfound)

/-- After a rush for the last unit, one order holds it. -/
theorem Desk.conserved_of_rush :
    lastUnit.store.Conserved ((Desk.opened lastUnit).run rush).world.store ∧
      ((Desk.opened lastUnit).run rush).world.store.unitsHeld 7 = 1 ∧
      ((Desk.opened lastUnit).run rush).world.store.giftHeld 1 = 290 ∧
      ((Desk.opened lastUnit).run rush).world.store.redemptionsHeld "TEN" = 1 := by
  refine ⟨conserved_of_run lastUnit rfl ?_ rush, ?_⟩
  · decide
  · decide +kernel

end OrderDesk
