import OrderDesk.Proofs.Store.Later

/-!
# What happens to an order in the store

An order is placed, paid or closed, and nothing else ever changes the store. Placing an order
takes gift balance, a unit of a plan and a redemption of a coupon; closing it gives back what
it took; paying it moves nothing but its status. The three are stated record by record, for
every key of every table, so that each also tells what stays as it was.

* `Order.Placed`, `Order.Closed`, `Order.Paid`: a store before and after.
* `Store.Change`: one of the three.
* `Order.movesGift_of_commit`, `Order.find?_restock`: the writes for a balance and for a plan,
  as changes of every balance and of every plan.
-/

namespace OrderDesk

/-! ### What an order takes -/

namespace Order

/-- What an order takes from the gift balance of a user. -/
def giftOf (order : Order) (id : UserId) : Amount :=
  if order.userId = id then max order.giftAmount 0 else 0

/-- The units that an order takes of a plan: one for a purchase, whatever its quantity. -/
def unitsOf (order : Order) (id : PlanId) : Amount :=
  if order.kind = .purchase ∧ order.planId = some id then 1 else 0

/-- The redemptions of a coupon that an order counts for. -/
def redemptionsOf (order : Order) (code : String) : Amount :=
  if order.coupon = some code then 1 else 0

variable {order : Order}

theorem giftOf_self (order : Order) : order.giftOf order.userId = max order.giftAmount 0 :=
  if_pos rfl

theorem giftOf_of_ne {id : UserId} (h : order.userId ≠ id) : order.giftOf id = 0 := if_neg h

theorem giftOf_of_le {id : UserId} (h : order.giftAmount ≤ 0) : order.giftOf id = 0 := by
  unfold giftOf
  rw [Int.max_eq_right h, ite_self]

theorem unitsOf_nonneg (order : Order) (id : PlanId) : 0 ≤ order.unitsOf id := by
  unfold unitsOf
  split
  · exact Int.one_nonneg
  · exact Int.le_refl 0

/-- An order takes units only of the plan that it buys. -/
theorem unitsOf_pos_iff {id : PlanId} :
    0 < order.unitsOf id ↔ order.kind = .purchase ∧ order.planId = some id := by
  unfold unitsOf
  split
  · rename_i htakes
    exact ⟨fun _ => htakes, fun _ => Int.one_pos⟩
  · rename_i htakes
    exact ⟨fun hpos => absurd hpos (Int.lt_irrefl 0), fun hunit => absurd hunit htakes⟩

theorem unitsOf_self {id : PlanId} (hkind : order.kind = .purchase)
    (hplan : order.planId = some id) : order.unitsOf id = 1 := if_pos ⟨hkind, hplan⟩

theorem unitsOf_of_ne {id other : PlanId} (hplan : order.planId = some id) (h : id ≠ other) :
    order.unitsOf other = 0 :=
  if_neg fun ⟨_, hother⟩ => h (Option.some.inj (hplan.symm.trans hother))

theorem unitsOf_of_kind {id : PlanId} (h : order.kind ≠ .purchase) : order.unitsOf id = 0 :=
  if_neg fun ⟨hkind, _⟩ => h hkind

theorem unitsOf_of_none {id : PlanId} (h : order.planId = none) : order.unitsOf id = 0 :=
  if_neg fun ⟨_, hplan⟩ => by simp [h] at hplan

theorem redemptionsOf_self {code : String} (h : order.coupon = some code) :
    order.redemptionsOf code = 1 := if_pos h

theorem redemptionsOf_of_ne {code other : String} (hcoupon : order.coupon = some code)
    (h : code ≠ other) : order.redemptionsOf other = 0 :=
  if_neg fun hother => h (Option.some.inj (hcoupon.symm.trans hother))

end Order

/-- The user with a gift balance that is higher by some amount. -/
def User.credit (user : User) (amount : Amount) : User :=
  { user with giftAmount := user.giftAmount + amount }

/-- The coupon with some redemptions more. -/
def Coupon.recount (coupon : Coupon) (redemptions : Amount) : Coupon :=
  { coupon with usedCount := coupon.usedCount + redemptions }

/-- The change of a balance, with its sign. -/
def GiftChange.signed : GiftChange → Amount → Amount
  | .increase, amount => amount
  | .decrease, amount => -amount

@[simp] theorem User.credit_zero (user : User) : user.credit 0 = user := by
  simp [User.credit]

theorem User.credit_credit (user : User) (a b : Amount) :
    (user.credit a).credit b = user.credit (a + b) := by
  simp [User.credit, Int.add_assoc]

@[simp] theorem Coupon.recount_zero (coupon : Coupon) : coupon.recount 0 = coupon := by
  simp [Coupon.recount]

theorem Coupon.recount_recount (coupon : Coupon) (a b : Amount) :
    (coupon.recount a).recount b = coupon.recount (a + b) := by
  simp [Coupon.recount, Int.add_assoc]

@[simp] theorem GiftChange.signed_zero (change : GiftChange) : change.signed 0 = 0 := by
  cases change <;> rfl

/-- The order at another status. -/
def Order.withStatus (order : Order) (status : OrderStatus) : Order := { order with status }

/-! ### The three changes -/

/-- An entry of the ledger tells that the gift balance of the user of an order has moved by what
the order takes. -/
structure GiftEntry.Tells (entry : GiftEntry) (order : Order) (change : GiftChange) : Prop where
  userId : entry.userId = order.userId
  change : entry.change = change
  orderNo : entry.orderNo = order.orderNo
  amount : entry.amount = order.giftAmount

/-- An entry tells such a move and the balance that it has led to. -/
structure GiftEntry.Records (entry : GiftEntry) (order : Order) (change : GiftChange)
    (users : Table User.id) : Prop extends entry.Tells order change where
  balance : ∃ user, users.find? order.userId = some user ∧ entry.balance = user.giftAmount ∧
    0 ≤ user.giftAmount

/-- The entries that a ledger gains when the gift balance of the user of an order moves by what
the order takes: one, or none when the order takes nothing. -/
def Order.Recorded (order : Order) (change : GiftChange) (users : Table User.id)
    (entries : List GiftEntry) : Prop :=
  if 0 < order.giftAmount then ∃ entry, entries = [entry] ∧ entry.Records order change users
  else entries = []

theorem Order.recorded_iff_of_pos {order : Order} {change : GiftChange} {users : Table User.id}
    {entries : List GiftEntry} (h : 0 < order.giftAmount) :
    order.Recorded change users entries ↔
      ∃ entry, entries = [entry] ∧ entry.Records order change users := by
  rw [Recorded, if_pos h]

theorem Order.recorded_iff_of_le {order : Order} {change : GiftChange} {users : Table User.id}
    {entries : List GiftEntry} (h : order.giftAmount ≤ 0) :
    order.Recorded change users entries ↔ entries = [] := by
  rw [Recorded, if_neg (Int.not_lt.2 h)]

/-- The gift balance of the user of an order moves by what the order takes, the balances of all
others stay, and the ledger tells the move. -/
structure Order.MovesGift (order : Order) (change : GiftChange) (before after : Store) : Prop where
  users : ∀ id, after.users.find? id =
    (before.users.find? id).map fun user => user.credit (change.signed (order.giftOf id))
  ledger : ∃ entries, after.ledger = before.ledger ++ entries ∧
    order.Recorded change after.users entries

/-- An order is placed: it is there, it is pending, and what it takes has been taken. -/
structure Order.Placed (order : Order) (before after : Store) : Prop where
  absent : before.orders.find? order.orderNo = none
  pending : order.status = .pending
  gift_nonneg : 0 ≤ order.giftAmount
  orders : after.orders = before.orders.put order
  gift : order.MovesGift .decrease before after
  plans : ∀ id, after.plans.find? id =
    (before.plans.find? id).map fun plan => plan.restock (-order.unitsOf id)
  /-- The plan of a purchase is there and not sold out. -/
  stocked : order.kind = .purchase → ∃ id plan, order.planId = some id ∧
    before.plans.find? id = some plan ∧ plan.inventory ≠ 0
  coupons : ∀ code, after.coupons.find? code =
    (before.coupons.find? code).map fun coupon => coupon.recount (order.redemptionsOf code)
  /-- The coupon of the order is there and can be redeemed. -/
  redeemable : ∀ code, order.coupon = some code → ∃ coupon,
    before.coupons.find? code = some coupon ∧ coupon.hasRemaining
  payments : after.payments = before.payments
  subscriptions : after.subscriptions = before.subscriptions

/-- An order that was pending is closed, and what it took has been given back. -/
structure Order.Closed (order : Order) (before after : Store) : Prop where
  found : before.orders.find? order.orderNo = some order
  pending : order.status = .pending
  orders : after.orders = before.orders.put (order.withStatus .cancelled)
  gift : order.MovesGift .increase before after
  plans : ∀ id, after.plans.find? id =
    (before.plans.find? id).map fun plan => plan.restock (order.unitsOf id)
  /-- A coupon that counts no redemption is left as it is. -/
  coupons : ∀ code, after.coupons.find? code = (before.coupons.find? code).map fun coupon =>
    if order.coupon = some code then coupon.release else coupon
  payments : after.payments = before.payments
  subscriptions : after.subscriptions = before.subscriptions

/-- The order that was placed is there. -/
theorem Order.Placed.found_after {order : Order} {before after : Store}
    (h : order.Placed before after) : after.orders.find? order.orderNo = some order := by
  rw [h.orders]
  exact Table.find?_put_self before.orders order

/-- The order that was closed is there, and cancelled. -/
theorem Order.Closed.found_after {order : Order} {before after : Store}
    (h : order.Closed before after) :
    after.orders.find? order.orderNo = some (order.withStatus .cancelled) := by
  rw [h.orders]
  exact Table.find?_put_self before.orders (order.withStatus .cancelled)

/-- Closing an order cancels it and leaves the others as they are. -/
theorem Order.Closed.rows {order : Order} {before after : Store} (h : order.Closed before after) :
    after.orders.rows = before.orders.rows.map fun other =>
      if other.orderNo = order.orderNo then other.withStatus .cancelled else other := by
  have hcontains : before.orders.contains (order.withStatus .cancelled).orderNo = true :=
    Option.isSome_iff_exists.2 ⟨order, h.found⟩
  rw [h.orders, Table.rows_put_of_contains hcontains]
  refine List.map_congr_left fun other hmem => ?_
  by_cases hno : other.orderNo = order.orderNo
  · rw [Table.eq_of_find? h.found hmem hno]
    rfl
  · exact (if_neg hno).trans (if_neg hno).symm

/-- An order that was pending is paid, and nothing else changes. -/
structure Order.Paid (order : Order) (before after : Store) : Prop where
  found : before.orders.find? order.orderNo = some order
  pending : order.status = .pending
  store : after = { before with orders := before.orders.put (order.withStatus .paid) }

/-- One change of the store, where an order that is placed meets a condition. -/
inductive Store.Change (P : Order → Prop) (before after : Store) : Prop
  | placed (order : Order) (meets : P order) (h : order.Placed before after)
  | closed (order : Order) (h : order.Closed before after)
  | paid (order : Order) (h : order.Paid before after)

/-- Orders that meet a condition meet a weaker one. -/
theorem Store.Change.mono {P Q : Order → Prop} {before after : Store} (h : before.Change P after)
    (hPQ : ∀ order, P order → Q order) : before.Change Q after := by
  cases h with
  | placed order meets hplaced => exact .placed order (hPQ order meets) hplaced
  | closed order hclosed => exact .closed order hclosed
  | paid order hpaid => exact .paid order hpaid

/-! ### Writes that move a balance or units -/

namespace Order

variable {order : Order} {change : GiftChange} {store after : Store}

/-- An order that takes nothing moves no balance. -/
theorem movesGift_of_le (change : GiftChange) (store : Store) (h : order.giftAmount ≤ 0) :
    order.MovesGift change store store where
  users id := by
    simp [giftOf_of_le h]
  ledger := ⟨[], (List.append_nil _).symm, (recorded_iff_of_le h).2 rfl⟩

/-- The two writes for a gift balance move it by what the order takes, when they set it to what
it was expected to be with the change. -/
theorem movesGift_of_commit {expected balance : Amount} {entry : GiftEntry}
    (h : store.commit [.setGiftBalance order.userId expected balance, .appendEntry entry] =
      .ok after)
    (hgift : 0 < order.giftAmount)
    (hbalance : balance = expected + change.signed order.giftAmount)
    (huser : entry.userId = order.userId) (hchange : entry.change = change)
    (hno : entry.orderNo = order.orderNo) (hamount : entry.amount = order.giftAmount)
    (hentry : entry.balance = balance) :
    order.MovesGift change store after ∧ ∃ users ledger, after = { store with users, ledger } := by
  obtain ⟨_, hset, happend⟩ := Store.commit_cons_eq_ok_iff.1 h
  obtain ⟨user, hfound, hexpected, hnonneg, rfl⟩ := Store.write_setGiftBalance_eq_ok_iff.1 hset
  obtain rfl := Store.write_appendEntry_eq_ok_iff.1 (Store.commit_singleton_eq_ok_iff.1 happend)
  have hid : user.id = order.userId := Table.key_of_find? hfound
  have hold : store.users.find? ({ user with giftAmount := balance } : User).id = some user := by
    rw [hid, hfound]
  have hput : (store.users.put { user with giftAmount := balance }).find? order.userId =
      some { user with giftAmount := balance } := hid ▸ Table.find?_put_self store.users _
  refine ⟨⟨fun id => ?_, [entry], rfl, (recorded_iff_of_pos hgift).2 ⟨entry, rfl, ?_⟩⟩, _, _, rfl⟩
  · refine Table.find?_put_eq_map (f := fun id user => user.credit (change.signed (order.giftOf id)))
      hold ?_ ?_ id
    · have hmax : max order.giftAmount 0 = order.giftAmount := Int.max_eq_left (Int.le_of_lt hgift)
      simp only [hid, giftOf_self, hmax, User.credit, hexpected, ← hbalance]
    · intro k a hk
      rw [giftOf_of_ne (hid ▸ hk), GiftChange.signed_zero, User.credit_zero]
  · exact ⟨⟨huser, hchange, hno, hamount⟩, _, hput, hentry, hnonneg⟩

/-- A purchase has no units of other plans. -/
theorem restock_of_ne {id : PlanId} (hplan : order.planId = some id) {f : Amount → Amount}
    (hf : f 0 = 0) {k : PlanId} (hk : id ≠ k) (plan : Plan) :
    plan.restock (f (order.unitsOf k)) = plan := by
  rw [unitsOf_of_ne hplan hk, hf, Plan.restock_zero]

/-- Restocking the plan of a purchase restocks every plan by what the purchase has of it. -/
theorem find?_restock {plans : Table Plan.id} {id : PlanId} {plan : Plan}
    (hkind : order.kind = .purchase) (hplan : order.planId = some id)
    (hfound : plans.find? id = some plan) {f : Amount → Amount} (hf : f 0 = 0) (k : PlanId) :
    (plans.put (plan.restock (f 1))).find? k =
      (plans.find? k).map fun plan => plan.restock (f (order.unitsOf k)) := by
  have hkey : (plan.restock (f 1)).id = id := (plan.id_restock _).trans (Table.key_of_find? hfound)
  refine Table.find?_put_eq_map (f := fun k plan => plan.restock (f (order.unitsOf k)))
    (hkey ▸ hfound) ?_ (fun k other hk => ?_) k
  · rw [hkey, unitsOf_self hkind hplan]
  · exact restock_of_ne hplan hf (hkey ▸ hk) other

end Order

end OrderDesk
