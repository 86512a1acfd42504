import OrderDesk.Proofs.Store.Refinement

/-!
# What commits can make of a store

Whatever is committed, no record goes away, and of a record that stays only the counter or
the status changes: the gift balance of a user, the units of a plan whose units are counted,
the redemptions of a coupon and, once, the status of an order. A plan whose units are counted
stays one, and a plan without end stays as it is.

`Store.Later` is that relation between a store and what commits made of it. A client that has
read something may rely on it for the time until its own commit (`Store.later_of_commit`).

`Store.Updated` is less: a plan may also have been put in anew with another price or another
number of units, as long as one without end has stayed so.
-/

namespace OrderDesk

/-! ### Records -/

/-- A user may have another gift balance. -/
def User.Evolves (user later : User) : Prop := ∃ balance, later = { user with giftAmount := balance }

/-- A plan may have more or fewer units, if they are counted. -/
def Plan.Evolves (plan later : Plan) : Prop :=
  ∃ units, later = plan.restock units ∧ later.isFinite = plan.isFinite

/-- A coupon may have been redeemed more or less often. -/
def Coupon.Evolves (coupon later : Coupon) : Prop :=
  ∃ usedCount, later = { coupon with usedCount }

/-- An order may have moved, but only from being pending. -/
def Order.Evolves (order later : Order) : Prop :=
  ∃ status, later = { order with status } ∧ (status = order.status ∨ order.status = .pending)

theorem User.Evolves.refl (user : User) : user.Evolves user := ⟨user.giftAmount, rfl⟩

theorem User.Evolves.trans {a b c : User} (h : a.Evolves b) (h' : b.Evolves c) : a.Evolves c := by
  obtain ⟨balance, rfl⟩ := h
  obtain ⟨balance', rfl⟩ := h'
  exact ⟨balance', rfl⟩

/-- Restocking twice is restocking once, as long as the first leaves a number of units. -/
theorem Plan.restock_restock {plan : Plan} {a b : Amount}
    (h : (plan.restock a).isFinite = plan.isFinite) :
    (plan.restock a).restock b = plan.restock (a + b) := by
  unfold Plan.restock at h ⊢
  cases hfinite : plan.isFinite with
  | false => simp [hfinite]
  | true =>
    simp only [hfinite, if_true] at h ⊢
    simp [h, Int.add_assoc]

@[simp] theorem Plan.restock_zero (plan : Plan) : plan.restock 0 = plan := by
  simp [Plan.restock]

theorem Plan.restock_of_endless {plan : Plan} {units : Amount} (h : plan.isFinite = false) :
    plan.restock units = plan := by
  simp [Plan.restock, h]

theorem Plan.Evolves.refl (plan : Plan) : plan.Evolves plan :=
  ⟨0, plan.restock_zero.symm, rfl⟩

/-- A plan may be another one under the same number, but stays without end. -/
def Plan.StaysEndless (plan later : Plan) : Prop := plan.isFinite = false → later.isFinite = false

theorem Plan.Evolves.staysEndless {plan later : Plan} (h : plan.Evolves later) :
    plan.StaysEndless later := by
  obtain ⟨units, -, hfinite⟩ := h
  exact hfinite.trans

theorem Plan.Evolves.trans {a b c : Plan} (h : a.Evolves b) (h' : b.Evolves c) : a.Evolves c := by
  obtain ⟨units, rfl, hfinite⟩ := h
  obtain ⟨units', rfl, hfinite'⟩ := h'
  exact ⟨units + units', Plan.restock_restock hfinite, hfinite'.trans hfinite⟩

theorem Coupon.Evolves.refl (coupon : Coupon) : coupon.Evolves coupon := ⟨coupon.usedCount, rfl⟩

theorem Coupon.Evolves.trans {a b c : Coupon} (h : a.Evolves b) (h' : b.Evolves c) :
    a.Evolves c := by
  obtain ⟨usedCount, rfl⟩ := h
  obtain ⟨usedCount', rfl⟩ := h'
  exact ⟨usedCount', rfl⟩

theorem Order.Evolves.refl (order : Order) : order.Evolves order := ⟨order.status, rfl, .inl rfl⟩

theorem Order.Evolves.trans {a b c : Order} (h : a.Evolves b) (h' : b.Evolves c) :
    a.Evolves c := by
  obtain ⟨status, rfl, hstatus⟩ := h
  obtain ⟨status', rfl, hstatus'⟩ := h'
  refine ⟨status', rfl, ?_⟩
  rcases hstatus with rfl | hpending
  · exact hstatus'
  · exact .inr hpending

/-- A unit that can be taken leaves a number of units. -/
theorem Plan.evolves_take {plan : Plan} (h : plan.inventory ≠ 0) : plan.Evolves (plan.restock (-1)) := by
  refine ⟨-1, rfl, ?_⟩
  have hleft : ∀ n : Int, n ≠ 0 → 0 ≤ n → 0 ≤ n + -1 := by omega
  unfold Plan.restock Plan.isFinite
  by_cases hfinite : 0 ≤ plan.inventory
  · simp [hfinite, hleft _ h hfinite]
  · simp [hfinite]

theorem Plan.evolves_return (plan : Plan) : plan.Evolves (plan.restock 1) := by
  refine ⟨1, rfl, ?_⟩
  unfold Plan.restock Plan.isFinite
  by_cases hfinite : 0 ≤ plan.inventory
  · simp [hfinite, Int.add_nonneg hfinite Int.one_nonneg]
  · simp [hfinite]

theorem Coupon.evolves_release (coupon : Coupon) : coupon.Evolves coupon.release := by
  unfold Coupon.release
  split
  · exact ⟨_, rfl⟩
  · exact .refl coupon

theorem Order.evolves_move {order : Order} {current next : OrderStatus}
    (h : order.status = current) (hmove : current.canMoveTo next = true) :
    order.Evolves { order with status := next } := by
  refine ⟨next, rfl, .inr ?_⟩
  rw [OrderStatus.canMoveTo, Bool.and_eq_true, beq_iff_eq] at hmove
  exact h.trans hmove.1

/-! ### Tables -/

namespace Table

variable {α κ : Type} {key : α → κ} [DecidableEq κ]

/-- The records of a table are still there, each changed as a relation says. -/
def Evolves (R : α → α → Prop) (table later : Table key) : Prop :=
  ∀ k record, table.find? k = some record → ∃ record', later.find? k = some record' ∧ R record record'

theorem Evolves.refl {R : α → α → Prop} (hR : ∀ a, R a a) (table : Table key) :
    table.Evolves R table := fun _ record h => ⟨record, h, hR record⟩

theorem Evolves.trans {R : α → α → Prop} (hR : ∀ {a b c}, R a b → R b c → R a c)
    {a b c : Table key} (h : a.Evolves R b) (h' : b.Evolves R c) : a.Evolves R c := by
  intro k record hrecord
  obtain ⟨middle, hmiddle, hfirst⟩ := h k record hrecord
  obtain ⟨last, hlast, hsecond⟩ := h' k middle hmiddle
  exact ⟨last, hlast, hR hfirst hsecond⟩

theorem Evolves.mono {R S : α → α → Prop} (hRS : ∀ a b, R a b → S a b) {a b : Table key}
    (h : a.Evolves R b) : a.Evolves S b := by
  intro k record hrecord
  obtain ⟨record', hrecord', hR⟩ := h k record hrecord
  exact ⟨record', hrecord', hRS _ _ hR⟩

/-- Putting in a record that the one under its key may become. -/
theorem evolves_put {R : α → α → Prop} (hR : ∀ a, R a a) {table : Table key} {old record : α}
    (hold : table.find? (key record) = some old) (h : R old record) :
    table.Evolves R (table.put record) := by
  intro k found hfound
  rw [find?_put]
  by_cases hk : key record = k
  · subst hk
    rw [hold, Option.some.injEq] at hfound
    exact ⟨record, if_pos rfl, hfound ▸ h⟩
  · exact ⟨found, by rw [if_neg hk, hfound], hR found⟩

/-- Adding a record under a new key. -/
theorem evolves_put_new {R : α → α → Prop} (hR : ∀ a, R a a) {table : Table key} {record : α}
    (hnew : table.find? (key record) = none) : table.Evolves R (table.put record) := by
  intro k found hfound
  have hk : key record ≠ k := by
    rintro rfl
    simp [hnew] at hfound
  exact ⟨found, by rw [find?_put_of_ne table hk, hfound], hR found⟩

end Table

/-! ### Stores -/

/-- What commits may have made of a store. -/
structure Store.Later (store later : Store) : Prop where
  users : store.users.Evolves User.Evolves later.users
  plans : store.plans.Evolves Plan.Evolves later.plans
  coupons : store.coupons.Evolves Coupon.Evolves later.coupons
  orders : store.orders.Evolves Order.Evolves later.orders
  payments : later.payments = store.payments
  subscriptions : later.subscriptions = store.subscriptions

namespace Store

theorem Later.refl (store : Store) : store.Later store where
  users := .refl User.Evolves.refl _
  plans := .refl Plan.Evolves.refl _
  coupons := .refl Coupon.Evolves.refl _
  orders := .refl Order.Evolves.refl _
  payments := rfl
  subscriptions := rfl

theorem Later.trans {a b c : Store} (h : a.Later b) (h' : b.Later c) : a.Later c where
  users := h.users.trans (fun first second => first.trans second) h'.users
  plans := h.plans.trans (fun first second => first.trans second) h'.plans
  coupons := h.coupons.trans (fun first second => first.trans second) h'.coupons
  orders := h.orders.trans (fun first second => first.trans second) h'.orders
  payments := h'.payments.trans h.payments
  subscriptions := h'.subscriptions.trans h.subscriptions

/-- One write makes a later store. -/
theorem later_of_write {store after : Store} {w : Write} (h : store.write w = .ok after) :
    store.Later after := by
  cases w with
  | setGiftBalance id expected balance =>
    obtain ⟨user, huser, -, -, rfl⟩ := write_setGiftBalance_eq_ok_iff.1 h
    obtain rfl := Table.key_of_find? huser
    exact { Later.refl store with
      users := Table.evolves_put User.Evolves.refl huser ⟨balance, rfl⟩ }
  | appendEntry entry =>
    obtain rfl := write_appendEntry_eq_ok_iff.1 h
    exact { Later.refl store with }
  | takeUnit id =>
    obtain ⟨plan, hplan, hunits, rfl⟩ := write_takeUnit_eq_ok_iff.1 h
    obtain rfl := Table.key_of_find? hplan
    exact { Later.refl store with
      plans := Table.evolves_put Plan.Evolves.refl (by rwa [Plan.id_restock])
        (Plan.evolves_take hunits) }
  | returnUnit id =>
    obtain ⟨-, rfl⟩ | ⟨plan, hplan, -, rfl⟩ := write_returnUnit_eq_ok_iff.1 h
    · exact .refl _
    · obtain rfl := Table.key_of_find? hplan
      exact { Later.refl store with
        plans := Table.evolves_put Plan.Evolves.refl (by rwa [Plan.id_restock])
          plan.evolves_return }
  | redeem code =>
    obtain ⟨coupon, hcoupon, -, -, rfl⟩ := write_redeem_eq_ok_iff.1 h
    obtain rfl := Table.key_of_find? hcoupon
    exact { Later.refl store with
      coupons := Table.evolves_put Coupon.Evolves.refl hcoupon ⟨_, rfl⟩ }
  | release code =>
    obtain ⟨-, rfl⟩ | ⟨coupon, hcoupon, rfl⟩ := write_release_eq_ok_iff.1 h
    · exact .refl _
    · obtain rfl := Table.key_of_find? hcoupon
      exact { Later.refl store with
        coupons := Table.evolves_put Coupon.Evolves.refl (by rwa [Coupon.code_release])
          coupon.evolves_release }
  | insert order =>
    obtain ⟨hnew, rfl⟩ := write_insert_eq_ok_iff.1 h
    exact { Later.refl store with
      orders := Table.evolves_put_new Order.Evolves.refl hnew }
  | move orderNo current next =>
    obtain ⟨order, horder, hstatus, hmove, rfl⟩ := write_move_eq_ok_iff.1 h
    obtain rfl := Table.key_of_find? horder
    exact { Later.refl store with
      orders := Table.evolves_put Order.Evolves.refl horder (Order.evolves_move hstatus hmove) }

/-- **What a commit leaves is a later store**, whatever it writes. -/
theorem later_of_commit {store after : Store} {writes : List Write}
    (h : store.commit writes = .ok after) : store.Later after := by
  induction writes generalizing store with
  | nil =>
    obtain rfl := commit_nil_eq_ok_iff.1 h
    exact .refl _
  | cons w rest ih =>
    obtain ⟨next, hwrite, hrest⟩ := commit_cons_eq_ok_iff.1 h
    exact (later_of_write hwrite).trans (ih hrest)

/-! ### Plans that are put in anew -/

/-- What commits and the putting in of plans may have made of a store. -/
structure Updated (store later : Store) : Prop where
  users : store.users.Evolves User.Evolves later.users
  plans : store.plans.Evolves Plan.StaysEndless later.plans
  coupons : store.coupons.Evolves Coupon.Evolves later.coupons
  orders : store.orders.Evolves Order.Evolves later.orders
  payments : later.payments = store.payments
  subscriptions : later.subscriptions = store.subscriptions

theorem Later.updated {store later : Store} (h : store.Later later) : store.Updated later :=
  { h with plans := h.plans.mono fun _ _ => Plan.Evolves.staysEndless }

theorem Updated.refl (store : Store) : store.Updated store := (Later.refl store).updated

theorem Updated.trans {a b c : Store} (h : a.Updated b) (h' : b.Updated c) : a.Updated c where
  users := h.users.trans (fun first second => first.trans second) h'.users
  plans := h.plans.trans (fun first second hfinite => second (first hfinite)) h'.plans
  coupons := h.coupons.trans (fun first second => first.trans second) h'.coupons
  orders := h.orders.trans (fun first second => first.trans second) h'.orders
  payments := h'.payments.trans h.payments
  subscriptions := h'.subscriptions.trans h.subscriptions

/-- Putting in a plan, if that does not give an end to one without end. -/
theorem updated_put {store : Store} {plan : Plan}
    (h : ∀ stored, store.plans.find? plan.id = some stored → stored.StaysEndless plan) :
    store.Updated { store with plans := store.plans.put plan } := by
  refine { Updated.refl store with plans := ?_ }
  cases hstored : store.plans.find? plan.id with
  | none => exact Table.evolves_put_new (fun _ => id) hstored
  | some stored => exact Table.evolves_put (fun _ => id) hstored (h stored hstored)

end Store

end OrderDesk
