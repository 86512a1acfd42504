import OrderDesk.Proofs.Submission.Acceptance
import Mathlib.Data.List.Forall2

/-!
# Numbers of orders do not matter

Two stores are alike when they have the same records, but for the numbers of their orders, the
times when these were made, and their ledgers (`Store.Alike`). A request cannot tell such stores
apart: its rules are the same (`preparingRules_alike`), but that the number for its order is free.
When that is so in both stores or in neither, it ends in both of them alike (`run_submit_alike`):
carried out, with stores that are alike again, or refused, or stopped.
-/

namespace OrderDesk

/-! ### Stores that are alike -/

/-- The order but for its number and the time when it was made. -/
def Order.unnumbered (order : Order) : Order :=
  { order with orderNo := "", createdAt := ⟨0, 0⟩ }

/-- Two stores hold the same, but for numbers and times of their orders and for their ledgers. -/
structure Store.Alike (first second : Store) : Prop where
  plans : first.plans = second.plans
  payments : first.payments = second.payments
  coupons : first.coupons = second.coupons
  users : first.users = second.users
  subscriptions : first.subscriptions = second.subscriptions
  orders : first.orders.rows.map Order.unnumbered = second.orders.rows.map Order.unnumbered

namespace Store.Alike

variable {first second : Store}

theorem refl (store : Store) : store.Alike store := ⟨rfl, rfl, rfl, rfl, rfl, rfl⟩

/-- Orders are counted by what stores that are alike have in common. -/
theorem countP_orders (h : first.Alike second) (p : Order → Bool) :
    first.orders.rows.countP (fun order => p order.unnumbered) =
      second.orders.rows.countP (fun order => p order.unnumbered) := by
  have hcount := congrArg (List.countP p) h.orders
  rwa [List.countP_map, List.countP_map] at hcount

theorem redemptions (h : first.Alike second) (user : UserId) (code : String) :
    first.redemptions user code = second.redemptions user code := by
  rw [Store.redemptions, Store.redemptions, ← List.countP_eq_length_filter,
    ← List.countP_eq_length_filter]
  exact h.countP_orders fun order => order.userId == user && order.coupon == some code

theorem hasPaidOrders (h : first.Alike second) (user : UserId) :
    first.hasPaidOrders user = second.hasPaidOrders user := by
  have hany := congrArg (List.any · fun order => order.userId == user && order.status == .paid)
    h.orders
  rwa [List.any_map, List.any_map] at hany

theorem holdings (h : first.Alike second) (user : UserId) (plan : PlanId) :
    first.holdings user plan = second.holdings user plan := by
  rw [Store.holdings, Store.holdings, h.subscriptions]

theorem holdsAny (h : first.Alike second) (user : UserId) :
    first.holdsAny user = second.holdsAny user := by
  rw [Store.holdsAny, Store.holdsAny, h.subscriptions]

theorem counterFits (h : first.Alike second) (code : Option String) :
    first.counterFits code = second.counterFits code := by
  rw [Store.counterFits, Store.counterFits, h.coupons]

end Store.Alike

/-! ### Commits -/

/-- Two writes do the same but for numbers and times of orders, and entries of the ledger. -/
inductive Write.Alike : Write → Write → Prop
  | setGiftBalance (id : UserId) (expected balance : Amount) :
    Alike (.setGiftBalance id expected balance) (.setGiftBalance id expected balance)
  | appendEntry (entry other : GiftEntry) : Alike (.appendEntry entry) (.appendEntry other)
  | takeUnit (id : PlanId) : Alike (.takeUnit id) (.takeUnit id)
  | redeem (code : String) : Alike (.redeem code) (.redeem code)
  | insert {order other : Order} (h : order.unnumbered = other.unnumbered) :
    Alike (.insert order) (.insert other)

namespace Store.Alike

variable {first second firstAfter secondAfter : Store}

theorem write (h : first.Alike second) {w w' : Write} (hw : w.Alike w')
    (hfirst : first.write w = .ok firstAfter) (hsecond : second.write w' = .ok secondAfter) :
    firstAfter.Alike secondAfter := by
  cases hw with
  | setGiftBalance id expected balance =>
    obtain ⟨user, huser, -, -, rfl⟩ := write_setGiftBalance_eq_ok_iff.1 hfirst
    obtain ⟨user', huser', -, -, rfl⟩ := write_setGiftBalance_eq_ok_iff.1 hsecond
    rw [h.users] at huser
    obtain rfl := Option.some.inj (huser.symm.trans huser')
    exact { h with users := by simp only [h.users] }
  | appendEntry entry other =>
    obtain rfl := write_appendEntry_eq_ok_iff.1 hfirst
    obtain rfl := write_appendEntry_eq_ok_iff.1 hsecond
    exact { h with }
  | takeUnit id =>
    obtain ⟨plan, hplan, -, rfl⟩ := write_takeUnit_eq_ok_iff.1 hfirst
    obtain ⟨plan', hplan', -, rfl⟩ := write_takeUnit_eq_ok_iff.1 hsecond
    rw [h.plans] at hplan
    obtain rfl := Option.some.inj (hplan.symm.trans hplan')
    exact { h with plans := by simp only [h.plans] }
  | redeem code =>
    obtain ⟨coupon, hcoupon, -, -, rfl⟩ := write_redeem_eq_ok_iff.1 hfirst
    obtain ⟨coupon', hcoupon', -, -, rfl⟩ := write_redeem_eq_ok_iff.1 hsecond
    rw [h.coupons] at hcoupon
    obtain rfl := Option.some.inj (hcoupon.symm.trans hcoupon')
    exact { h with coupons := by simp only [h.coupons] }
  | insert horder =>
    obtain ⟨habsent, rfl⟩ := write_insert_eq_ok_iff.1 hfirst
    obtain ⟨habsent', rfl⟩ := write_insert_eq_ok_iff.1 hsecond
    refine { h with orders := ?_ }
    simp only [Table.rows_put_of_absent habsent, Table.rows_put_of_absent habsent',
      List.map_append, h.orders, List.map_cons, horder]

/-- **Commits that do the same leave stores that are alike.** -/
theorem commit (h : first.Alike second) {ws ws' : List Write} (hws : ws.Forall₂ Write.Alike ws')
    (hfirst : first.commit ws = .ok firstAfter) (hsecond : second.commit ws' = .ok secondAfter) :
    firstAfter.Alike secondAfter := by
  induction hws generalizing first second with
  | nil =>
    obtain rfl := commit_nil_eq_ok_iff.1 hfirst
    obtain rfl := commit_nil_eq_ok_iff.1 hsecond
    exact h
  | cons hw _ ih =>
    obtain ⟨next, hwrite, hrest⟩ := commit_cons_eq_ok_iff.1 hfirst
    obtain ⟨next', hwrite', hrest'⟩ := commit_cons_eq_ok_iff.1 hsecond
    exact ih (h.write hw hwrite hwrite') hrest hrest'

end Store.Alike

/-- Two fulfillments are the same but for number and time of the order. -/
structure Fulfillment.Alike (f g : Fulfillment) : Prop where
  gift : f.gift = g.gift
  plan : f.plan = g.plan
  order : f.order.unnumbered = g.order.unnumbered

theorem Fulfillment.Alike.writes {f g : Fulfillment} (h : f.Alike g) (now later : Instant) :
    (f.writes now).Forall₂ Write.Alike (g.writes later) := by
  have huser : f.order.userId = g.order.userId := (congrArg Order.userId h.order :)
  have hcoupon : f.order.coupon = g.order.coupon := (congrArg Order.coupon h.order :)
  have hgift : (f.giftWrites now).Forall₂ Write.Alike (g.giftWrites later) := by
    unfold giftWrites
    rw [h.gift, huser]
    cases g.gift with
    | none => exact .nil
    | some taken =>
      unfold GiftEntry.debit?
      by_cases hpos : 0 < taken.1.deducted
      · simp only [if_pos hpos]
        exact .cons (.setGiftBalance _ _ _) (.cons (.appendEntry _ _) .nil)
      · simp only [if_neg hpos]
        exact .nil
  have hunit : f.unitWrites.Forall₂ Write.Alike g.unitWrites := by
    unfold unitWrites
    rw [h.plan]
    cases g.plan with
    | none => exact .nil
    | some plan =>
      cases hfinite : plan.isFinite <;> simp only [hfinite]
      · exact .nil
      · exact .cons (.takeUnit _) .nil
  have hredeem : f.couponWrites.Forall₂ Write.Alike g.couponWrites := by
    unfold couponWrites
    rw [hcoupon]
    cases g.order.coupon with
    | none => exact .nil
    | some code => exact .cons (.redeem _) .nil
  have hinsert : [Write.insert f.order].Forall₂ Write.Alike [Write.insert g.order] :=
    .cons (.insert h.order) .nil
  exact List.rel_append (List.rel_append (List.rel_append hgift hunit) hredeem) hinsert

/-! ### Requests -/

namespace Submission

variable {config : Config} {stamp stamp' : Stamp} {session : Option UserId}
  {first second : Store} {request : Request} {f g : Fulfillment}

/-- **The rules do not tell stores apart that are alike.** -/
theorem preparingRules_alike (h : first.Alike second) (config : Config) (session : Option UserId)
    (request : Request) :
    preparingRules config first session request = preparingRules config second session request := by
  cases request <;>
    simp only [preparingRules, purchaseRules, renewalRules, rechargeRules, termsRules, couponRules,
      h.plans, h.payments, h.coupons, h.users, h.subscriptions, h.redemptions, h.holdings,
      h.holdsAny]

/-- The terms of a request are told by what is read. -/
theorem Terms.Read.eq_of_alike (h : first.Alike second) {terms terms' : Terms} {wanted : Amount}
    {code : Option String} {paymentId : PaymentId}
    (hread : terms.Read .still config session wanted code paymentId first)
    (hread' : terms'.Read .still config session wanted code paymentId second)
    (hplan : terms.plan.id = terms'.plan.id) : terms = terms' := by
  obtain ⟨user, plan, quantity, coupon, payment, price⟩ := terms
  obtain ⟨user', plan', quantity', coupon', payment', price'⟩ := terms'
  have hid : user.id = user'.id := Option.some.inj (hread.session.symm.trans hread'.session)
  obtain rfl : user = user' := by
    have huser := hread.user.now
    rw [h.users, hid] at huser
    exact Option.some.inj (huser.symm.trans hread'.user.now)
  obtain rfl : plan = plan' := by
    have hfound := hread.plan.now
    rw [h.plans, hplan] at hfound
    exact Option.some.inj (hfound.symm.trans hread'.plan.now)
  obtain rfl : quantity = quantity' :=
    Except.ok.inj (hread.quantity.symm.trans hread'.quantity)
  obtain rfl : payment = payment' := by
    have hfound := hread.payment.now
    rw [h.payments] at hfound
    exact Option.some.inj (hfound.symm.trans hread'.payment.now)
  obtain rfl : coupon = coupon' := by
    have hcoupon := hread.coupon
    have hcoupon' := hread'.coupon
    cases hcoupon with
    | none =>
      cases hcoupon'
      rfl
    | some hstored =>
      cases hcoupon' with
      | some hstored' =>
        have hfound := hstored.stored.now
        rw [h.coupons] at hfound
        rw [Option.some.inj (hfound.symm.trans hstored'.stored.now)]
  obtain rfl : price = price' := Except.ok.inj (hread.price.symm.trans hread'.price)
  rfl

/-- **What is prepared from stores that are alike is alike.** -/
theorem Prepared.alike (h : first.Alike second)
    (hf : Prepared .still config stamp session first request f)
    (hg : Prepared .still config stamp' session second request g) : f.Alike g := by
  cases hf with
  | purchase read plan _ _ _ _ customer =>
    cases hg with
    | purchase read' plan' _ _ _ _ customer' =>
      obtain rfl := read.eq_of_alike h read' (plan.trans plan'.symm)
      have hnew := customer.now
      rw [h.hasPaidOrders, ← customer'.now] at hnew
      rw [hnew]
      exact ⟨rfl, rfl, rfl⟩
  | renewal read held _ plan =>
    cases hg with
    | renewal read' held' _ plan' =>
      have hheld := held.now
      rw [h.subscriptions] at hheld
      obtain rfl := Option.some.inj (hheld.symm.trans held'.now)
      obtain rfl := read.eq_of_alike h read' (plan.trans plan'.symm)
      exact ⟨rfl, rfl, rfl⟩
  | recharge signedIn _ paid price customer =>
    cases hg with
    | recharge signedIn' _ paid' price' customer' =>
      obtain rfl := Option.some.inj (signedIn.symm.trans signedIn')
      have hpaid := paid.now
      rw [h.payments] at hpaid
      obtain rfl := Option.some.inj (hpaid.symm.trans paid'.now)
      obtain rfl := Except.ok.inj (price.symm.trans price')
      have hnew := customer.now
      rw [h.hasPaidOrders, ← customer'.now] at hnew
      rw [hnew]
      exact ⟨rfl, rfl, rfl⟩

/-- Two requests are refused, whatever for, or they are stopped for the same. -/
inductive Failure.Alike : Failure → Failure → Prop
  | refused (error other : OrderError) : Alike (.refused error) (.refused other)
  | stopped (overflow : Overflow) : Alike (.stopped overflow) (.stopped overflow)

theorem Failure.Alike.refl (failure : Failure) : Failure.Alike failure failure := by
  cases failure with
  | refused error => exact .refused error error
  | stopped overflow => exact .stopped overflow

/-- **The rules are broken alike** in stores that are alike, when the number for the order is free
in both or taken in both. -/
theorem firstBroken_alike (h : first.Alike second) {orderNo orderNo' : OrderNo}
    (hfree : first.orders.contains orderNo = second.orders.contains orderNo') :
    Option.Rel (fun rule rule' : Rule => Failure.Alike rule.failure rule'.failure)
      (firstBroken (rules config first session orderNo request))
      (firstBroken (rules config second session orderNo' request)) := by
  rw [rules, rules, firstBroken_append, firstBroken_append, preparingRules_alike h]
  cases firstBroken (preparingRules config second session request) with
  | some rule => exact .some (.refl rule.failure)
  | none =>
    rw [Option.none_or, Option.none_or]
    unfold placingRules firstBroken
    rw [h.counterFits, hfree]
    cases second.counterFits (codeOfRequest request) with
    | false => exact .some (.stopped .addition)
    | true =>
      cases second.orders.contains orderNo' with
      | true => exact .some (.refused _ _)
      | false => exact .none

/-- **A request ends alike in stores that are alike**, when the number for its order is free in both
or taken in both: it is carried out and leaves stores that are alike, or it fails and changes
nothing. -/
theorem run_submit_alike {world world' : World} (hcalm : world.Calm) (hcalm' : world'.Calm)
    (h : world.store.Alike world'.store)
    (hfree : world.store.orders.contains stamp.orderNo =
      world'.store.orders.contains stamp'.orderNo)
    (config : Config) (session : Option UserId) (request : Request) :
    let ends := (submit config stamp session request).run world
    let ends' := (submit config stamp' session request).run world'
    (∃ after after', ends = (.ok stamp.orderNo, after) ∧ ends' = (.ok stamp'.orderNo, after') ∧
      after.store.Alike after'.store) ∨
    ∃ failure failure', Failure.Alike failure failure' ∧ ends = (.error failure, world) ∧
      ends' = (.error failure', world') := by
  have hends := run_submit_by_rules hcalm config stamp session request
  have hends' := run_submit_by_rules hcalm' config stamp' session request
  have hbroken := @firstBroken_alike config session _ _ request h _ _ hfree
  generalize firstBroken (rules config world.store session stamp.orderNo request) = broken
    at hends hbroken
  generalize firstBroken (rules config world'.store session stamp'.orderNo request) = broken'
    at hends' hbroken
  cases hbroken with
  | none =>
    obtain ⟨f, after, hprepared, hcommit, -, hdone⟩ := hends
    obtain ⟨g, after', hprepared', hcommit', -, hdone'⟩ := hends'
    refine .inl ⟨after, after', hdone, hdone', ?_⟩
    have halike := hprepared.alike h hprepared'
    exact h.commit (halike.writes stamp.now stamp'.now) hcommit hcommit'
  | some hfailure => exact .inr ⟨_, _, hfailure, hends, hends'⟩

end Submission

end OrderDesk
