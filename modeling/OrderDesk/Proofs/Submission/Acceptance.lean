import OrderDesk.Proofs.Submission.AllOrNothing
import OrderDesk.Proofs.Submission.Rules

/-!
# Requests are accepted by the rules

Between the readings of a request and its commit the same things are looked at twice. The commit
sets the gift balance only when it is the one that was read, takes a unit only when one is left
and counts a redemption only when the coupon has one. Where nobody commits in between, an order
that was prepared is backed by the store (`Fulfillment.Backed`), and none of these writes is
refused: the guards are as strong as the checks of the commit. All that the commit adds is
that the counter of the coupon fits and that the number of the order is free
(`Fulfillment.commit_of_backed`).

So where nothing goes wrong a request is accepted when it keeps all its rules, and refused for
the first one that it breaks (`Submission.judged_by_rules`).
-/

namespace OrderDesk

/-- A calm world in which something was read is as it was. -/
theorem World.Calm.eq_of_read {world after : World} (hcalm : world.Calm)
    (hafter : after.Calm) (hread : world.Read after) : after = world := by
  obtain ⟨store, queue, now, outages, races⟩ := world
  obtain ⟨store', queue', now', outages', races'⟩ := after
  obtain rfl : store' = store := hread.store
  obtain rfl : queue' = queue := hread.queue
  obtain rfl : now' = now := hread.now
  obtain rfl : outages' = outages := hafter.outages.trans hcalm.outages.symm
  obtain rfl : races' = races := hread.races
  rfl

/-! ### The writes of an order that is backed -/

/-- An order is added unless its number is taken. -/
theorem Store.commit_insert (store : Store) (order : Order) :
    store.commit [.insert order] =
      if store.orders.contains order.orderNo then
        .error (.refused (.orderExists order.orderNo))
      else .ok { store with orders := store.orders.put order } := by
  rw [commit_cons, write, Table.contains]
  cases store.orders.find? order.orderNo with
  | none => exact commit_nil _
  | some _ => rfl

/-- What an order takes is in the store, as it was read: the gift balance that the deduction was
worked out from, the plan with a unit left, and the coupon with a redemption left. -/
structure Fulfillment.Backed (f : Fulfillment) (store : Store) : Prop where
  gift : ∀ deduction remark, f.gift = some (deduction, remark) → ∃ user charge,
    store.users.find? f.order.userId = some user ∧
      deduction = GiftDeduction.of user.giftAmount charge
  unit : ∀ plan, f.plan = some plan →
    store.plans.find? plan.id = some plan ∧ plan.isSoldOut = false
  coupon : ∀ code, f.order.coupon = some code → ∃ coupon,
    store.coupons.find? code = some coupon ∧ coupon.hasRemaining

namespace Fulfillment

variable {f : Fulfillment} {store : Store}

/-- What is taken from a balance leaves it above zero. -/
theorem balanceAfter_nonneg {balance charge : Amount}
    (h : 0 < (GiftDeduction.of balance charge).deducted) :
    0 ≤ (GiftDeduction.of balance charge).balanceAfter := by
  simp only [GiftDeduction.of] at h ⊢
  unfold Amount at *
  omega

theorem commit_giftWrites (h : f.Backed store) (now : Instant) :
    ∃ users ledger, store.commit (f.giftWrites now) = .ok { store with users, ledger } := by
  unfold giftWrites
  cases hgift : f.gift with
  | none => exact ⟨_, _, store.commit_nil⟩
  | some taken =>
    obtain ⟨deduction, remark⟩ := taken
    obtain ⟨user, charge, huser, rfl⟩ := h.gift deduction remark hgift
    unfold GiftEntry.debit?
    by_cases hpos : 0 < (GiftDeduction.of user.giftAmount charge).deducted
    · simp only [if_pos hpos]
      have hset := Store.write_setGiftBalance_eq_ok_iff.2
        ⟨user, huser, rfl, balanceAfter_nonneg hpos, rfl⟩
      exact ⟨_, _, Store.commit_cons_eq_ok_iff.2
        ⟨_, hset, Store.commit_singleton_eq_ok_iff.2 rfl⟩⟩
    · simp only [if_neg hpos]
      exact ⟨_, _, store.commit_nil⟩

theorem commit_unitWrites (h : ∀ plan, f.plan = some plan →
    store.plans.find? plan.id = some plan ∧ plan.isSoldOut = false) :
    ∃ plans, store.commit f.unitWrites = .ok { store with plans } := by
  unfold unitWrites
  cases hplan : f.plan with
  | none => exact ⟨_, store.commit_nil⟩
  | some plan =>
    obtain ⟨hstored, hleft⟩ := h plan hplan
    cases hcounted : plan.isFinite with
    | false =>
      simp only [hcounted]
      exact ⟨_, store.commit_nil⟩
    | true =>
      simp only [hcounted]
      have hunits : plan.inventory ≠ 0 := by simpa [Plan.isSoldOut] using hleft
      exact ⟨_, Store.commit_singleton_eq_ok_iff.2
        (Store.write_takeUnit_eq_ok_iff.2 ⟨plan, hstored, hunits, rfl⟩)⟩

/-- The write for the coupon goes through when the counter fits, and else it stops. -/
theorem commit_couponWrites (h : ∀ code, f.order.coupon = some code → ∃ coupon,
    store.coupons.find? code = some coupon ∧ coupon.hasRemaining) :
    if store.counterFits f.order.coupon
    then ∃ coupons, store.commit f.couponWrites = .ok { store with coupons }
    else store.commit f.couponWrites = .error (.stopped .addition) := by
  unfold couponWrites Store.counterFits
  cases hcode : f.order.coupon with
  | none => exact ⟨_, store.commit_nil⟩
  | some code =>
    obtain ⟨coupon, hstored, hremaining⟩ := h code hcode
    simp only [Option.bind_some, hstored, Option.all_some, decide_eq_true_eq]
    split
    · rename_i hfits
      exact ⟨_, Store.commit_singleton_eq_ok_iff.2
        (Store.write_redeem_eq_ok_iff.2 ⟨coupon, hstored, hremaining, hfits, rfl⟩)⟩
    · rename_i hfits
      rw [Store.commit_cons, Store.write, hstored]
      simp only [Coupon.redeem, hremaining, Amount.add, if_neg hfits]
      rfl

/-- **What the commit of an order that is backed can still fail for**: a counter of redemptions
that does not fit, and a number that another order has. -/
theorem commit_of_backed (h : f.Backed store) (now : Instant) :
    if store.counterFits f.order.coupon then
      if store.orders.contains f.order.orderNo then
        store.commit (f.writes now) = .error (.refused (.orderExists f.order.orderNo))
      else ∃ after, store.commit (f.writes now) = .ok after
    else store.commit (f.writes now) = .error (.stopped .addition) := by
  obtain ⟨users, ledger, hgift⟩ := commit_giftWrites h now
  obtain ⟨plans, hunit⟩ := @commit_unitWrites f { store with users, ledger } h.unit
  have hcoupon := @commit_couponWrites f { store with users, ledger, plans } h.coupon
  have hwrites : store.commit (f.writes now) =
      (({ store with users, ledger, plans } : Store).commit f.couponWrites).bind fun redeemed =>
        redeemed.commit [.insert f.order] := by
    rw [writes, Store.commit_append, Store.commit_append, Store.commit_append, hgift]
    change ((Store.commit _ f.unitWrites).bind _).bind _ = _
    rw [hunit]
    rfl
  rw [hwrites]
  change if store.counterFits f.order.coupon then _ else _ at hcoupon
  by_cases hfits : store.counterFits f.order.coupon = true
  · rw [if_pos hfits] at hcoupon ⊢
    obtain ⟨coupons, hredeem⟩ := hcoupon
    rw [hredeem]
    change if _ then Store.commit _ [.insert f.order] = _ else _
    change if store.orders.contains f.order.orderNo then Store.commit _ [.insert f.order] = _
      else ∃ after, Store.commit _ [.insert f.order] = .ok after
    rw [Store.commit_insert]
    split
    · rfl
    · exact ⟨_, rfl⟩
  · rw [if_neg hfits] at hcoupon ⊢
    rw [hcoupon]
    rfl

end Fulfillment

namespace Submission

open Program

variable {world : World} {config : Config} {stamp : Stamp} {session : Option UserId}

/-- What was prepared from a store is backed by it. -/
theorem Prepared.backed {store : Store} {request : Request} {f : Fulfillment}
    (h : Prepared .still config stamp session store request f) : f.Backed store := by
  have hcoupon : ∀ {user plan code} {coupon : Option Coupon},
      Option.Rel (Redeemable .still store user plan) code coupon → ∀ wanted, code = some wanted →
        ∃ coupon, store.coupons.find? wanted = some coupon ∧ coupon.hasRemaining := by
    rintro user plan code coupon hrel wanted rfl
    cases hrel with
    | some hredeemable => exact ⟨_, hredeemable.stored.now, hredeemable.remaining⟩
  cases h with
  | @purchase request terms _ _ read _ stock =>
    obtain ⟨-, charge, hdeduction⟩ := Price.deduction_of_ofPlan read.price
    exact {
      gift := by rintro deduction remark ⟨⟩; exact ⟨terms.user, charge, read.user.now, hdeduction⟩
      unit := by rintro plan ⟨⟩; exact ⟨read.plan.now, stock⟩
      coupon := hcoupon read.coupon }
  | @renewal request terms _ read =>
    obtain ⟨-, charge, hdeduction⟩ := Price.deduction_of_ofPlan read.price
    exact {
      gift := by rintro deduction remark ⟨⟩; exact ⟨terms.user, charge, read.user.now, hdeduction⟩
      unit := nofun
      coupon := hcoupon read.coupon }
  | recharge =>
    exact {
      gift := nofun
      unit := nofun
      coupon := nofun }

theorem Prepared.orderNo_eq {store : Store} {request : Request} {f : Fulfillment}
    (h : Prepared .still config stamp session store request f) :
    f.order.orderNo = stamp.orderNo := by
  cases h <;> rfl

theorem Prepared.coupon_eq {store : Store} {request : Request} {f : Fulfillment}
    (h : Prepared .still config stamp session store request f) :
    f.order.coupon = codeOfRequest request := by
  cases h <;> rfl

/-- Preparing an order leaves a calm world as it was. -/
theorem run_prepare_of_calm (hcalm : world.Calm) (request : Request) :
    ((prepare config stamp session request).run world).2 = world ∧
      ∀ f, ((prepare config stamp session request).run world).1 = .ok f →
        Prepared .still config stamp session world.store request f := by
  have hprepare : (prepare config stamp session request).Conforms (.reading .still)
      (fun f store => Prepared .still config stamp session store request f) world.store :=
    prepare_conforms request
  obtain ⟨hread, hpost⟩ := run_of_reading hprepare
  exact ⟨hcalm.eq_of_read (hcalm.run _) hread, hpost⟩

/-- How placing an order ends that is backed: an order that breaks a rule for it changes nothing. -/
theorem run_place_of_calm (hcalm : world.Calm) (config : Config) (now : Instant) {f : Fulfillment}
    (h : f.Backed world.store) :
    match firstBroken (placingRules world.store f.order.orderNo f.order.coupon) with
    | none => ∃ after, world.store.commit (f.writes now) = .ok after.store ∧
      world.Enqueued after (Task.closeOrder f.order.orderNo) config.closeAfter ∧
      (place config now f).run world = (.ok f.order.orderNo, after)
    | some rule => (place config now f).run world = (.error rule.failure, world) := by
  have hcommit := Fulfillment.commit_of_backed h now
  unfold firstBroken placingRules
  cases hfits : world.store.counterFits f.order.coupon with
  | false =>
    rw [hfits, if_neg Bool.false_ne_true] at hcommit
    exact run_bind_of_error (run_bind_of_error (run_transaction_of_stopped hcalm hcommit) _) _
  | true =>
    rw [hfits, if_pos rfl] at hcommit
    cases htaken : world.store.orders.contains f.order.orderNo with
    | true =>
      rw [htaken, if_pos rfl] at hcommit
      exact run_bind_of_error (run_bind_of_error (run_transaction_of_refused hcalm hcommit) _) _
    | false =>
      rw [htaken, if_neg Bool.false_ne_true] at hcommit
      obtain ⟨store, hstore⟩ := hcommit
      obtain ⟨reply, after, henqueue, hafter, hqueue⟩ :=
        { world with store }.answer_enqueue (Task.closeOrder f.order.orderNo) config.closeAfter
      refine ⟨after, by rw [hafter, hstore], hqueue, ?_⟩
      have hstored : (f.store now).run world = (.ok f.order, { world with store }) :=
        (run_bind (run_transaction_of_ok hcalm hstore) _).trans rfl
      refine (run_bind hstored _).trans ?_
      simp only [Expiry.scheduleClose, perform, bind_eq_andThen, andThen, run, henqueue]
      cases reply <;> rfl

/-- The rules for a request, the first to be looked at first. -/
def rules (config : Config) (store : Store) (session : Option UserId) (orderNo : OrderNo)
    (request : Request) : List Rule :=
  preparingRules config store session request ++
    placingRules store orderNo (codeOfRequest request)

/-- **Where nothing goes wrong, a request ends as the rules say.** One that keeps them all is
carried out: what was prepared from the store is committed, and its task is put into the queue.
One that breaks a rule changes nothing. -/
theorem run_submit_by_rules (hcalm : world.Calm) (config : Config) (stamp : Stamp)
    (session : Option UserId) (request : Request) :
    match firstBroken (rules config world.store session stamp.orderNo request) with
    | none => ∃ f after, Prepared .still config stamp session world.store request f ∧
      world.store.commit (f.writes stamp.now) = .ok after.store ∧
      world.Enqueued after (Task.closeOrder stamp.orderNo) config.closeAfter ∧
      (submit config stamp session request).run world = (.ok stamp.orderNo, after)
    | some rule =>
      (submit config stamp session request).run world = (.error rule.failure, world) := by
  obtain ⟨hworld, hprepared⟩ := @run_prepare_of_calm world config stamp session hcalm
    request
  have hfollows := @follows_prepare world config stamp session hcalm request
  have hrun : (prepare config stamp session request).run world =
      (((prepare config stamp session request).run world).1, world) := Prod.ext rfl hworld
  unfold Follows at hfollows
  rw [rules, firstBroken_append, submit]
  cases hbroken : firstBroken (preparingRules config world.store session request) with
  | some rule =>
    rw [hbroken] at hfollows
    exact run_bind_of_error (hrun.trans (by rw [hfollows])) _
  | none =>
    rw [hbroken] at hfollows
    obtain ⟨f, hf⟩ := hfollows
    have hmade := hprepared f hf
    have hplace := run_place_of_calm hcalm config stamp.now hmade.backed
    rw [hmade.orderNo_eq, hmade.coupon_eq] at hplace
    rw [hf] at hrun
    rw [run_bind hrun, Option.none_or]
    cases hlast : firstBroken (placingRules world.store stamp.orderNo (codeOfRequest request)) with
    | some rule =>
      rw [hlast] at hplace
      exact hplace
    | none =>
      rw [hlast] at hplace
      obtain ⟨after, hcommit, hqueue, hends⟩ := hplace
      exact ⟨f, after, hmade, hcommit, hqueue, hends⟩

/-- **A request is judged by its rules.** Where all services answer and nobody else commits, a
request is carried out just when it keeps all rules for it, and else it is refused for the first
one that it breaks, and changes nothing. -/
theorem judged_by_rules (config : Config) (stamp : Stamp) (session : Option UserId)
    (request : Request) (hcalm : world.Calm) :
    ((∃ after, (submit config stamp session request).run world = (.ok stamp.orderNo, after)) ↔
      ∀ rule ∈ rules config world.store session stamp.orderNo request, rule.kept) ∧
    ∀ before rule after,
      rules config world.store session stamp.orderNo request = before ++ rule :: after →
      (∀ earlier ∈ before, earlier.kept) → rule.kept = false →
      (submit config stamp session request).run world = (.error rule.failure, world) := by
  have hends := run_submit_by_rules hcalm config stamp session request
  refine ⟨⟨?_, fun hkept => ?_⟩, ?_⟩
  · rintro ⟨after, hdone⟩
    rw [← firstBroken_eq_none_iff]
    cases hbroken : firstBroken (rules config world.store session stamp.orderNo request) with
    | none => rfl
    | some rule =>
      rw [hbroken] at hends
      change (submit config stamp session request).run world = _ at hends
      rw [hends] at hdone
      cases (Prod.mk.inj hdone).1
  · rw [firstBroken_eq_none_iff.2 hkept] at hends
    obtain ⟨_, after, -, -, -, hdone⟩ := hends
    exact ⟨after, hdone⟩
  · intro before rule after hrules hbefore hrule
    rw [hrules, firstBroken_of_split hbefore hrule] at hends
    exact hends

/-- Plan 7 is for sale, and plan 8 is sold out. Coupon TEN can be redeemed, and OLD no more. -/
def shop : World :=
  .calm
    { Store.empty with
      plans := .ofList [⟨7, "basic", 300, .empty, 1, 0, true⟩, ⟨8, "extra", 500, .empty, 0, 0, true⟩]
      payments := .ofList [⟨3, "card", .fixed 5⟩]
      coupons := .ofList [⟨"TEN", .fixed 10, 0, 2, 5, []⟩, ⟨"OLD", .fixed 10, 2, 2, 5, []⟩]
      users := .ofList [⟨1, 0⟩] }
    .empty ⟨0, 0⟩

/-- The user asks for one unit of a plan. -/
def askInShop (plan : PlanId) (code : Option String) (payment : PaymentId) :
    Except Failure OrderNo × World :=
  (submit .standard ⟨"first", ⟨0, 0⟩⟩ (some 1) (.purchase ⟨plan, 1, code, payment⟩)).run shop

/-- Plan 7 can be bought, with blanks around the code of a coupon and with nothing but a blank for a
code. A coupon that is used up is refused under the code that is meant. Who wants plan 8, and to
pay with a method that there is not, is told that the plan is sold out. -/
theorem judged_in_shop :
    (∃ after, askInShop 7 (some " TEN ") 3 = (.ok "first", after)) ∧
    (∃ after, askInShop 7 (some " ") 3 = (.ok "first", after)) ∧
    askInShop 7 (some " OLD ") 3 = (.error (.refused (.couponExhausted "OLD")), shop) ∧
    askInShop 8 none 4 = (.error (.refused (.planOutOfStock 8)), shop) := by
  have hcalm : shop.Calm := World.calm_calm _ _ _
  have hjudged := fun request =>
    judged_by_rules .standard ⟨"first", ⟨0, 0⟩⟩ (some 1) request hcalm
  refine ⟨?_, ?_, ?_, ?_⟩
  · exact (hjudged (.purchase ⟨7, 1, some " TEN ", 3⟩)).1.2 (by decide)
  · exact (hjudged (.purchase ⟨7, 1, some " ", 3⟩)).1.2 (by decide)
  · let broken := rules .standard shop.store (some 1) "first" (.purchase ⟨7, 1, some " OLD ", 3⟩)
    exact (hjudged (.purchase ⟨7, 1, some " OLD ", 3⟩)).2 (broken.take 9) _ (broken.drop 10) rfl
      (by decide) rfl
  · let broken := rules .standard shop.store (some 1) "first" (.purchase ⟨8, 1, none, 4⟩)
    exact (hjudged (.purchase ⟨8, 1, none, 4⟩)).2 (broken.take 5) _ (broken.drop 6) rfl
      (by decide) rfl

end Submission

end OrderDesk
