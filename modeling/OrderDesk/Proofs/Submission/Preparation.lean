import OrderDesk.Proofs.Order.Placement
import OrderDesk.Proofs.Program.Conduct
import OrderDesk.Submission

/-!
# Preparing an order only reads

Before the one commit of a request there are up to ten readings and as many checks, and any
of them may fail. Whatever happens in them, nothing is changed: `Submission.prepare` keeps to
the conduct of reading (`Submission.prepare_conforms`).

What it hands on is told by `Submission.Prepared`: the records that were read, each as some
store had it of which others may have made the present one, the rules that they met, and the
order that was made from them. Where nothing changes between the readings they all are of
one store. In every case the fulfillment is sound (`Submission.Prepared.sound`).
-/

namespace OrderDesk

open OrderDesk.Result

/-! ### What the price says of the gift balance -/

namespace Quote

theorem giftDeduction_ofList {unitPrice quantity : Amount} {multiplier : Decimal} {quote : Quote}
    (h : ofList unitPrice quantity multiplier = .ok quote) : quote.giftDeduction = 0 := by
  unfold ofList at h
  split at h
  · split at h
    · rw [← Except.ok.inj h]; rfl
    · cases h
  · cases h

end Quote

namespace Price

theorem giftDeduction_afterCoupon {quote result : Quote} {coupon : Option Coupon}
    (h : afterCoupon quote coupon = .ok result) : result.giftDeduction = quote.giftDeduction := by
  cases coupon with
  | none => rw [← Except.ok.inj h]
  | some coupon =>
    obtain ⟨-, -, rfl⟩ := Quote.applyCoupon_eq_ok_iff.1 h
    rfl

/-- What the quote of a price enters as paid from the gift balance is the deduction, worked out
from the balance that was read. -/
theorem deduction_of_ofPlan {config : Config} {plan : Plan} {quantity balance : Amount}
    {coupon : Option Coupon} {payment : PaymentMethod} {price : Price}
    (h : ofPlan config plan quantity coupon balance payment = .ok price) :
    price.quote.giftDeduction = price.deduction.deducted ∧
      ∃ charge, price.deduction = GiftDeduction.of balance charge := by
  simp only [ofPlan, Failure.ofRefusal, Failure.ofOverflow, bind_eq_ok_iff, mapError_eq_ok_iff]
    at h
  obtain ⟨listed, hlisted, -, -, reduced, hreduced, -, -, gifted, hgifted, charged, hcharged,
    -, -, h⟩ := h
  obtain ⟨-, -, rfl⟩ := Quote.applyGift_eq_ok_iff.1 hgifted
  obtain ⟨-, -, rfl⟩ := Quote.applyFee_eq_ok_iff.1 hcharged
  rw [← Except.ok.inj h]
  refine ⟨?_, reduced.amount, rfl⟩
  have hzero : reduced.giftDeduction = 0 :=
    (giftDeduction_afterCoupon hreduced).trans (Quote.giftDeduction_ofList hlisted)
  simp only [hzero, Int.zero_add]

/-- The deduction of a price is what its quote enters, and leaves the balance so much lower. -/
theorem takes_of_ofPlan {config : Config} {plan : Plan} {quantity balance : Amount}
    {coupon : Option Coupon} {payment : PaymentMethod} {price : Price}
    (h : ofPlan config plan quantity coupon balance payment = .ok price) :
    price.quote.giftDeduction = price.deduction.deducted ∧ 0 ≤ price.deduction.deducted ∧
      price.deduction.balanceAfter = price.deduction.balanceBefore - price.deduction.deducted := by
  obtain ⟨hquote, charge, hdeduction⟩ := deduction_of_ofPlan h
  rw [hquote, hdeduction]
  exact ⟨rfl, (GiftDeduction.of_bounds balance charge).1, rfl⟩

end Price

namespace Submission

open Program

/-! ### What an order is made from -/

/-- The coupon with a code was there, and the user could redeem it for a plan. -/
structure Redeemable (rely : Rely) (store : Store) (user : UserId) (plan : PlanId) (code : String)
    (coupon : Coupon) : Prop where
  stored : rely.Seen (fun seen => seen.coupons.find? code = some coupon) store
  remaining : coupon.hasRemaining
  applies : coupon.appliesTo plan
  allows : rely.Seen (fun seen => coupon.allows (seen.redemptions user code)) store

theorem Redeemable.later {rely : Rely} {store later : Store} {user : UserId} {plan : PlanId}
    {code : String} {coupon : Coupon} (h : Redeemable rely store user plan code coupon)
    (hlater : rely.May store later) : Redeemable rely later user plan code coupon :=
  { h with
    stored := h.stored.later hlater
    allows := h.allows.later hlater }

/-- What the order for some units of a plan is made from. -/
structure Terms where
  user : User
  plan : Plan
  quantity : Amount
  coupon : Option Coupon
  payment : PaymentMethod
  price : Price

/-- The records were there, they met the rules that a purchase and a renewal share, and the price
was worked out from them. -/
structure Terms.Read (terms : Terms) (rely : Rely) (config : Config) (session : Option UserId)
    (wanted : Amount) (code : Option String) (paymentId : PaymentId) (store : Store) : Prop where
  session : session = some terms.user.id
  quantity : Eligibility.quantity config wanted = .ok terms.quantity
  user : rely.Seen (fun seen => seen.users.find? terms.user.id = some terms.user) store
  plan : rely.Seen (fun seen => seen.plans.find? terms.plan.id = some terms.plan) store
  sellable : terms.plan.sell
  coupon : Option.Rel (Redeemable rely store terms.user.id terms.plan.id) code terms.coupon
  payment : rely.Seen (fun seen => seen.payments.find? paymentId = some terms.payment) store
  price : Price.ofPlan config terms.plan terms.quantity terms.coupon terms.user.giftAmount
    terms.payment = .ok terms.price

/-- What preparing a request hands on, and what it was made from. -/
inductive Prepared (rely : Rely) (config : Config) (stamp : Stamp) (session : Option UserId)
    (store : Store) : Request → Fulfillment → Prop
  | purchase {request : PurchaseRequest} {terms : Terms} {subscriptions : List Subscription}
    {isNew : Bool}
    (read : terms.Read rely config session request.quantity (codeOf request.coupon)
      request.paymentId store)
    (plan : terms.plan.id = request.planId) (stock : terms.plan.isSoldOut = false)
    (held : rely.Seen (fun seen => seen.subscriptionsOf terms.user.id = subscriptions) store)
    (quota : Eligibility.quota terms.plan subscriptions = .ok ())
    (single : Eligibility.single config terms.user.id subscriptions = .ok ())
    (customer : rely.Seen (fun seen => isNew = !seen.hasPaidOrders terms.user.id) store) :
    Prepared rely config stamp session store (.purchase request)
      { order := purchaseOrder stamp terms.user terms.plan terms.quantity (codeOf request.coupon)
          terms.payment terms.price isNew
        gift := some (terms.price.deduction, GiftEntry.purchaseRemark)
        plan := some terms.plan }
  | renewal {request : RenewalRequest} {terms : Terms} {subscription : Subscription}
    (read : terms.Read rely config session request.quantity (codeOf request.coupon)
      request.paymentId store)
    (held : rely.Seen
      (fun seen => seen.subscriptions.find? request.subscriptionId = some subscription) store)
    (owner : subscription.userId = terms.user.id) (plan : terms.plan.id = subscription.planId) :
    Prepared rely config stamp session store (.renewal request)
      { order := renewalOrder stamp terms.user subscription terms.plan terms.quantity
          (codeOf request.coupon) terms.payment terms.price
        gift := some (terms.price.deduction, GiftEntry.renewalRemark)
        plan := none }
  | recharge {request : RechargeRequest} {user : UserId} {payment : PaymentMethod} {quote : Quote}
    {isNew : Bool}
    (signedIn : session = some user)
    (limits : Eligibility.recharge config request.amount = .ok ())
    (paid : rely.Seen (fun seen => seen.payments.find? request.paymentId = some payment) store)
    (price : Price.ofRecharge config request.amount payment = .ok quote)
    (customer : rely.Seen (fun seen => isNew = !seen.hasPaidOrders user) store) :
    Prepared rely config stamp session store (.recharge request)
      { order := rechargeOrder stamp user payment quote isNew
        gift := none
        plan := none }

variable {rely : Rely} {config : Config} {stamp : Stamp} {session : Option UserId} {known : Store}

/-- **What was prepared is sound**, if others have not done more than to commit and to put plans
in. -/
theorem Prepared.sound {store : Store} {request : Request} {f : Fulfillment}
    (hrely : ∀ before after, rely.May before after → before.Updated after)
    (h : Prepared rely config stamp session store request f) : f.Sound store := by
  cases h with
  | @purchase request terms _ _ read =>
    have htakes := Price.takes_of_ofPlan read.price
    obtain ⟨seen, hseen, hplan⟩ := read.plan
    have hknows : store.Knows terms.plan :=
      (hrely seen store hseen).knows ⟨terms.plan, hplan, id⟩
    exact {
      pending := rfl
      no_gift := nofun
      gift := by rintro deduction remark ⟨⟩; exact htakes
      no_unit := nofun
      unit := by rintro plan ⟨⟩; exact ⟨rfl, rfl, hknows⟩ }
  | renewal read =>
    have htakes := Price.takes_of_ofPlan read.price
    exact {
      pending := rfl
      no_gift := nofun
      gift := by rintro deduction remark ⟨⟩; exact htakes
      no_unit := nofun
      unit := nofun }
  | recharge =>
    exact {
      pending := rfl
      no_gift := fun _ => rfl
      gift := nofun
      no_unit := nofun
      unit := nofun }

theorem Prepared.sound_of_still {store : Store} {request : Request} {f : Fulfillment}
    (h : Prepared .still config stamp session store request f) : f.Sound store := by
  refine h.sound fun before after hsame => ?_
  obtain rfl : before = after := hsame
  exact .refl before

/-! ### Looking records up -/

/-- A reading tells what the store says. -/
theorem perform_tells {c : Call} (told : Store → c.Value) (hread : c.isReading)
    (htold : ∀ world : World, world.serve c = (.ok (.ok (told world.store)), world)) :
    (perform c).Conforms (.reading rely)
      (fun reply store => ∀ value, reply = .ok value → told store = value) known := by
  refine conforms_perform_reading hread (fun _ => hread) fun world value hserve => ?_
  rw [htold, Prod.mk.injEq, Except.ok.injEq, Except.ok.injEq] at hserve
  exact hserve.1

/-- A record that is looked up and has to be there is one that the store has. -/
theorem lookup_conforms {α : Type} {call : Program (Except StoreError (Option α))}
    {told : Store → Option α} {lookup : Lookup} {need : Option α → Program α} {error : OrderError}
    (hcall : call.Conforms (.reading rely)
      (fun reply store => ∀ value, reply = .ok value → told store = value) known)
    (hsome : ∀ record, need (some record) = done record) (hnone : need none = refuse error) :
    (call >>= fun reply => read lookup reply >>= need).Conforms (.reading rely)
      (fun record store => told store = some record) known := by
  refine conforms_bind hcall fun reply store _ htold => ?_
  refine conforms_read fun record hrecord => ?_
  cases record with
  | none =>
    rw [hnone]
    trivial
  | some record =>
    rw [hsome]
    exact htold _ hrecord

theorem findUser_conforms (id : UserId) :
    (findUser id).Conforms (.reading rely) (fun user store => store.users.find? id = some user)
      known :=
  lookup_conforms (perform_tells (c := .findUser id) _ rfl fun _ => rfl) (fun _ => rfl) rfl

theorem findPlan_conforms (id : PlanId) :
    (findPlan id).Conforms (.reading rely) (fun plan store => store.plans.find? id = some plan)
      known :=
  lookup_conforms (perform_tells (c := .findPlan id) _ rfl fun _ => rfl) (fun _ => rfl) rfl

theorem findPayment_conforms (id : PaymentId) :
    (findPayment id).Conforms (.reading rely)
      (fun payment store => store.payments.find? id = some payment) known :=
  lookup_conforms (perform_tells (c := .findPayment id) _ rfl fun _ => rfl) (fun _ => rfl) rfl

theorem findSubscription_conforms (id : SubscriptionId) :
    (findSubscription id).Conforms (.reading rely)
      (fun subscription store => store.subscriptions.find? id = some subscription) known :=
  lookup_conforms (perform_tells (c := .findSubscription id) _ rfl fun _ => rfl) (fun _ => rfl) rfl

theorem subscriptionsOf_conforms (user : UserId) :
    (subscriptionsOf user).Conforms (.reading rely)
      (fun subscriptions store => store.subscriptionsOf user = subscriptions) known := by
  refine conforms_bind (perform_tells (fun store => store.subscriptionsOf user) rfl fun _ => rfl)
    fun reply store _ htold => ?_
  cases reply with
  | error _ => trivial
  | ok subscriptions => exact htold _ rfl

theorem isNewCustomer_conforms (user : UserId) :
    (isNewCustomer user).Conforms (.reading rely)
      (fun isNew store => isNew = !store.hasPaidOrders user) known := by
  refine conforms_bind (perform_tells (fun store => store.hasPaidOrders user) rfl fun _ => rfl)
    fun reply store _ htold => ?_
  refine conforms_read fun paid hpaid => ?_
  exact congrArg (!·) (htold _ hpaid).symm

theorem redeemableCoupon_conforms (user : UserId) (plan : PlanId) (code : String) :
    (redeemableCoupon user plan code).Conforms (.reading rely)
      (fun coupon store => Redeemable rely store user plan code coupon) known := by
  refine conforms_bind (perform_tells (fun store => store.coupons.find? code) rfl fun _ => rfl)
    fun reply store _ htold => ?_
  refine conforms_read fun found hfound => ?_
  cases found with
  | none => trivial
  | some coupon =>
    refine conforms_check fun _ hremaining => conforms_check fun _ happlies => ?_
    refine conforms_bind (perform_tells (fun store => store.redemptions user code) rfl
      fun _ => rfl) fun reply last hlast hcount => ?_
    refine conforms_read fun redeemed hredeemed => conforms_check fun _ hallows => ?_
    obtain rfl := hcount redeemed hredeemed
    exact {
      stored := ⟨store, hlast, htold _ hfound⟩
      remaining := Eligibility.require_eq_ok_iff.1 hremaining
      applies := Eligibility.require_eq_ok_iff.1 happlies
      allows := Rely.seen_of_now (Eligibility.require_eq_ok_iff.1 hallows) }

theorem couponFor_conforms (user : UserId) (plan : PlanId) (code : Option String) :
    (couponFor user plan code).Conforms (.reading rely)
      (fun coupon store => Option.Rel (Redeemable rely store user plan) code coupon) known := by
  cases code with
  | none => exact .none
  | some code =>
    refine conforms_bind (redeemableCoupon_conforms user plan code) fun coupon store _ h => ?_
    exact .some h

/-- A coupon that could be redeemed some time ago could be redeemed some time ago. -/
theorem redeemable_of_seen {store : Store} {user : UserId} {plan : PlanId} {code : Option String}
    {coupon : Option Coupon}
    (h : rely.Seen (fun seen => Option.Rel (Redeemable rely seen user plan) code coupon) store) :
    Option.Rel (Redeemable rely store user plan) code coupon := by
  obtain ⟨seen, hseen, hrel⟩ := h
  cases hrel with
  | none => exact .none
  | some hredeemable => exact .some (hredeemable.later hseen)

/-! ### The three requests -/

theorem signedIn_eq_ok_iff {session : Option UserId} {user : UserId} :
    Eligibility.signedIn session = .ok user ↔ session = some user := by
  cases session <;> simp [Eligibility.signedIn]

theorem purchase_conforms (request : PurchaseRequest) :
    (purchase config stamp session request).Conforms (.reading rely)
      (fun f store => Prepared rely config stamp session store (.purchase request) f) known := by
  refine conforms_check fun signedIn hsession => conforms_check fun quantity hquantity => ?_
  refine conforms_bind_seen (findUser_conforms signedIn) fun user _ => ?_
  refine conforms_bind_seen (findPlan_conforms request.planId) fun plan _ => ?_
  refine conforms_check fun _ hsellable => conforms_check fun _ hstock => ?_
  refine conforms_bind_seen (subscriptionsOf_conforms user.id) fun subscriptions _ => ?_
  refine conforms_check fun _ hquota => conforms_check fun _ hsingle => ?_
  refine conforms_bind_seen (couponFor_conforms user.id plan.id _) fun coupon _ => ?_
  refine conforms_bind_seen (findPayment_conforms request.paymentId) fun payment _ => ?_
  refine conforms_compute fun price hprice => ?_
  refine conforms_bind_seen (isNewCustomer_conforms user.id) fun isNew last => ?_
  intro hcustomer hpayment hcoupon hheld hplan huser
  have huserId : user.id = signedIn := huser.elim fun _ h => Table.key_of_find? h.2
  have hplanId : plan.id = request.planId := hplan.elim fun _ h => Table.key_of_find? h.2
  have hread : Terms.Read ⟨user, plan, quantity, coupon, payment, price⟩ rely config session
      request.quantity (codeOf request.coupon) request.paymentId last := {
    session := huserId ▸ signedIn_eq_ok_iff.1 hsession
    quantity := hquantity
    user := huserId ▸ huser
    plan := hplanId ▸ hplan
    sellable := Eligibility.require_eq_ok_iff.1 hsellable
    coupon := redeemable_of_seen hcoupon
    payment := hpayment
    price := hprice }
  have hleft : plan.isSoldOut = false := by
    simpa using Eligibility.require_eq_ok_iff.1 hstock
  exact .purchase hread hplanId hleft hheld hquota hsingle hcustomer

theorem renewal_conforms (request : RenewalRequest) :
    (renewal config stamp session request).Conforms (.reading rely)
      (fun f store => Prepared rely config stamp session store (.renewal request) f) known := by
  refine conforms_check fun signedIn hsession => conforms_check fun quantity hquantity => ?_
  refine conforms_bind_seen (findUser_conforms signedIn) fun user _ => ?_
  refine conforms_bind_seen (findSubscription_conforms request.subscriptionId) fun held _ => ?_
  refine conforms_check fun _ howner => ?_
  refine conforms_bind_seen (findPlan_conforms held.planId) fun plan _ => ?_
  refine conforms_check fun _ hsellable => ?_
  refine conforms_bind_seen (couponFor_conforms user.id plan.id _) fun coupon _ => ?_
  refine conforms_bind_seen (findPayment_conforms request.paymentId) fun payment last => ?_
  refine conforms_compute fun price hprice => ?_
  intro hpayment hcoupon hplan hheld huser
  have huserId : user.id = signedIn := huser.elim fun _ h => Table.key_of_find? h.2
  have hplanId : plan.id = held.planId := hplan.elim fun _ h => Table.key_of_find? h.2
  have hread : Terms.Read ⟨user, plan, quantity, coupon, payment, price⟩ rely config session
      request.quantity (codeOf request.coupon) request.paymentId last := {
    session := huserId ▸ signedIn_eq_ok_iff.1 hsession
    quantity := hquantity
    user := huserId ▸ huser
    plan := hplanId ▸ hplan
    sellable := Eligibility.require_eq_ok_iff.1 hsellable
    coupon := redeemable_of_seen hcoupon
    payment := hpayment
    price := hprice }
  have hown : held.userId = user.id := by
    simpa using Eligibility.require_eq_ok_iff.1 howner
  exact .renewal hread hheld hown hplanId

theorem recharge_conforms (request : RechargeRequest) :
    (recharge config stamp session request).Conforms (.reading rely)
      (fun f store => Prepared rely config stamp session store (.recharge request) f) known := by
  refine conforms_check fun user hsession => conforms_check fun _ hlimits => ?_
  refine conforms_bind_seen (findPayment_conforms request.paymentId) fun payment _ => ?_
  refine conforms_compute fun quote hquote => ?_
  refine conforms_bind_seen (isNewCustomer_conforms user) fun isNew _ => ?_
  intro hcustomer hpayment
  exact .recharge (signedIn_eq_ok_iff.1 hsession) hlimits hpayment hquote hcustomer

/-- **Preparing an order only reads**, and what it hands on was made from what it read. -/
theorem prepare_conforms (request : Request) :
    (prepare config stamp session request).Conforms (.reading rely)
      (fun f store => Prepared rely config stamp session store request f) known := by
  cases request with
  | purchase request => exact purchase_conforms request
  | renewal request => exact renewal_conforms request
  | recharge request => exact recharge_conforms request

end Submission

end OrderDesk
