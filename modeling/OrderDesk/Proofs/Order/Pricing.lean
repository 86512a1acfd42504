import OrderDesk.Proofs.Pricing.Bounds
import OrderDesk.Proofs.Submission.Preparation

/-!
# What an order says of its price

An order keeps the steps of its price. `Order.Priced` says of the order for some units of a
plan how they have come about, from the price of one unit and the gift balance that were read,
and that every running amount keeps the limit for orders; `Order.Recharged` says so of a
recharge. An order that was prepared for a request is one of the two
(`Submission.Prepared.isWithin`), and reconciles.
-/

namespace OrderDesk

open OrderDesk.Result

namespace Order

/-- What is asked for after the quantity discount, after the coupon, after the gift balance and with
the fee. -/
def runningAmounts (order : Order) : List Amount :=
  [order.price - order.discount,
    order.price - order.discount - order.couponDiscount,
    order.price - order.discount - order.couponDiscount - order.giftAmount,
    order.amount]

/-- An order for some units of a plan was priced within bounds. -/
structure Priced (order : Order) (config : Config) (unitPrice balance : Amount) : Prop where
  quantity : 1 ≤ order.quantity ∧ order.quantity ≤ config.maxQuantity
  price : order.price = unitPrice * order.quantity ∧ 0 ≤ order.price
  discount : 0 ≤ order.discount ∧ order.discount ≤ order.price
  couponDiscount : 0 ≤ order.couponDiscount ∧ order.couponDiscount ≤ order.price - order.discount
  no_coupon : order.coupon = none → order.couponDiscount = 0
  gift : order.giftAmount =
    min (max balance 0) (order.price - order.discount - order.couponDiscount)
  fee : 0 ≤ order.feeAmount
  /-- There is no fee when nothing is left after the gift balance. -/
  no_fee : order.price - order.discount - order.couponDiscount - order.giftAmount = 0 →
    order.feeAmount = 0
  amount : order.amount =
    order.price - order.discount - order.couponDiscount - order.giftAmount + order.feeAmount
  limit : ∀ amount ∈ order.runningAmounts, 0 ≤ amount ∧ amount ≤ config.maxOrderAmount
  reconciles : order.reconciles = .ok true

/-- A recharge was priced within bounds. -/
structure Recharged (order : Order) (config : Config) : Prop where
  price : 0 < order.price ∧ order.price ≤ config.maxRechargeAmount
  plain : order.discount = 0 ∧ order.coupon = none ∧ order.couponDiscount = 0 ∧
    order.giftAmount = 0
  amount : order.amount = order.price + order.feeAmount
  limit : 0 ≤ order.amount ∧ order.amount ≤ config.maxOrderAmount
  reconciles : order.reconciles = .ok true

/-- The order was priced within bounds, as its kind is priced. -/
def IsWithin (order : Order) (config : Config) : Prop :=
  match order.kind with
  | .purchase | .renewal => ∃ unitPrice balance, order.Priced config unitPrice balance
  | .recharge => order.Recharged config

/-- The sums of the order are right, and its amount keeps the limit for orders. -/
structure Sums (order : Order) (config : Config) : Prop where
  reconciles : order.reconciles = .ok true
  amount : 0 ≤ order.amount ∧ order.amount ≤ config.maxOrderAmount

variable {order : Order} {config : Config}

/-- Where an order stands does not matter for its price. -/
theorem Priced.withStatus {unitPrice balance : Amount} (h : order.Priced config unitPrice balance)
    (status : OrderStatus) : (order.withStatus status).Priced config unitPrice balance := { h with }

theorem Recharged.withStatus (h : order.Recharged config) (status : OrderStatus) :
    (order.withStatus status).Recharged config := { h with }

theorem IsWithin.withStatus (h : order.IsWithin config) (status : OrderStatus) :
    (order.withStatus status).IsWithin config := by
  have hkind : (order.withStatus status).kind = order.kind := rfl
  unfold IsWithin at h ⊢
  rw [hkind]
  split at h
  · obtain ⟨unitPrice, balance, hpriced⟩ := h
    exact ⟨unitPrice, balance, hpriced.withStatus status⟩
  · obtain ⟨unitPrice, balance, hpriced⟩ := h
    exact ⟨unitPrice, balance, hpriced.withStatus status⟩
  · exact h.withStatus status

theorem Sums.withStatus (h : order.Sums config) (status : OrderStatus) :
    (order.withStatus status).Sums config := { h with }

theorem IsWithin.sums (h : order.IsWithin config) : order.Sums config := by
  have hlast : order.amount ∈ order.runningAmounts := by
    simp [runningAmounts]
  unfold IsWithin at h
  split at h
  · obtain ⟨unitPrice, balance, hpriced⟩ := h
    exact ⟨hpriced.reconciles, hpriced.limit _ hlast⟩
  · obtain ⟨unitPrice, balance, hpriced⟩ := h
    exact ⟨hpriced.reconciles, hpriced.limit _ hlast⟩
  · exact ⟨h.reconciles, h.limit⟩

end Order

/-! ### Orders that were prepared -/

theorem Eligibility.quantity_bounds {config : Config} {wanted quantity : Amount}
    (hconfig : 1 ≤ config.maxQuantity) (h : Eligibility.quantity config wanted = .ok quantity) :
    1 ≤ quantity ∧ quantity ≤ config.maxQuantity := by
  unfold Eligibility.quantity at h
  split at h
  · obtain rfl := Except.ok.inj h
    exact ⟨Int.le_refl 1, hconfig⟩
  · rename_i hpositive
    split at h
    · cases h
    · rename_i hlimit
      obtain rfl := Except.ok.inj h
      exact ⟨Int.not_le.1 hpositive, Int.not_lt.1 hlimit⟩

theorem Eligibility.recharge_eq_ok_iff {config : Config} {amount : Amount} :
    Eligibility.recharge config amount = .ok () ↔
      0 < amount ∧ amount ≤ config.maxRechargeAmount := by
  unfold Eligibility.recharge
  by_cases hpositive : amount ≤ 0
  · simp [hpositive, Int.not_lt.2 hpositive]
  · simp [hpositive, Int.not_le.1 hpositive]

namespace Price

variable {config : Config} {plan : Plan} {quantity balance : Amount} {coupon : Option Coupon}
  {payment : PaymentMethod} {price : Price} {order : Order}

/-- An order takes over the steps of its price. -/
structure IsOf (price : Price) (order : Order) : Prop where
  listPrice : order.price = price.quote.listPrice
  discount : order.discount = price.quote.discount
  couponDiscount : order.couponDiscount = price.quote.couponDiscount
  gift : order.giftAmount = price.quote.giftDeduction
  fee : order.feeAmount = price.quote.fee
  amount : order.amount = price.quote.amount

/-- An order reconciles just when the quote of its price does. -/
theorem IsOf.reconciles_eq (h : price.IsOf order) : order.reconciles = price.quote.reconciles := by
  rw [Order.reconciles, Quote.reconciles, h.listPrice, h.discount, h.couponDiscount, h.gift, h.fee,
    h.amount]

/-- An order takes over the steps of a price before the fee, and adds a fee to it. -/
structure ChargedAs (due : Price) (charge : Amount) (order : Order) : Prop where
  listPrice : order.price = due.quote.listPrice
  discount : order.discount = due.quote.discount
  couponDiscount : order.couponDiscount = due.quote.couponDiscount
  gift : order.giftAmount = due.quote.giftDeduction
  fee : order.feeAmount = charge
  amount : order.amount = due.quote.amount + charge

theorem IsOf.chargedAs {due : Price} {charge : Amount} (h : price.IsOf order)
    (hquote : price.quote =
      { due.quote with fee := charge, amount := due.quote.amount + charge }) :
    due.ChargedAs charge order where
  listPrice := by rw [h.listPrice, hquote]
  discount := by rw [h.discount, hquote]
  couponDiscount := by rw [h.couponDiscount, hquote]
  gift := by rw [h.gift, hquote]
  fee := by rw [h.fee, hquote]
  amount := by rw [h.amount, hquote]

namespace ChargedAs

variable {due : Price} {charge unitPrice : Amount}

/-- What the order leaves to be paid before the fee. -/
theorem left_eq (h : due.ChargedAs charge order)
    (hdue : due.IsDue config unitPrice quantity coupon balance) :
    order.price - order.discount - order.couponDiscount - order.giftAmount = due.quote.amount := by
  rw [h.listPrice, h.discount, h.couponDiscount, h.gift, hdue.amount]

/-- Everything taken off is between nothing and what there was, so that no step leaves the bounds
within which the first and the last one are. -/
theorem runningAmounts_bounds (h : due.ChargedAs charge order)
    (hdue : due.IsDue config unitPrice quantity coupon balance) (hcharge : 0 ≤ charge)
    (hlimit : due.quote.amount + charge ≤ config.maxOrderAmount) :
    ∀ amount ∈ order.runningAmounts, 0 ≤ amount ∧ amount ≤ config.maxOrderAmount := by
  have hdiscount := hdue.discount
  have hcoupon := hdue.couponDiscount
  have hgift := hdue.gift_bounds
  have hmost := hdue.limit
  have hleft := hdue.amount_nonneg
  have hsum := hdue.amount
  simp only [Order.runningAmounts, List.forall_mem_cons, List.not_mem_nil, false_implies,
    implies_true, and_true, h.listPrice, h.discount, h.couponDiscount, h.gift, h.amount]
  unfold Amount at *
  omega

end ChargedAs

/-- **An order at the price of some units of a plan is priced within bounds.** -/
theorem priced_of_ofPlan (hprice : ofPlan config plan quantity coupon balance payment = .ok price)
    (horder : price.IsOf order) (hquantity : order.quantity = quantity)
    (hlimits : 1 ≤ quantity ∧ quantity ≤ config.maxQuantity)
    (hcoupon : order.coupon = none → coupon = none) :
    order.Priced config plan.unitPrice balance := by
  obtain ⟨due, hbefore, hsurcharge, -⟩ := ofPlan_eq_ok_iff.1 hprice
  obtain ⟨-, hlimit, hquote⟩ := Quote.surcharge_eq_ok_iff.1 hsurcharge
  have hdue := isDue_of_beforeFee hbefore
  have hcharged := horder.chargedAs hquote
  have hleft := hcharged.left_eq hdue
  have hfee := payment.fee.charge_nonneg due.quote.amount
  exact {
    quantity := hquantity ▸ hlimits
    price := by
      rw [hcharged.listPrice, hquantity]
      exact ⟨hdue.listPrice, hdue.nonneg⟩
    discount := by rw [hcharged.discount, hcharged.listPrice]; exact hdue.discount
    couponDiscount := by
      rw [hcharged.couponDiscount, hcharged.listPrice, hcharged.discount]
      exact hdue.couponDiscount
    no_coupon := fun hnone => hcharged.couponDiscount.trans (hdue.no_coupon (hcoupon hnone))
    gift := by
      rw [hcharged.gift, hcharged.listPrice, hcharged.discount, hcharged.couponDiscount, hdue.gift]
    fee := hcharged.fee ▸ hfee
    no_fee := by
      intro hnothing
      rw [hcharged.fee]
      exact payment.fee.charge_of_le (Int.le_of_eq (hleft.symm.trans hnothing))
    amount := by rw [hcharged.amount, hleft, hcharged.fee]
    limit := hcharged.runningAmounts_bounds hdue hfee hlimit
    reconciles := horder.reconciles_eq.trans (reconciles_of_ofPlan hprice) }

end Price

namespace Submission

variable {config : Config} {stamp : Stamp} {session : Option UserId} {rely : Rely} {store : Store}
  {payment : PaymentMethod}

/-- A recharge at its quote is priced within bounds. -/
theorem recharged_of_ofRecharge {amount : Amount} {quote : Quote} {user : UserId} {isNew : Bool}
    (hlimits : Eligibility.recharge config amount = .ok ())
    (hquote : Price.ofRecharge config amount payment = .ok quote) :
    (rechargeOrder stamp user payment quote isNew).Recharged config := by
  obtain ⟨hpositive, hmost⟩ := Eligibility.recharge_eq_ok_iff.1 hlimits
  have hreconciles := Price.reconciles_of_ofRecharge hquote
  rw [Price.ofRecharge_eq config (Int.le_of_lt hpositive)] at hquote
  obtain ⟨-, hlimit, rfl⟩ := Quote.surcharge_eq_ok_iff.1 hquote
  have htotal : 0 ≤ amount + payment.fee.charge amount :=
    Int.add_nonneg (Int.le_of_lt hpositive) (payment.fee.charge_nonneg amount)
  exact {
    price := ⟨hpositive, hmost⟩
    plain := ⟨rfl, rfl, rfl, rfl⟩
    amount := rfl
    limit := ⟨htotal, hlimit⟩
    reconciles := hreconciles }

/-- Without a code there was no coupon. -/
theorem Terms.Read.no_coupon {terms : Terms} {wanted : Amount} {code : Option String}
    {paymentId : PaymentId} (h : terms.Read rely config session wanted code paymentId store)
    (hnone : code = none) : terms.coupon = none := by
  have hcoupon := h.coupon
  rw [hnone] at hcoupon
  cases hfound : terms.coupon with
  | none => rfl
  | some coupon =>
    rw [hfound] at hcoupon
    cases hcoupon

/-- The order for some units of a plan was priced from what the store has of the plan and of the
user, and a recharge by itself. -/
def PricedFrom (config : Config) (store : Store) (order : Order) : Request → Prop
  | .purchase _ | .renewal _ => ∃ plan user, order.planId = some plan.id ∧ order.userId = user.id ∧
    store.plans.find? plan.id = some plan ∧ store.users.find? user.id = some user ∧
    order.Priced config plan.unitPrice user.giftAmount
  | .recharge _ => order.Recharged config

theorem isOf_purchaseOrder (user : User) (plan : Plan) (quantity : Amount) (code : Option String)
    (price : Price) (isNew : Bool) :
    price.IsOf (purchaseOrder stamp user plan quantity code payment price isNew) :=
  ⟨rfl, rfl, rfl, rfl, rfl, rfl⟩

theorem isOf_renewalOrder (user : User) (subscription : Subscription) (plan : Plan)
    (quantity : Amount) (code : Option String) (price : Price) :
    price.IsOf (renewalOrder stamp user subscription plan quantity code payment price) :=
  ⟨rfl, rfl, rfl, rfl, rfl, rfl⟩

/-- The terms that were read give an order that is priced within bounds. -/
theorem Terms.Read.priced {terms : Terms} {wanted : Amount} {code : Option String}
    {paymentId : PaymentId} {order : Order} (hconfig : 1 ≤ config.maxQuantity)
    (h : terms.Read rely config session wanted code paymentId store)
    (horder : terms.price.IsOf order) (hquantity : order.quantity = terms.quantity)
    (hcode : order.coupon = code) :
    order.Priced config terms.plan.unitPrice terms.user.giftAmount :=
  Price.priced_of_ofPlan h.price horder hquantity (Eligibility.quantity_bounds hconfig h.quantity)
    fun hnone => h.no_coupon (hcode.symm.trans hnone)

/-- **An order that was prepared is priced within bounds**, whatever others do meanwhile. -/
theorem Prepared.isWithin {request : Request} {f : Fulfillment} (hconfig : 1 ≤ config.maxQuantity)
    (h : Prepared rely config stamp session store request f) : f.order.IsWithin config := by
  cases h with
  | purchase read => exact ⟨_, _, read.priced hconfig (isOf_purchaseOrder ..) rfl rfl⟩
  | renewal read => exact ⟨_, _, read.priced hconfig (isOf_renewalOrder ..) rfl rfl⟩
  | recharge _ limits _ price => exact recharged_of_ofRecharge limits price

/-- An order is priced from the store that its request finds, when nothing changes meanwhile. -/
theorem Prepared.pricedFrom {request : Request} {f : Fulfillment} (hconfig : 1 ≤ config.maxQuantity)
    (h : Prepared .still config stamp session store request f) :
    PricedFrom config store f.order request := by
  cases h with
  | @purchase request terms _ _ read =>
    refine ⟨terms.plan, terms.user, rfl, rfl, read.plan.now, read.user.now, ?_⟩
    exact read.priced hconfig (isOf_purchaseOrder ..) rfl rfl
  | @renewal request terms _ read =>
    refine ⟨terms.plan, terms.user, rfl, rfl, read.plan.now, read.user.now, ?_⟩
    exact read.priced hconfig (isOf_renewalOrder ..) rfl rfl
  | recharge _ limits _ price => exact recharged_of_ofRecharge limits price

end Submission

end OrderDesk
