import OrderDesk.Proofs.Pricing.Bounds
import OrderDesk.Proofs.Program.Calm
import OrderDesk.Proofs.Submission.Preparation
import Mathlib.Data.List.Perm.Basic

/-!
# The rules for a request

What a request has to meet is told here as a list of rules, read off the store that it is
carried out in. The order of the list is the order of precedence: a request that breaks several
rules is refused for the first of them. A rule about a record comes after the rule that the
record is there, and it stands in the list only when the record is.

* `Rule`, `firstBroken`: a rule with what it is refused with, and the rule that decides.
* `Request.rules`: the rules for each kind of request.
* `Follows`: work that ends as some rules say.
* `prepare_follows`: where nothing goes wrong, preparing an order ends as the rules say, up to
  those that only the commit looks at.

Two of the rules are not there to refuse anything. A total or a counter of redemptions that
does not fit stops the request instead.
-/

namespace OrderDesk

/-- How many subscriptions of a user to a plan are pending or active. -/
def Store.holdings (store : Store) (user : UserId) (plan : PlanId) : Nat :=
  store.subscriptions.rows.countP fun s => s.userId == user && s.planId == plan && s.isActive

/-- The user has a subscription that is pending or active. -/
def Store.holdsAny (store : Store) (user : UserId) : Bool :=
  store.subscriptions.rows.any fun s => s.userId == user && s.isActive

/-- The counter of a coupon has room for one redemption more, if there is a coupon. -/
def Store.counterFits (store : Store) (code : Option String) : Bool :=
  (code.bind store.coupons.find?).all fun coupon => Amount.Fits (coupon.usedCount + 1)

theorem Store.perm_subscriptionsOf (store : Store) (user : UserId) :
    (store.subscriptionsOf user).Perm
      (store.subscriptions.rows.filter fun s => s.userId == user) :=
  List.mergeSort_perm _ _

/-- The subscriptions of a user that are held to a plan, in whichever order they are looked at. -/
theorem Store.held_eq_holdings (store : Store) (user : UserId) (plan : Plan) :
    Eligibility.held plan (store.subscriptionsOf user) = store.holdings user plan.id := by
  rw [Eligibility.held, ← List.countP_eq_length_filter,
    (store.perm_subscriptionsOf user).countP_eq, List.countP_filter, holdings]
  refine List.countP_congr fun s _ => ?_
  simp only [Bool.and_eq_true, beq_iff_eq]
  tauto

theorem Store.any_isActive (store : Store) (user : UserId) :
    (store.subscriptionsOf user).any Subscription.isActive = store.holdsAny user := by
  rw [(store.perm_subscriptionsOf user).any_eq, List.any_filter, holdsAny]

namespace Submission

open Program

/-! ### Rules -/

/-- A rule, which is kept or not, and how a request ends that breaks it. -/
structure Rule where
  kept : Bool
  failure : Failure

namespace Rule

/-- A rule that a request is refused for. -/
def refusal (kept : Bool) (error : OrderError) : Rule := ⟨kept, .refused error⟩

/-- A number has to fit, or the request is stopped. -/
def fits (n : Amount) : Rule := ⟨n ≤ Amount.greatest, .stopped .addition⟩

/-- A record has to be there, and then the rules about it. -/
def needs {α : Type} (record : Option α) (error : OrderError) (about : α → List Rule) :
    List Rule :=
  refusal record.isSome error :: record.elim [] about

/-- An amount must not be below zero or above the limit for orders. -/
def within (config : Config) (amount : Amount) : Rule :=
  refusal (0 ≤ amount ∧ amount ≤ config.maxOrderAmount) .amountOutOfRange

end Rule

open Rule

/-- The first rule that is broken. -/
def firstBroken (rules : List Rule) : Option Rule := rules.find? fun rule => !rule.kept

theorem firstBroken_append (first second : List Rule) :
    firstBroken (first ++ second) = (firstBroken first).or (firstBroken second) :=
  List.find?_append

theorem firstBroken_eq_none_iff {rules : List Rule} :
    firstBroken rules = none ↔ ∀ rule ∈ rules, rule.kept = true := by
  simp [firstBroken]

/-- The first broken rule comes after rules that are kept. -/
theorem firstBroken_of_split {before after : List Rule} {rule : Rule}
    (hbefore : ∀ earlier ∈ before, earlier.kept = true) (hrule : rule.kept = false) :
    firstBroken (before ++ rule :: after) = some rule := by
  rw [firstBroken_append, firstBroken_eq_none_iff.2 hbefore, firstBroken, List.find?_cons, hrule]
  rfl

/-! ### What the rules are -/

/-- The rule for the quantity that is wanted. -/
def quantityRule (config : Config) (wanted : Amount) : Rule :=
  refusal (wanted ≤ 0 ∨ wanted ≤ config.maxQuantity) (.quantityTooLarge config.maxQuantity)

/-- The quantity that is meant. -/
def quantityOf (wanted : Amount) : Amount := if wanted ≤ 0 then 1 else wanted

/-- The rules for a coupon. They say which coupon is redeemed. -/
def couponRules (store : Store) (user : UserId) (plan : PlanId) (code : Option String)
    (next : Option Coupon → List Rule) : List Rule :=
  match code with
  | none => next none
  | some code =>
    needs (store.coupons.find? code) (.couponNotFound code) fun coupon =>
    refusal (coupon.count = 0 ∨ coupon.usedCount < coupon.count) (.couponExhausted code) ::
    refusal (coupon.plans = [] ∨ plan ∈ coupon.plans) (.couponNotApplicable code plan) ::
    refusal (store.redemptions user code < coupon.userLimit)
      (.couponUserLimitExceeded code coupon.userLimit) ::
    next (some coupon)

/-- The rules for a fee on an amount that is due. -/
def feeRules (config : Config) (payment : PaymentMethod) (due : Amount) : List Rule :=
  let total := due + payment.fee.charge due
  [fits total, within config total]

/-- The rules for a price, step by step: the list price, the amount after the quantity discount,
after the coupon, and with the fee on what the gift balance does not pay. -/
def priceRules (config : Config) (plan : Plan) (quantity : Amount) (coupon : Option Coupon)
    (balance : Amount) (payment : PaymentMethod) : List Rule :=
  let listPrice := plan.unitPrice * quantity
  let listed := Quote.baseAmount listPrice (plan.discount.multiplier quantity)
  let reduced := listed - Price.reductionOf coupon listed
  let due := reduced - (GiftDeduction.of balance reduced).deducted
  refusal (0 ≤ listPrice ∧ listPrice ≤ Amount.greatest)
    (.priceOutOfRange quantity plan.unitPrice) ::
  within config listed ::
  within config reduced ::
  feeRules config payment due

/-- The rules that a purchase and a renewal of a plan end with: coupon, payment and price. -/
def termsRules (config : Config) (store : Store) (user : User) (plan : Plan) (wanted : Amount)
    (coupon : Option String) (paymentId : PaymentId) : List Rule :=
  couponRules store user.id plan.id (codeOf coupon) fun coupon =>
  needs (store.payments.find? paymentId) (.query .payment (.notFound (.payment paymentId)))
    fun payment =>
  priceRules config plan (quantityOf wanted) coupon user.giftAmount payment

/-- The rules for a purchase. -/
def purchaseRules (config : Config) (store : Store) (session : Option UserId)
    (request : PurchaseRequest) : List Rule :=
  needs session .anonymous fun signedIn =>
  quantityRule config request.quantity ::
  needs (store.users.find? signedIn) (.unknownUser signedIn) fun user =>
  needs (store.plans.find? request.planId)
    (.query .plan (.notFound (.plan request.planId))) fun plan =>
  refusal plan.sell (.planNotSellable plan.id) ::
  refusal (plan.inventory ≠ 0) (.planOutOfStock plan.id) ::
  refusal (plan.quota ≤ 0 ∨ store.holdings user.id plan.id < plan.quota)
    (.planQuotaExceeded plan.id plan.quota) ::
  refusal (!(config.singleSubscription && store.holdsAny user.id))
    (.userAlreadySubscribed user.id) ::
  termsRules config store user plan request.quantity request.coupon request.paymentId

/-- The rules for a renewal. -/
def renewalRules (config : Config) (store : Store) (session : Option UserId)
    (request : RenewalRequest) : List Rule :=
  needs session .anonymous fun signedIn =>
  quantityRule config request.quantity ::
  needs (store.users.find? signedIn) (.unknownUser signedIn) fun user =>
  needs (store.subscriptions.find? request.subscriptionId)
    (.query .subscription (.notFound (.subscription request.subscriptionId)))
    fun subscription =>
  refusal (subscription.userId = user.id) (.notOwner subscription.id) ::
  needs (store.plans.find? subscription.planId)
    (.query .plan (.notFound (.plan subscription.planId))) fun plan =>
  refusal plan.sell (.planNotSellable plan.id) ::
  termsRules config store user plan request.quantity request.coupon request.paymentId

/-- The rules for a recharge. Nothing is asked of the account. -/
def rechargeRules (config : Config) (store : Store) (session : Option UserId)
    (request : RechargeRequest) : List Rule :=
  needs session .anonymous fun _ =>
  refusal (0 < request.amount) .rechargeNotPositive ::
  refusal (request.amount ≤ config.maxRechargeAmount) .rechargeTooLarge ::
  needs (store.payments.find? request.paymentId)
    (.query .payment (.notFound (.payment request.paymentId))) fun payment =>
  feeRules config payment request.amount

/-- The rules for preparing an order. -/
def preparingRules (config : Config) (store : Store) (session : Option UserId) :
    Request → List Rule
  | .purchase request => purchaseRules config store session request
  | .renewal request => renewalRules config store session request
  | .recharge request => rechargeRules config store session request

/-- The code of the coupon that a request redeems. -/
def codeOfRequest : Request → Option String
  | .purchase request => codeOf request.coupon
  | .renewal request => codeOf request.coupon
  | .recharge _ => none

/-- The rules for placing an order: the counter of its coupon fits, and its number is free. -/
def placingRules (store : Store) (orderNo : OrderNo) (code : Option String) : List Rule :=
  [⟨store.counterFits code, .stopped .addition⟩,
    refusal (!store.orders.contains orderNo) (.insert "insert order" (.orderExists orderNo))]

/-! ### Work that ends as rules say -/

/-- Work that comes out well when all rules are kept, and else ends as the first broken one
says. -/
def Follows {α : Type} (rules : List Rule) (ends : Except Failure α) : Prop :=
  match firstBroken rules with
  | none => ∃ value, ends = .ok value
  | some rule => ends = .error rule.failure

variable {α β : Type}

theorem follows_nil (value : α) : Follows [] (.ok value : Except Failure α) := ⟨value, rfl⟩

theorem follows_cons {rule : Rule} {rest : List Rule} {ends : Except Failure α}
    (hkept : rule.kept = true → Follows rest ends)
    (hbroken : rule.kept = false → ends = .error rule.failure) : Follows (rule :: rest) ends := by
  unfold Follows firstBroken
  rw [List.find?_cons]
  cases hrule : rule.kept with
  | true => exact hkept hrule
  | false => exact hbroken hrule

/-- Work in two parts follows the rules of the first and then those of the second. -/
theorem follows_append {first second : List Rule} {part : Except Failure α}
    {ends : Except Failure β} (hpart : Follows first part)
    (hfailed : ∀ failure, part = .error failure → ends = .error failure)
    (hdone : ∀ value, part = .ok value → Follows second ends) :
    Follows (first ++ second) ends := by
  unfold Follows at *
  rw [firstBroken_append]
  cases hfirst : firstBroken first with
  | none =>
    rw [hfirst] at hpart
    obtain ⟨value, hvalue⟩ := hpart
    exact hdone value hvalue
  | some rule =>
    rw [hfirst] at hpart
    exact hfailed rule.failure hpart

/-! ### Steps of a program -/

section Steps

variable {world : World} {rules : List Rule}

/-- A check of a condition follows the rule that says the same. -/
theorem follows_require {condition kept : Bool} {error : OrderError} {next : Unit → Program α}
    (hsame : condition = true ↔ kept = true) (h : Follows rules ((next ()).run world).1) :
    Follows (refusal kept error :: rules)
      ((check (Eligibility.require condition error) >>= next).run world).1 := by
  obtain rfl : condition = kept := Bool.eq_iff_iff.2 hsame
  refine follows_cons (fun hkept => ?_) fun hbroken => ?_
  · obtain rfl : condition = true := hkept
    exact h
  · obtain rfl : condition = false := hbroken
    rfl

/-- A program that looks a record up follows the rule that it is there. -/
theorem follows_needs {record : Option β} {error : OrderError} {about : β → List Rule}
    {lookup : Program β} {next : β → Program α}
    (hsome : ∀ value, record = some value → lookup.run world = (.ok value, world))
    (hnone : record = none → lookup.run world = (.error (.refused error), world))
    (h : ∀ value, record = some value → Follows (about value) ((next value).run world).1) :
    Follows (needs record error about) ((lookup >>= next).run world).1 := by
  cases hrecord : record with
  | none =>
    refine follows_cons nofun fun _ => ?_
    rw [run_bind_of_error (hnone hrecord)]
    rfl
  | some value =>
    refine follows_cons (fun _ => ?_) nofun
    rw [run_bind (hsome value hrecord)]
    exact h value hrecord

/-- A program goes on with what a computation brings back. -/
theorem follows_compute {computed : Except Failure β} {next : β → Program α}
    (hcomputed : Follows rules computed) (h : ∀ value, Follows [] ((next value).run world).1) :
    Follows rules ((compute computed >>= next).run world).1 := by
  rw [← List.append_nil rules]
  refine follows_append hcomputed (fun failure hfailed => ?_) fun value hvalue => ?_
  · rw [hfailed]
    rfl
  · rw [hvalue]
    exact h value

end Steps

/-! ### Looking records up where nothing goes wrong -/

section Lookups

variable {world : World}

/-- A record that is looked up where the store tells of it follows the rule that it is there. -/
theorem follows_lookup {call : Program (Except StoreError (Option β))} {record : Option β}
    {lookup : Lookup} {need : Option β → Program β} {error : OrderError} {about : β → List Rule}
    {next : β → Program α} (hcall : call.run world = (.ok (.ok record), world))
    (hsome : ∀ value, need (some value) = done value) (hnone : need none = refuse error)
    (h : ∀ value, record = some value → Follows (about value) ((next value).run world).1) :
    Follows (needs record error about)
      (((call >>= fun reply => read lookup reply >>= need) >>= next).run world).1 := by
  have hrun : (call >>= fun reply => read lookup reply >>= need).run world =
      (need record).run world := by
    rw [run_bind hcall, read_ok_bind]
  refine follows_needs (fun value hfound => ?_) (fun hmissing => ?_) h
  · rw [hrun, hfound, hsome]
    rfl
  · rw [hrun, hmissing, hnone]
    rfl

theorem follows_findUser (hcalm : world.Calm) {id : UserId} {about : User → List Rule}
    {next : User → Program α}
    (h : ∀ user, world.store.users.find? id = some user →
      Follows (about user) ((next user).run world).1) :
    Follows (needs (world.store.users.find? id) (.unknownUser id) about)
      ((findUser id >>= next).run world).1 :=
  follows_lookup (run_perform (c := .findUser id) hcalm rfl) (fun _ => rfl) rfl h

theorem follows_findPlan (hcalm : world.Calm) {id : PlanId} {about : Plan → List Rule}
    {next : Plan → Program α}
    (h : ∀ plan, world.store.plans.find? id = some plan →
      Follows (about plan) ((next plan).run world).1) :
    Follows (needs (world.store.plans.find? id) (.query .plan (.notFound (.plan id))) about)
      ((findPlan id >>= next).run world).1 :=
  follows_lookup (run_perform (c := .findPlan id) hcalm rfl) (fun _ => rfl) rfl h

theorem follows_findPayment (hcalm : world.Calm) {id : PaymentId}
    {about : PaymentMethod → List Rule} {next : PaymentMethod → Program α}
    (h : ∀ payment, world.store.payments.find? id = some payment →
      Follows (about payment) ((next payment).run world).1) :
    Follows (needs (world.store.payments.find? id) (.query .payment (.notFound (.payment id)))
      about) ((findPayment id >>= next).run world).1 :=
  follows_lookup (run_perform (c := .findPayment id) hcalm rfl) (fun _ => rfl) rfl h

theorem follows_findSubscription (hcalm : world.Calm) {id : SubscriptionId}
    {about : Subscription → List Rule} {next : Subscription → Program α}
    (h : ∀ subscription, world.store.subscriptions.find? id = some subscription →
      Follows (about subscription) ((next subscription).run world).1) :
    Follows (needs (world.store.subscriptions.find? id)
      (.query .subscription (.notFound (.subscription id))) about)
      ((findSubscription id >>= next).run world).1 :=
  follows_lookup (run_perform (c := .findSubscription id) hcalm rfl) (fun _ => rfl) rfl h

theorem run_subscriptionsOf (hcalm : world.Calm) (user : UserId) :
    (subscriptionsOf user).run world = (.ok (world.store.subscriptionsOf user), world) :=
  (run_bind (run_perform (c := .subscriptions user) hcalm rfl) _).trans rfl

theorem run_isNewCustomer (hcalm : world.Calm) (user : UserId) :
    (isNewCustomer user).run world = (.ok (!world.store.hasPaidOrders user), world) :=
  (run_bind (run_perform (c := .hasPaidOrders user) hcalm rfl) _).trans rfl

/-- Looking whether a user is new never fails. -/
theorem follows_isNewCustomer (hcalm : world.Calm) (user : UserId) (f : Bool → α) :
    Follows [] ((isNewCustomer user >>= fun isNew => pure (f isNew)).run world).1 := by
  rw [run_bind (run_isNewCustomer hcalm user)]
  exact follows_nil _

theorem follows_redeemableCoupon (hcalm : world.Calm) {user : UserId} {plan : PlanId}
    {code : String} {about : Option Coupon → List Rule} {next : Coupon → Program α}
    (h : ∀ coupon, Follows (about (some coupon)) ((next coupon).run world).1) :
    Follows (couponRules world.store user plan (some code) about)
      ((redeemableCoupon user plan code >>= next).run world).1 := by
  have hcount : (perform (.countByCoupon user code)).run world =
      (.ok (.ok (world.store.redemptions user code : Amount)), world) := run_perform hcalm rfl
  rw [redeemableCoupon, bind_eq_andThen, bind_eq_andThen, andThen_assoc, ← bind_eq_andThen,
    run_bind (run_perform (c := .findCoupon code) hcalm rfl), read_ok_bind]
  cases hfound : world.store.coupons.find? code with
  | none =>
    rw [couponRules, hfound]
    exact follows_cons (fun hkept => absurd hkept Bool.false_ne_true) fun _ => rfl
  | some coupon =>
    simp only [couponRules, hfound, bind_eq_andThen, andThen_assoc]
    refine follows_cons (fun _ => ?_) fun hbroken => absurd hbroken.symm Bool.false_ne_true
    refine follows_require (by simp [Coupon.hasRemaining]) ?_
    refine follows_require (by simp [Coupon.appliesTo]) ?_
    rw [← bind_eq_andThen, run_bind hcount]
    exact follows_require Iff.rfl (h coupon)

theorem follows_couponFor (hcalm : world.Calm) {user : UserId} {plan : PlanId}
    {code : Option String} {about : Option Coupon → List Rule}
    {next : Option Coupon → Program α}
    (h : ∀ coupon, Follows (about coupon) ((next coupon).run world).1) :
    Follows (couponRules world.store user plan code about)
      ((couponFor user plan code >>= next).run world).1 := by
  cases code with
  | none => exact h none
  | some code =>
    have hnext : (couponFor user plan (some code) >>= next) =
        redeemableCoupon user plan code >>= fun coupon => next (some coupon) := by
      rw [couponFor, bind_eq_andThen, bind_eq_andThen, andThen_assoc]
      rfl
    rw [hnext]
    exact follows_redeemableCoupon hcalm fun coupon => h (some coupon)

end Lookups

/-! ### Prices -/

/-- The quote of a list price that is reduced for the quantity. -/
def listedAt (listPrice : Amount) (multiplier : Decimal) : Quote :=
  { Quote.zero with
    listPrice
    discount := listPrice - Quote.baseAmount listPrice multiplier
    amount := Quote.baseAmount listPrice multiplier }

/-- A list price that is an amount and not below zero is quoted, and any other is refused. -/
theorem ofList_eq (unitPrice quantity : Amount) (multiplier : Decimal) :
    Quote.ofList unitPrice quantity multiplier =
      if 0 ≤ unitPrice * quantity ∧ unitPrice * quantity ≤ Amount.greatest then
        .ok (listedAt (unitPrice * quantity) multiplier)
      else .error (.priceOutOfRange quantity unitPrice) := by
  unfold Quote.ofList Amount.mul?
  by_cases hprice : 0 ≤ unitPrice * quantity ∧ unitPrice * quantity ≤ Amount.greatest
  · rw [if_pos (Amount.fits_of_nonneg hprice.1 hprice.2), if_pos hprice]
    exact if_pos hprice.1
  · rw [if_neg hprice]
    by_cases hfits : Amount.Fits (unitPrice * quantity)
    · rw [if_pos hfits]
      exact if_neg fun hnonneg => hprice ⟨hnonneg, hfits.2⟩
    · rw [if_neg hfits]

/-- Checking an amount ends as its rule says. -/
theorem amount_eq (config : Config) (amount : Amount) :
    Eligibility.amount config amount =
      if (within config amount).kept then .ok () else .error .amountOutOfRange := by
  rw [Eligibility.amount, Eligibility.require]
  simp [within, refusal]

theorem follows_map {rules : List Rule} {ends : Except Failure α} (h : Follows rules ends)
    (f : α → β) : Follows rules (ends >>= fun value => pure (f value)) := by
  rw [← List.append_nil rules]
  refine follows_append h (fun failure hfailed => ?_) fun value hvalue => ?_
  · rw [hfailed]
    rfl
  · rw [hvalue]
    exact follows_nil _

/-- Adding a fee ends as its rules say. -/
theorem follows_surcharge (config : Config) (payment : PaymentMethod) {quote : Quote}
    (hamount : 0 ≤ quote.amount) :
    Follows (feeRules config payment quote.amount)
      (quote.surcharge config (payment.fee.charge quote.amount)) := by
  have htotal : 0 ≤ quote.amount + payment.fee.charge quote.amount :=
    Int.add_nonneg hamount (payment.fee.charge_nonneg _)
  unfold Quote.surcharge
  refine follows_cons (fun hfits => ?_) fun hbroken => ?_
  · rw [if_neg (Int.not_lt.2 (of_decide_eq_true hfits))]
    refine follows_cons (fun hwithin => ?_) fun hbroken => ?_
    · rw [if_neg (Int.not_lt.2 (of_decide_eq_true hwithin).2)]
      exact follows_nil _
    · have hlimit := of_decide_eq_false hbroken
      rw [if_pos (Int.not_le.1 fun hle => hlimit ⟨htotal, hle⟩)]
      rfl
  · rw [if_pos (Int.not_le.1 (of_decide_eq_false hbroken))]
    rfl

/-- **Working a price out ends as its rules say.** -/
theorem follows_ofPlan (config : Config) (plan : Plan) (quantity : Amount) (coupon : Option Coupon)
    (balance : Amount) (payment : PaymentMethod) :
    Follows (priceRules config plan quantity coupon balance payment)
      (Price.ofPlan config plan quantity coupon balance payment) := by
  let listed := listedAt (plan.unitPrice * quantity) (plan.discount.multiplier quantity)
  let reduced := listed.lessCoupon (Price.reductionOf coupon listed.amount)
  let deduction := GiftDeduction.of balance reduced.amount
  let due := reduced.lessGift deduction.deducted
  change Follows (_ :: within config listed.amount :: within config reduced.amount ::
    feeRules config payment due.amount) _
  rw [Price.ofPlan_eq, Price.beforeFee, ofList_eq]
  refine follows_cons (fun hprice => ?_) fun hbroken => ?_
  · have hprice := of_decide_eq_true hprice
    rw [if_pos hprice]
    change Follows _ (Failure.ofRefusal (Eligibility.amount config listed.amount >>= _) >>= _)
    rw [amount_eq]
    refine follows_cons (fun hwithin => ?_) fun hbroken => ?_
    · rw [if_pos hwithin]
      have hlisted : 0 ≤ listed.amount := (Quote.baseAmount_bounds hprice.1 _).1
      obtain ⟨hreduced, hreducedLe⟩ := Price.lessCoupon_bounds hlisted coupon
      refine follows_cons (fun _ => ?_) fun hbroken => ?_
      · have hdue : 0 ≤ due.amount := by
          obtain ⟨-, hdeducted, -⟩ := GiftDeduction.of_bounds balance reduced.amount
          rw [Int.max_eq_left hreduced] at hdeducted
          exact Int.sub_nonneg.2 hdeducted
        exact follows_map (follows_surcharge config payment hdue)
          fun quote => (⟨quote, deduction⟩ : Price)
      · -- The limit was kept before the coupon, and a coupon only takes off.
        have hlimit := (of_decide_eq_true hwithin).2
        exact absurd ⟨hreduced, Int.le_trans hreducedLe hlimit⟩ (of_decide_eq_false hbroken)
    · rw [if_neg (Bool.eq_false_iff.1 hbroken)]
      rfl
  · rw [if_neg (of_decide_eq_false hbroken)]
    rfl

/-! ### The three requests -/

section Requests

variable {world : World} {config : Config} {stamp : Stamp} {session : Option UserId}

/-- Asking who is signed in follows the rule that somebody is. -/
theorem follows_signedIn {about : UserId → List Rule}
    {next : UserId → Program α}
    (h : ∀ user, session = some user → Follows (about user) ((next user).run world).1) :
    Follows (needs session .anonymous about)
      ((check (Eligibility.signedIn session) >>= next).run world).1 := by
  refine follows_needs (fun user hsession => ?_) (fun hsession => ?_) h <;> rw [hsession] <;> rfl

theorem follows_quantity {wanted : Amount} {rules : List Rule} {next : Amount → Program α}
    (h : Follows rules ((next (quantityOf wanted)).run world).1) :
    Follows (quantityRule config wanted :: rules)
      ((check (Eligibility.quantity config wanted) >>= next).run world).1 := by
  unfold quantityOf at h
  unfold Eligibility.quantity
  refine follows_cons (fun hkept => ?_) fun hbroken => ?_
  · by_cases hnone : wanted ≤ 0
    · rw [if_pos hnone] at h ⊢
      exact h
    · have hle := (of_decide_eq_true hkept).resolve_left hnone
      rw [if_neg hnone] at h ⊢
      rw [if_neg (Int.not_lt.2 hle)]
      exact h
  · obtain ⟨hpositive, hmore⟩ := not_or.1 (of_decide_eq_false hbroken)
    rw [if_neg hpositive, if_pos (Int.not_le.1 hmore)]
    rfl

/-- Coupon, payment and price come last, and what is made of them never fails. -/
theorem follows_terms (hcalm : world.Calm) {user : User} {plan : Plan} {wanted : Amount}
    {coupon : Option String} {paymentId : PaymentId}
    {next : Option Coupon → PaymentMethod → Price → Program α}
    (h : ∀ coupon payment price, Follows [] ((next coupon payment price).run world).1) :
    Follows (termsRules config world.store user plan wanted coupon paymentId)
      ((couponFor user.id plan.id (codeOf coupon) >>= fun coupon =>
        findPayment paymentId >>= fun payment =>
        compute (Price.ofPlan config plan (quantityOf wanted) coupon user.giftAmount payment) >>=
        next coupon payment).run world).1 := by
  refine follows_couponFor hcalm fun coupon => ?_
  refine follows_findPayment hcalm fun payment _ => ?_
  exact follows_compute (follows_ofPlan _ _ _ _ _ _) (h coupon payment)

theorem follows_purchase (hcalm : world.Calm) (request : PurchaseRequest) :
    Follows (purchaseRules config world.store session request)
      ((purchase config stamp session request).run world).1 := by
  refine follows_signedIn fun signedIn _ => follows_quantity ?_
  refine follows_findUser hcalm fun user _ => follows_findPlan hcalm fun plan _ => ?_
  refine follows_require Iff.rfl (follows_require (by simp [Plan.isSoldOut]) ?_)
  rw [run_bind (run_subscriptionsOf hcalm user.id)]
  refine follows_require (by simp [Store.held_eq_holdings]) ?_
  refine follows_require (by rw [Store.any_isActive]) ?_
  exact follows_terms hcalm fun _ _ _ => follows_isNewCustomer hcalm user.id _

theorem follows_renewal (hcalm : world.Calm) (request : RenewalRequest) :
    Follows (renewalRules config world.store session request)
      ((renewal config stamp session request).run world).1 := by
  refine follows_signedIn fun signedIn _ => follows_quantity ?_
  refine follows_findUser hcalm fun user _ => ?_
  refine follows_findSubscription hcalm fun subscription _ => follows_require (by simp) ?_
  refine follows_findPlan hcalm fun plan _ => follows_require Iff.rfl ?_
  exact follows_terms hcalm fun _ _ _ => follows_nil _

theorem follows_recharge (hcalm : world.Calm) (request : RechargeRequest) :
    Follows (rechargeRules config world.store session request)
      ((recharge config stamp session request).run world).1 := by
  refine follows_signedIn fun user _ => ?_
  unfold Eligibility.recharge
  refine follows_cons (fun hkept => ?_) fun hbroken => ?_
  · have hpositive : 0 < request.amount := of_decide_eq_true hkept
    rw [if_neg (Int.not_le.2 hpositive)]
    refine follows_require Iff.rfl (follows_findPayment hcalm fun payment _ => ?_)
    rw [Price.ofRecharge_eq config (Int.le_of_lt hpositive)]
    have hfee : Follows (feeRules config payment (Quote.flat request.amount).amount)
        ((Quote.flat request.amount).surcharge config (payment.fee.charge request.amount)) :=
      follows_surcharge config payment (Int.le_of_lt hpositive)
    exact follows_compute hfee fun _ => follows_isNewCustomer hcalm user _
  · rw [if_pos (Int.not_lt.1 (of_decide_eq_false hbroken))]
    rfl

/-- **Preparing an order ends as its rules say.** -/
theorem follows_prepare (hcalm : world.Calm) (request : Request) :
    Follows (preparingRules config world.store session request)
      ((prepare config stamp session request).run world).1 := by
  cases request with
  | purchase request => exact follows_purchase hcalm request
  | renewal request => exact follows_renewal hcalm request
  | recharge request => exact follows_recharge hcalm request

end Requests

end Submission

end OrderDesk
