import OrderDesk.Coupon
import OrderDesk.Order
import OrderDesk.Payment
import OrderDesk.Proofs.Expiry.Tasks
import OrderDesk.Proofs.Plan.StoredTable
import OrderDesk.Proofs.Time.InstantText
import OrderDesk.Request

/-!
# Records are read back from what they are stored as

Every record that was read from JSON has fields that can be stored: amounts and numbers of records
fit, an instant is valid, a table came from a text. So each record is restored field by field, with
the values that it has where a field was missing. The rule of a coupon and the fee of a payment
method are restored by their cases, under the tag that names the case; a percentage of zero only
loses its minus.
-/

namespace OrderDesk

open Json

/-! ### Values of the domain -/

theorem restores_instant (depth : Nat) : Restores depth Instant.ofJson? Instant.toJson id := by
  intro value t h
  obtain ⟨s, -, ht⟩ := Option.bind_eq_some_iff.1 h
  refine ⟨.str t.text, ?_⟩
  rw [Instant.ofJson?, Instant.toJson, str?, Option.bind_some]
  exact Instant.ofText?_text (Instant.valid_of_ofText? ht)

theorem restores_optionalStr (depth : Nat) :
    Restores depth (nullable? str?) (ofOption .str) id :=
  (restores_str depth).nullable nofun

theorem restores_optionalAmount (depth : Nat) :
    Restores depth (nullable? amount?) (ofOption .int) id :=
  (restores_amount depth).nullable nofun

theorem restores_optionalId (depth : Nat) :
    Restores depth (nullable? id?) (ofOption fun n : Nat => .int n) id :=
  (restores_id depth).nullable nofun

theorem restores_optionalInstant (depth : Nat) :
    Restores depth (nullable? Instant.ofJson?) (ofOption Instant.toJson) id :=
  (restores_instant depth).nullable nofun

theorem restores_subscriptionStatus (depth : Nat) :
    Restores depth SubscriptionStatus.ofJson? (fun status => .str status.name) id :=
  fun _ status _ => ⟨.str _, by cases status <;> rfl⟩

theorem restores_giftChange (depth : Nat) :
    Restores depth GiftChange.ofJson? (fun change => .str change.name) id :=
  fun _ change _ => ⟨.str _, by cases change <;> rfl⟩

theorem restores_orderKind (depth : Nat) :
    Restores depth OrderKind.ofJson? (fun kind => .str kind.name) id :=
  fun _ kind _ => ⟨.str _, by cases kind <;> rfl⟩

theorem restores_orderStatus (depth : Nat) :
    Restores depth OrderStatus.ofJson? (fun status => .str status.name) id :=
  fun _ status _ => ⟨.str _, by cases status <;> rfl⟩

/-! ### Accounts -/

theorem restores_user (depth : Nat) : Restores (depth + 1) User.ofJson? User.toJson id := by
  intro value user h
  obtain ⟨fields, -, h⟩ := Option.bind_eq_some_iff.1 h
  obtain ⟨userId, hid, h⟩ := (restores_id depth).required h
  obtain ⟨giftAmount, hgift, h⟩ := (restores_amount depth).orElse (keeps_amount depth (by decide)) h
  obtain rfl := Option.some.inj h
  refine keeps_record (fun _ => rfl) rfl rfl (by decide) ?_
  exact hid.required rfl <| hgift.orElse rfl <| keepsFields_nil _

theorem restores_subscription (depth : Nat) :
    Restores (depth + 1) Subscription.ofJson? Subscription.toJson id := by
  intro value subscription h
  obtain ⟨fields, -, h⟩ := Option.bind_eq_some_iff.1 h
  obtain ⟨subscriptionId, hid, h⟩ := (restores_id depth).required h
  obtain ⟨userId, huser, h⟩ := (restores_id depth).required h
  obtain ⟨planId, hplan, h⟩ := (restores_id depth).required h
  obtain ⟨orderNo, horder, h⟩ := (restores_optionalStr depth).orElse ⟨.null, rfl⟩ h
  obtain ⟨token, htoken, h⟩ := (restores_str depth).required h
  obtain ⟨status, hstatus, h⟩ := (restores_subscriptionStatus depth).required h
  obtain ⟨expireAt, hexpire, h⟩ := (restores_optionalInstant depth).orElse ⟨.null, rfl⟩ h
  obtain rfl := Option.some.inj h
  refine keeps_record (fun _ => rfl) rfl rfl (by decide) ?_
  exact hid.required rfl <| huser.required rfl <| hplan.required rfl <| horder.orElse rfl <|
    htoken.required rfl <| hstatus.required rfl <| hexpire.orElse rfl <| keepsFields_nil _

theorem restores_giftEntry (depth : Nat) :
    Restores (depth + 1) GiftEntry.ofJson? GiftEntry.toJson id := by
  intro value entry h
  obtain ⟨fields, -, h⟩ := Option.bind_eq_some_iff.1 h
  obtain ⟨userId, huser, h⟩ := (restores_id depth).required h
  obtain ⟨change, hchange, h⟩ := (restores_giftChange depth).required h
  obtain ⟨orderNo, horder, h⟩ := (restores_str depth).required h
  obtain ⟨amount, hamount, h⟩ := (restores_amount depth).required h
  obtain ⟨balance, hbalance, h⟩ := (restores_amount depth).required h
  obtain ⟨remark, hremark, h⟩ := (restores_str depth).required h
  obtain ⟨timestamp, htimestamp, h⟩ := (restores_instant depth).required h
  obtain rfl := Option.some.inj h
  refine keeps_record (fun _ => rfl) rfl rfl (by decide) ?_
  exact huser.required rfl <| hchange.required rfl <| horder.required rfl <| hamount.required rfl <|
    hbalance.required rfl <| hremark.required rfl <| htimestamp.required rfl <| keepsFields_nil _

/-! ### Orders and requests -/

theorem restores_order (depth : Nat) : Restores (depth + 1) Order.ofJson? Order.toJson id := by
  intro value order h
  obtain ⟨fields, -, h⟩ := Option.bind_eq_some_iff.1 h
  obtain ⟨orderNo, horder, h⟩ := (restores_str depth).required h
  obtain ⟨userId, huser, h⟩ := (restores_id depth).required h
  obtain ⟨parentOrderNo, hparent, h⟩ := (restores_optionalStr depth).orElse ⟨.null, rfl⟩ h
  obtain ⟨kind, hkind, h⟩ := (restores_orderKind depth).required h
  obtain ⟨quantity, hquantity, h⟩ := (restores_amount depth).required h
  obtain ⟨price, hprice, h⟩ := (restores_amount depth).required h
  obtain ⟨discount, hdiscount, h⟩ := (restores_amount depth).required h
  obtain ⟨coupon, hcoupon, h⟩ := (restores_optionalStr depth).orElse ⟨.null, rfl⟩ h
  obtain ⟨couponDiscount, htaken, h⟩ := (restores_amount depth).required h
  obtain ⟨giftAmount, hgift, h⟩ := (restores_amount depth).required h
  obtain ⟨feeAmount, hfee, h⟩ := (restores_amount depth).required h
  obtain ⟨amount, hamount, h⟩ := (restores_amount depth).required h
  obtain ⟨paymentId, hpayment, h⟩ := (restores_id depth).required h
  obtain ⟨method, hmethod, h⟩ := (restores_str depth).required h
  obtain ⟨status, hstatus, h⟩ := (restores_orderStatus depth).required h
  obtain ⟨isNew, hnew, h⟩ := (restores_bool depth).required h
  obtain ⟨planId, hplan, h⟩ := (restores_optionalId depth).orElse ⟨.null, rfl⟩ h
  obtain ⟨subscribeToken, htoken, h⟩ := (restores_optionalStr depth).orElse ⟨.null, rfl⟩ h
  obtain ⟨createdAt, hcreated, h⟩ := (restores_instant depth).required h
  obtain rfl := Option.some.inj h
  refine keeps_record (fun _ => rfl) rfl rfl (by decide) ?_
  exact horder.required rfl <| huser.required rfl <| hparent.orElse rfl <| hkind.required rfl <|
    hquantity.required rfl <| hprice.required rfl <| hdiscount.required rfl <| hcoupon.orElse rfl <|
    htaken.required rfl <| hgift.required rfl <| hfee.required rfl <| hamount.required rfl <|
    hpayment.required rfl <| hmethod.required rfl <| hstatus.required rfl <| hnew.required rfl <|
    hplan.orElse rfl <| htoken.orElse rfl <| hcreated.required rfl <| keepsFields_nil _

theorem restores_purchaseRequest (depth : Nat) :
    Restores (depth + 1) PurchaseRequest.ofJson? PurchaseRequest.toJson id := by
  intro value request h
  obtain ⟨fields, -, h⟩ := Option.bind_eq_some_iff.1 h
  obtain ⟨planId, hplan, h⟩ := (restores_id depth).required h
  obtain ⟨quantity, hquantity, h⟩ :=
    (restores_amount depth).orElse (keeps_amount depth (by decide)) h
  obtain ⟨coupon, hcoupon, h⟩ := (restores_optionalStr depth).orElse ⟨.null, rfl⟩ h
  obtain ⟨paymentId, hpayment, h⟩ := (restores_id depth).required h
  obtain rfl := Option.some.inj h
  refine keeps_record (fun _ => rfl) rfl rfl (by decide) ?_
  exact hplan.required rfl <| hquantity.orElse rfl <| hcoupon.orElse rfl <| hpayment.required rfl <|
    keepsFields_nil _

theorem restores_renewalRequest (depth : Nat) :
    Restores (depth + 1) RenewalRequest.ofJson? RenewalRequest.toJson id := by
  intro value request h
  obtain ⟨fields, -, h⟩ := Option.bind_eq_some_iff.1 h
  obtain ⟨subscriptionId, hid, h⟩ := (restores_id depth).required h
  obtain ⟨quantity, hquantity, h⟩ :=
    (restores_amount depth).orElse (keeps_amount depth (by decide)) h
  obtain ⟨coupon, hcoupon, h⟩ := (restores_optionalStr depth).orElse ⟨.null, rfl⟩ h
  obtain ⟨paymentId, hpayment, h⟩ := (restores_id depth).required h
  obtain rfl := Option.some.inj h
  refine keeps_record (fun _ => rfl) rfl rfl (by decide) ?_
  exact hid.required rfl <| hquantity.orElse rfl <| hcoupon.orElse rfl <| hpayment.required rfl <|
    keepsFields_nil _

theorem restores_rechargeRequest (depth : Nat) :
    Restores (depth + 1) RechargeRequest.ofJson? RechargeRequest.toJson id := by
  intro value request h
  obtain ⟨fields, -, h⟩ := Option.bind_eq_some_iff.1 h
  obtain ⟨amount, hamount, h⟩ := (restores_amount depth).required h
  obtain ⟨paymentId, hpayment, h⟩ := (restores_id depth).required h
  obtain rfl := Option.some.inj h
  refine keeps_record (fun _ => rfl) rfl rfl (by decide) ?_
  exact hamount.required rfl <| hpayment.required rfl <| keepsFields_nil _

/-! ### Coupons -/

namespace CouponRule

/-- The rule without the minus of a zero. -/
def plain : CouponRule → CouponRule
  | .percentage percent cap => .percentage percent.plain cap
  | .fixed amount => .fixed amount

/-- The rules are of one case with the same values; a percentage has the same digits and places. -/
inductive Same : CouponRule → CouponRule → Prop
  | percentage {percent other : Decimal} (h : percent.Same other) (cap : Option Amount) :
      Same (.percentage percent cap) (.percentage other cap)
  | fixed (amount : Amount) : Same (.fixed amount) (.fixed amount)

theorem same_plain (rule : CouponRule) : rule.plain.Same rule := by
  cases rule with
  | percentage percent cap => exact .percentage percent.same_plain cap
  | fixed amount => exact .fixed amount

theorem keeps_percentage {depth : Nat} {percent : Decimal} {cap : Option Amount}
    (hpercent : Keeps depth decimal? (fun d => .str d.text) percent percent.plain)
    (hcap : Keeps depth (nullable? amount?) (ofOption .int) cap cap) :
    Keeps (depth + 1) ofJson? toJson (.percentage percent cap) (.percentage percent.plain cap) := by
  apply keeps_tagged "type" "percentage" ["percent", "max_discount"]
  · intro value fieldsWith h
    rw [ofJson?, h]
    rfl
  · rfl
  · rfl
  · decide
  · exact hpercent.required rfl <| hcap.orElse rfl <| keepsFields_nil _

theorem keeps_fixed {depth : Nat} {amount : Amount}
    (hamount : Keeps depth amount? .int amount amount) :
    Keeps (depth + 1) ofJson? toJson (.fixed amount) (.fixed amount) := by
  apply keeps_tagged "type" "fixed" ["amount"]
  · intro value fieldsWith h
    rw [ofJson?, h]
    rfl
  · rfl
  · rfl
  · decide
  · exact hamount.required rfl <| keepsFields_nil _

end CouponRule

/-- The rule of a coupon is restored, whichever case it is of. -/
theorem restores_couponRule (depth : Nat) :
    Restores (depth + 1) CouponRule.ofJson? CouponRule.toJson CouponRule.plain := by
  intro value rule h
  obtain ⟨⟨name, fieldsWith⟩, -, h⟩ := Option.bind_eq_some_iff.1 h
  dsimp only at h
  split at h
  · obtain ⟨fields, -, h⟩ := Option.bind_eq_some_iff.1 h
    obtain ⟨percent, hpercent, h⟩ := (restores_decimal depth).required h
    obtain ⟨cap, hcap, h⟩ := (restores_optionalAmount depth).orElse ⟨.null, rfl⟩ h
    obtain rfl := Option.some.inj h
    exact CouponRule.keeps_percentage hpercent hcap
  split at h
  · obtain ⟨fields, -, h⟩ := Option.bind_eq_some_iff.1 h
    obtain ⟨amount, hamount, h⟩ := (restores_amount depth).required h
    obtain rfl := Option.some.inj h
    exact CouponRule.keeps_fixed hamount
  · cases h

namespace Coupon

/-- The coupon without the minus of a zero. -/
def plain (coupon : Coupon) : Coupon := { coupon with rule := coupon.rule.plain }

/-- The coupons have the same rule, and are equal but for it. -/
structure Same (a b : Coupon) : Prop where
  rule : a.rule.Same b.rule
  others : a = { b with rule := a.rule }

theorem same_plain (coupon : Coupon) : coupon.plain.Same coupon := ⟨coupon.rule.same_plain, rfl⟩

end Coupon

theorem restores_coupon (depth : Nat) :
    Restores (depth + 2) Coupon.ofJson? Coupon.toJson Coupon.plain := by
  intro value coupon h
  obtain ⟨fields, -, h⟩ := Option.bind_eq_some_iff.1 h
  obtain ⟨code, hcode, h⟩ := (restores_str (depth + 1)).required h
  obtain ⟨rule, hrule, h⟩ := (restores_couponRule depth).required h
  obtain ⟨count, hcount, h⟩ :=
    (restores_amount (depth + 1)).orElse (keeps_amount (depth + 1) (by decide)) h
  obtain ⟨usedCount, hused, h⟩ :=
    (restores_amount (depth + 1)).orElse (keeps_amount (depth + 1) (by decide)) h
  obtain ⟨userLimit, hlimit, h⟩ :=
    (restores_amount (depth + 1)).orElse (keeps_amount (depth + 1) (by decide)) h
  obtain ⟨plans, hplans, h⟩ := (restores_id depth).list.orElse (keeps_nil depth) h
  obtain rfl := Option.some.inj h
  refine keeps_record (fun _ => rfl) rfl rfl (by decide) ?_
  exact hcode.required rfl <| hrule.required rfl <| hcount.orElse rfl <| hused.orElse rfl <|
    hlimit.orElse rfl <| hplans.orElse rfl <| keepsFields_nil _

/-! ### Payment methods -/

namespace FeeRule

/-- The rule without the minus of a zero. -/
def plain : FeeRule → FeeRule
  | .none => .none
  | .percent rate => .percent rate.plain
  | .fixed amount => .fixed amount
  | .percentPlusFixed rate amount => .percentPlusFixed rate.plain amount

/-- The rules are of one case with the same values; a rate has the same digits and places. -/
inductive Same : FeeRule → FeeRule → Prop
  | none : Same .none .none
  | percent {rate other : Decimal} (h : rate.Same other) : Same (.percent rate) (.percent other)
  | fixed (amount : Amount) : Same (.fixed amount) (.fixed amount)
  | percentPlusFixed {rate other : Decimal} (h : rate.Same other) (amount : Amount) :
      Same (.percentPlusFixed rate amount) (.percentPlusFixed other amount)

theorem same_plain (rule : FeeRule) : rule.plain.Same rule := by
  cases rule with
  | none => exact .none
  | percent rate => exact .percent rate.same_plain
  | fixed amount => exact .fixed amount
  | percentPlusFixed rate amount => exact .percentPlusFixed rate.same_plain amount

theorem keeps_none (depth : Nat) : Keeps (depth + 1) ofJson? toJson .none .none := by
  apply keeps_tagged "mode" "none" []
  · intro value fieldsWith h
    rw [ofJson?, h]
    rfl
  · rfl
  · rfl
  · decide
  · exact keepsFields_nil _

theorem keeps_percent {depth : Nat} {rate : Decimal}
    (hrate : Keeps depth decimal? (fun d => .str d.text) rate rate.plain) :
    Keeps (depth + 1) ofJson? toJson (.percent rate) (.percent rate.plain) := by
  apply keeps_tagged "mode" "percent" ["percent"]
  · intro value fieldsWith h
    rw [ofJson?, h]
    rfl
  · rfl
  · rfl
  · decide
  · exact hrate.required rfl <| keepsFields_nil _

theorem keeps_fixed {depth : Nat} {amount : Amount}
    (hamount : Keeps depth amount? .int amount amount) :
    Keeps (depth + 1) ofJson? toJson (.fixed amount) (.fixed amount) := by
  apply keeps_tagged "mode" "fixed" ["amount"]
  · intro value fieldsWith h
    rw [ofJson?, h]
    rfl
  · rfl
  · rfl
  · decide
  · exact hamount.required rfl <| keepsFields_nil _

theorem keeps_percentPlusFixed {depth : Nat} {rate : Decimal} {amount : Amount}
    (hrate : Keeps depth decimal? (fun d => .str d.text) rate rate.plain)
    (hamount : Keeps depth amount? .int amount amount) :
    Keeps (depth + 1) ofJson? toJson (.percentPlusFixed rate amount)
      (.percentPlusFixed rate.plain amount) := by
  apply keeps_tagged "mode" "percent_plus_fixed" ["percent", "amount"]
  · intro value fieldsWith h
    rw [ofJson?, h]
    rfl
  · rfl
  · rfl
  · decide
  · exact hrate.required rfl <| hamount.required rfl <| keepsFields_nil _

end FeeRule

/-- The fee of a payment method is restored, whichever case it is of. -/
theorem restores_feeRule (depth : Nat) :
    Restores (depth + 1) FeeRule.ofJson? FeeRule.toJson FeeRule.plain := by
  intro value rule h
  obtain ⟨⟨name, fieldsWith⟩, -, h⟩ := Option.bind_eq_some_iff.1 h
  dsimp only at h
  split at h
  · obtain ⟨fields, -, h⟩ := Option.bind_eq_some_iff.1 h
    obtain rfl := Option.some.inj h
    exact FeeRule.keeps_none depth
  split at h
  · obtain ⟨fields, -, h⟩ := Option.bind_eq_some_iff.1 h
    obtain ⟨rate, hrate, h⟩ := (restores_decimal depth).required h
    obtain rfl := Option.some.inj h
    exact FeeRule.keeps_percent hrate
  split at h
  · obtain ⟨fields, -, h⟩ := Option.bind_eq_some_iff.1 h
    obtain ⟨amount, hamount, h⟩ := (restores_amount depth).required h
    obtain rfl := Option.some.inj h
    exact FeeRule.keeps_fixed hamount
  split at h
  · obtain ⟨fields, -, h⟩ := Option.bind_eq_some_iff.1 h
    obtain ⟨rate, hrate, h⟩ := (restores_decimal depth).required h
    obtain ⟨amount, hamount, h⟩ := (restores_amount depth).required h
    obtain rfl := Option.some.inj h
    exact FeeRule.keeps_percentPlusFixed hrate hamount
  · cases h

namespace PaymentMethod

/-- The payment method without the minus of a zero. -/
def plain (method : PaymentMethod) : PaymentMethod := { method with fee := method.fee.plain }

/-- The payment methods have the same fee, and are equal but for it. -/
structure Same (a b : PaymentMethod) : Prop where
  fee : a.fee.Same b.fee
  others : a = { b with fee := a.fee }

theorem same_plain (method : PaymentMethod) : method.plain.Same method :=
  ⟨method.fee.same_plain, rfl⟩

end PaymentMethod

theorem restores_paymentMethod (depth : Nat) :
    Restores (depth + 2) PaymentMethod.ofJson? PaymentMethod.toJson PaymentMethod.plain := by
  intro value method h
  obtain ⟨fields, -, h⟩ := Option.bind_eq_some_iff.1 h
  obtain ⟨paymentId, hid, h⟩ := (restores_id (depth + 1)).required h
  obtain ⟨platform, hplatform, h⟩ := (restores_str (depth + 1)).required h
  obtain ⟨fee, hfee, h⟩ := (restores_feeRule depth).orElse (FeeRule.keeps_none depth) h
  obtain rfl := Option.some.inj h
  refine keeps_record (fun _ => rfl) rfl rfl (by decide) ?_
  exact hid.required rfl <| hplatform.required rfl <| hfee.orElse rfl <| keepsFields_nil _

/-! ### All the formats -/

/-- **What is stored is read back.** A table is parsed from the text under which it is stored, its
tiers in order and their percentages with all their places; a text that lists no table stands for
the empty one. Every record that was read from a text is read again from the text that it is
written to: the same record, but that a coupon and a payment method may lose the minus of a
percentage that is zero, which leaves its digits, its places and its value. And a task to close an
order is read as the number of that order, so carrying it out closes the order. -/
theorem stored_formats_read_back :
    (∀ tiers table, (∀ tier ∈ tiers, Amount.Fits tier.quantity) →
      DiscountTable.ofTiers tiers = .ok table → DiscountTable.parse table.encode = table) ∧
    (∀ s, (∀ tiers table, DiscountTable.Lists s tiers → DiscountTable.ofTiers tiers ≠ .ok table) →
      DiscountTable.parse s = DiscountTable.empty) ∧
    ReadsBack Plan.ofJson? Plan.toJson Eq ∧
    ReadsBack Coupon.ofJson? Coupon.toJson Coupon.Same ∧
    ReadsBack PaymentMethod.ofJson? PaymentMethod.toJson PaymentMethod.Same ∧
    ReadsBack User.ofJson? User.toJson Eq ∧
    ReadsBack Subscription.ofJson? Subscription.toJson Eq ∧
    ReadsBack Order.ofJson? Order.toJson Eq ∧
    ReadsBack GiftEntry.ofJson? GiftEntry.toJson Eq ∧
    ReadsBack PurchaseRequest.ofJson? PurchaseRequest.toJson Eq ∧
    ReadsBack RenewalRequest.ofJson? RenewalRequest.toJson Eq ∧
    ReadsBack RechargeRequest.ofJson? RechargeRequest.toJson Eq ∧
    ∀ orderNo now, ClosePayload.ofText? (Task.closeOrder orderNo).payload = some ⟨orderNo⟩ ∧
      Expiry.handle (Task.closeOrder orderNo) now = Expiry.close orderNo now := by
  refine ⟨fun tiers table hfits h => DiscountTable.parse_encode h hfits,
    fun s => DiscountTable.parse_of_unlisted,
    (restores_plan 126).readsBack fun _ => rfl,
    (restores_coupon 125).readsBack Coupon.same_plain,
    (restores_paymentMethod 125).readsBack PaymentMethod.same_plain,
    (restores_user 126).readsBack fun _ => rfl,
    (restores_subscription 126).readsBack fun _ => rfl,
    (restores_order 126).readsBack fun _ => rfl,
    (restores_giftEntry 126).readsBack fun _ => rfl,
    (restores_purchaseRequest 126).readsBack fun _ => rfl,
    (restores_renewalRequest 126).readsBack fun _ => rfl,
    (restores_rechargeRequest 126).readsBack fun _ => rfl, fun orderNo now => ?_⟩
  have hpayload : ClosePayload.ofText? (Task.closeOrder orderNo).payload = some ⟨orderNo⟩ :=
    ClosePayload.ofText?_text ⟨orderNo⟩
  refine ⟨hpayload, ?_⟩
  rw [Expiry.handle, hpayload]

/-- A table of two tiers that were given in the other order, a text that lists no tiers, a plan that
was read from a list of its fields, and a coupon that loses the minus of its percentage. -/
theorem stored_formats_read_back_of_samples :
    DiscountTable.ofTiers [DiscountTable.tierOf 12 80, DiscountTable.tierOf 3 95] =
        .ok ⟨[DiscountTable.tierOf 3 95, DiscountTable.tierOf 12 80]⟩ ∧
      DiscountTable.parse
          (DiscountTable.mk [DiscountTable.tierOf 3 95, DiscountTable.tierOf 12 80]).encode =
        ⟨[DiscountTable.tierOf 3 95, DiscountTable.tierOf 12 80]⟩ ∧
      DiscountTable.parse "no tiers" = DiscountTable.empty ∧
      (ofText? (Plan.mk 7 "A" 300 .empty (-1) 0 true).toJson.text).bind Plan.ofJson? =
        some ⟨7, "A", 300, .empty, -1, 0, true⟩ ∧
      ∃ coupon back,
        (ofText? "[\"HALF\",[\"percentage\",\"-0.4e-28\"]]").bind Coupon.ofJson? = some coupon ∧
        (ofText? coupon.toJson.text).bind Coupon.ofJson? = some back ∧ back.Same coupon := by
  have hmade : DiscountTable.ofTiers [DiscountTable.tierOf 12 80, DiscountTable.tierOf 3 95] =
      .ok ⟨[DiscountTable.tierOf 3 95, DiscountTable.tierOf 12 80]⟩ :=
    DiscountTable.ofTiers_of_sorted (by decide)
      (by simp [List.mergeSort, DiscountTable.tierOf, DiscountTable.comesBefore])
  have hplan : (ofText? "[7,\"A\",300,\"\",-1,0,true]").bind Plan.ofJson? =
      some ⟨7, "A", 300, .empty, -1, 0, true⟩ := by decide +kernel
  have hsome : ((ofText? "[\"HALF\",[\"percentage\",\"-0.4e-28\"]]").bind
      Coupon.ofJson?).isSome = true := by decide +kernel
  obtain ⟨coupon, hcoupon⟩ := Option.isSome_iff_exists.1 hsome
  obtain ⟨htables, hunlisted, hplans, hcoupons, -⟩ := stored_formats_read_back
  refine ⟨hmade, htables _ _ (by decide) hmade, hunlisted _ ?_, ?_, coupon,
    (hcoupons _ _ hcoupon).imp fun back h => ⟨hcoupon, h⟩⟩
  · rintro tiers table ⟨items, hvalue, -⟩ -
    have hnone : ofText? "no tiers" = none := by rfl
    rw [hnone] at hvalue
    cases hvalue
  · obtain ⟨back, hback, rfl⟩ := hplans _ _ hplan
    exact hback

end OrderDesk
