import OrderDesk.Proofs.Pricing.Bounds
import OrderDesk.Submission
import OrderDesk.World

/-!
# A surcharge can stop a request

A payment method may add any amount to an order. The sum is worked out before the limit for
orders is looked at, so there are three ways in which pricing ends that would have come to an
amount without the surcharge: with the sum, refused because the sum is above the limit, and,
where the sum is above all amounts, not at all. Nothing else in pricing stops
(`Price.surcharged`).

So a request with a small amount and a surcharge that is large enough is stopped and not
refused (`Submission.stopped_of_greatest_surcharge`).
-/

namespace OrderDesk

/-- The payment method without its surcharge. -/
def PaymentMethod.feeless (payment : PaymentMethod) : PaymentMethod :=
  { payment with fee := .none }

namespace Price

/-- Before the fee a price is what it is without a fee. -/
theorem ofPlan_feeless (config : Config) (plan : Plan) (quantity : Amount) (coupon : Option Coupon)
    (balance : Amount) (payment : PaymentMethod) :
    ofPlan config plan quantity coupon balance payment.feeless =
      Failure.ofRefusal (beforeFee config plan quantity coupon balance) := by
  rw [ofPlan_eq]
  cases hdue : beforeFee config plan quantity coupon balance with
  | error error => rfl
  | ok due =>
    have hcame := isDue_of_beforeFee hdue
    have hsame : due.quote.surcharge config (payment.feeless.fee.charge due.quote.amount) =
        .ok due.quote := by
      have hcharge : payment.feeless.fee.charge due.quote.amount = 0 := FeeRule.charge_none _
      rw [hcharge, Quote.surcharge_eq_ok_iff, Int.add_zero]
      refine ⟨?_, Int.le_trans hcame.amount_le hcame.limit, ?_⟩
      · exact Int.le_trans hcame.amount_le
          (Int.le_trans (Int.sub_le_self _ hcame.discount.1) hcame.fits)
      · rw [← hcame.fee]
    change due.quote.surcharge config (payment.feeless.fee.charge due.quote.amount) >>= _ = _
    rw [hsame]
    rfl

/-- **What a surcharge makes of a price.** Without the surcharge of its payment method a price is
found or refused. With it the price is refused just the same, or the surcharge is added: it is
refused when the sum is above the limit for orders, and it stops when the sum is above all
amounts. The same goes for a recharge that keeps its own limits. -/
theorem surcharged (config : Config) (payment : PaymentMethod) :
    (∀ plan quantity coupon balance,
      match ofPlan config plan quantity coupon balance payment.feeless with
      | .error failure => (∃ error, failure = .refused error) ∧
        ofPlan config plan quantity coupon balance payment = .error failure
      | .ok due => ofPlan config plan quantity coupon balance payment =
        (due.quote.surcharge config (payment.fee.charge due.quote.amount)).map
          fun quote => ⟨quote, due.deduction⟩) ∧
    ∀ amount, Eligibility.recharge config amount = .ok () →
      ofRecharge config amount payment =
        (Quote.flat amount).surcharge config (payment.fee.charge amount) := by
  constructor
  · intro plan quantity coupon balance
    rw [ofPlan_feeless, ofPlan_eq]
    cases beforeFee config plan quantity coupon balance with
    | error error => exact ⟨⟨error, rfl⟩, rfl⟩
    | ok due =>
      change due.quote.surcharge config (payment.fee.charge due.quote.amount) >>= _ = _
      cases due.quote.surcharge config (payment.fee.charge due.quote.amount) with
      | error failure => rfl
      | ok quote => rfl
  · intro amount hlimits
    refine ofRecharge_eq config ?_ payment
    unfold Eligibility.recharge at hlimits
    split at hlimits
    · cases hlimits
    · rename_i hpositive
      exact Int.le_of_lt (Int.not_le.1 hpositive)

/-- A surcharge of five on an amount of 300, and on a recharge of 300. -/
theorem surcharged_by_five :
    ofPlan .standard ⟨7, "basic", 300, .empty, 1, 0, true⟩ 1 none 0 ⟨3, "card", .fixed 5⟩ =
        .ok ⟨⟨300, 0, 0, 0, 5, 305⟩, ⟨0, 300, 0, 0⟩⟩ ∧
      ofRecharge .standard 300 ⟨3, "card", .fixed 5⟩ = .ok ⟨300, 0, 0, 0, 5, 305⟩ := by
  have h := surcharged .standard ⟨3, "card", .fixed 5⟩
  exact ⟨h.1 ⟨7, "basic", 300, .empty, 1, 0, true⟩ 1 none 0, h.2 300 rfl⟩

end Price

/-! ### A request that is stopped -/

/-- A plan for 300, and a payment method with a fixed surcharge. -/
def World.withSurcharge (charge : Amount) : World :=
  .calm
    { Store.empty with
      plans := .ofList [⟨7, "basic", 300, .empty, 1, 0, true⟩]
      payments := .ofList [⟨3, "card", .fixed charge⟩]
      users := .ofList [⟨1, 0⟩] }
    .empty ⟨0, 0⟩

/-- Buys one unit of the plan. -/
def Submission.buyOne : Program OrderNo :=
  submit .standard ⟨"first", ⟨0, 0⟩⟩ (some 1) (.purchase ⟨7, 1, none, 3⟩)

/-- **A surcharge of the greatest amount stops the request.** It lifts the total above the limit for
orders, and still the request is not refused. A surcharge that is lower by 300 is refused. -/
theorem Submission.stopped_of_greatest_surcharge :
    Config.standard.maxOrderAmount < 300 + (FeeRule.fixed Amount.greatest).charge 300 ∧
      (buyOne.run (World.withSurcharge Amount.greatest)).1 = .error (.stopped .addition) ∧
      (buyOne.run (World.withSurcharge (Amount.greatest - 300))).1 =
        .error (.refused .amountOutOfRange) := by
  refine ⟨?_, ?_, ?_⟩
  · decide
  · rfl
  · rfl

end OrderDesk
