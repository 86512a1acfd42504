import OrderDesk.Proofs.Store.History

/-!
# Limits hold for everyone who commits

A write carries its own condition, checked when it is carried out, so the limits of the store do not
depend on who writes. The units of a plan are never taken below zero, so a plan that is sold out
never turns into one without end, and one without end stays as it is. A coupon is redeemed no more
often than it can be and never counts less than nothing, and no gift balance is set below zero.

One write keeps the limits (`Store.keepsLimits_of_write`), hence a run of commits does
(`Store.limits_kept`).
-/

namespace OrderDesk

/-- A number of units stays one, and a negative number, which stands for no end, stays the same. -/
def Plan.KeepsLimit (plan later : Plan) : Prop :=
  (0 ≤ plan.inventory → 0 ≤ later.inventory) ∧
    (plan.inventory < 0 → later.inventory = plan.inventory)

/-- A coupon that counted no less than nothing does so later, and one with a limit that counted no
more than that does so later. -/
def Coupon.KeepsLimit (coupon later : Coupon) : Prop :=
  later.count = coupon.count ∧ (0 ≤ coupon.usedCount → 0 ≤ later.usedCount) ∧
    (0 < coupon.count → coupon.usedCount ≤ coupon.count → later.usedCount ≤ later.count)

/-- A gift balance is the same, or has been set to one that is not below zero; so one that is not
below zero stays so. -/
def User.KeepsLimit (user later : User) : Prop :=
  later.giftAmount = user.giftAmount ∨ 0 ≤ later.giftAmount

theorem Plan.Evolves.keepsLimit {plan later : Plan} (h : plan.Evolves later) :
    plan.KeepsLimit later := by
  obtain ⟨units, hlater, hfinite⟩ := h
  unfold Plan.KeepsLimit
  constructor
  · intro hcounted
    have hplan : plan.isFinite = true := decide_eq_true hcounted
    exact of_decide_eq_true (hfinite.trans hplan)
  · intro hendless
    have hplan : plan.isFinite = false := decide_eq_false (Int.not_le.2 hendless)
    rw [hlater, Plan.restock_of_endless hplan]

theorem Plan.KeepsLimit.trans {a b c : Plan} (h : a.KeepsLimit b) (h' : b.KeepsLimit c) :
    a.KeepsLimit c := by
  refine ⟨fun hcounted => h'.1 (h.1 hcounted), fun hendless => ?_⟩
  have hsame : b.inventory = a.inventory := h.2 hendless
  exact (h'.2 (hsame ▸ hendless)).trans hsame

namespace Coupon.KeepsLimit

theorem refl (coupon : Coupon) : coupon.KeepsLimit coupon := ⟨rfl, id, fun _ => id⟩

theorem trans {a b c : Coupon} (h : a.KeepsLimit b) (h' : b.KeepsLimit c) : a.KeepsLimit c := by
  obtain ⟨hcount, hnonneg, hlimit⟩ := h
  obtain ⟨hcount', hnonneg', hlimit'⟩ := h'
  refine ⟨hcount'.trans hcount, fun hused => hnonneg' (hnonneg hused), fun hpos hused => ?_⟩
  exact hlimit' (hcount ▸ hpos) (hlimit hpos hused)

/-- A coupon that can still be redeemed is below its limit, so one redemption more is within it. -/
theorem of_redeem {coupon : Coupon} (h : coupon.hasRemaining = true) :
    coupon.KeepsLimit { coupon with usedCount := coupon.usedCount + 1 } := by
  refine ⟨rfl, fun hused => Int.add_nonneg hused Int.one_nonneg, fun hpos _ => ?_⟩
  rw [hasRemaining, Bool.or_eq_true, beq_iff_eq, decide_eq_true_eq] at h
  rcases h with hendless | hbelow
  · exact absurd hendless (Int.ne_of_gt hpos)
  · exact hbelow

theorem of_release (coupon : Coupon) : coupon.KeepsLimit coupon.release := by
  unfold release
  split
  · rename_i hpos
    refine ⟨rfl, fun _ => Int.sub_nonneg_of_le hpos, fun _ hused => ?_⟩
    exact Int.le_trans (Int.sub_le_self _ Int.one_nonneg) hused
  · exact refl coupon

end Coupon.KeepsLimit

namespace User.KeepsLimit

theorem refl (user : User) : user.KeepsLimit user := .inl rfl

theorem trans {a b c : User} (h : a.KeepsLimit b) (h' : b.KeepsLimit c) : a.KeepsLimit c := by
  rcases h' with hsame | hset
  · exact h.imp hsame.trans (hsame ▸ ·)
  · exact .inr hset

end User.KeepsLimit

/-- The records of a store keep their limits until a later moment. -/
structure Store.KeepsLimits (before after : Store) : Prop where
  units : before.plans.Evolves Plan.KeepsLimit after.plans
  redemptions : before.coupons.Evolves Coupon.KeepsLimit after.coupons
  gift : before.users.Evolves User.KeepsLimit after.users

namespace Store

variable {store after : Store}

theorem KeepsLimits.refl (store : Store) : store.KeepsLimits store where
  units := (Later.refl store).plans.mono fun _ _ => Plan.Evolves.keepsLimit
  redemptions := .refl Coupon.KeepsLimit.refl _
  gift := .refl User.KeepsLimit.refl _

/-- **One write keeps the limits.** -/
theorem keepsLimits_of_write {w : Write} (h : store.write w = .ok after) :
    store.KeepsLimits after := by
  have hunits : store.plans.Evolves Plan.KeepsLimit after.plans :=
    (later_of_write h).plans.mono fun _ _ => Plan.Evolves.keepsLimit
  have hsame := KeepsLimits.refl store
  cases w with
  | setGiftBalance id expected balance =>
    obtain ⟨user, huser, -, hnonneg, rfl⟩ := write_setGiftBalance_eq_ok_iff.1 h
    obtain rfl := Table.key_of_find? huser
    exact { hsame with gift := Table.evolves_put User.KeepsLimit.refl huser (.inr hnonneg) }
  | appendEntry entry =>
    obtain rfl := write_appendEntry_eq_ok_iff.1 h
    exact { hsame with }
  | takeUnit id =>
    obtain ⟨plan, -, -, rfl⟩ := write_takeUnit_eq_ok_iff.1 h
    exact { hsame with units := hunits }
  | returnUnit id =>
    obtain ⟨-, rfl⟩ | ⟨plan, -, -, rfl⟩ := write_returnUnit_eq_ok_iff.1 h <;>
      exact { hsame with units := hunits }
  | redeem code =>
    obtain ⟨coupon, hcoupon, hremaining, -, rfl⟩ := write_redeem_eq_ok_iff.1 h
    obtain rfl := Table.key_of_find? hcoupon
    exact { hsame with
      redemptions := Table.evolves_put Coupon.KeepsLimit.refl hcoupon (.of_redeem hremaining) }
  | release code =>
    obtain ⟨-, rfl⟩ | ⟨coupon, hcoupon, rfl⟩ := write_release_eq_ok_iff.1 h
    · exact hsame
    · obtain rfl := Table.key_of_find? hcoupon
      exact { hsame with
        redemptions := Table.evolves_put Coupon.KeepsLimit.refl (by rwa [Coupon.code_release])
          (.of_release coupon) }
  | insert order =>
    obtain ⟨-, rfl⟩ := write_insert_eq_ok_iff.1 h
    exact { hsame with }
  | move orderNo current next =>
    obtain ⟨order, -, -, -, rfl⟩ := write_move_eq_ok_iff.1 h
    exact { hsame with }

theorem KeepsLimits.trans {a b c : Store} (h : a.KeepsLimits b) (h' : b.KeepsLimits c) :
    a.KeepsLimits c where
  units := h.units.trans (fun first second => first.trans second) h'.units
  redemptions := h.redemptions.trans (fun first second => first.trans second) h'.redemptions
  gift := h.gift.trans (fun first second => first.trans second) h'.gift

/-- A commit keeps the limits, and sets no gift balance below zero. -/
theorem keepsLimits_of_commit {writes : List Write} (h : store.commit writes = .ok after) :
    store.KeepsLimits after ∧
      ∀ id expected balance, .setGiftBalance id expected balance ∈ writes → 0 ≤ balance := by
  induction writes generalizing store with
  | nil =>
    obtain rfl := commit_nil_eq_ok_iff.1 h
    exact ⟨.refl _, nofun⟩
  | cons w rest ih =>
    obtain ⟨next, hwrite, hrest⟩ := commit_cons_eq_ok_iff.1 h
    obtain ⟨hkeeps, hset⟩ := ih hrest
    refine ⟨(keepsLimits_of_write hwrite).trans hkeeps, fun id expected balance hmem => ?_⟩
    rcases List.mem_cons.1 hmem with rfl | hmem
    · obtain ⟨user, -, -, hnonneg, -⟩ := write_setGiftBalance_eq_ok_iff.1 hwrite
      exact hnonneg
    · exact hset id expected balance hmem

/-- **The limits hold for everyone who commits**, whatever is committed and whichever of the commits
fail: between any two moments of a run every plan, coupon and gift balance keeps to its limit, and
no write that is carried out sets a gift balance below zero. -/
theorem limits_kept (store : Store) (earlier later : List (List Write)) :
    (store.afterCommits earlier).KeepsLimits (store.afterCommits (earlier ++ later)) ∧
      ∀ id expected balance,
        .setGiftBalance id expected balance ∈ store.carriedOut (earlier ++ later) →
          0 ≤ balance := by
  have hrest := (store.afterCommits earlier).commit_carriedOut later
  rw [← afterCommits_append] at hrest
  exact ⟨(keepsLimits_of_commit hrest).1,
    (keepsLimits_of_commit (store.commit_carriedOut (earlier ++ later))).2⟩

end Store

end OrderDesk
