import Mathlib.Data.List.DropRight
import Mathlib.Logic.Relation
import OrderDesk.Proofs.Desk.Turns
import OrderDesk.Proofs.Program.Faults
import OrderDesk.Proofs.Store.Tally

/-!
# No user redeems a coupon more often than allowed

How often a user has redeemed a coupon is stored nowhere. It is counted anew for every request,
over all orders of the user that carry the code, cancelled ones too. When jobs are done one after
the other, nothing comes between the counting and the commit, so the limit is kept: an order is
placed only where the count is below the limit, it adds one to the count of its own user and code,
and closing and paying leave the count as it is.

Which of the calls of a job are answered does not matter. Any pattern is allowed for each job.

* `Order.RedeemsIn`: what was checked of the coupon of an order.
* `Submission.runAmid_submit`: a request changes nothing in the store, or it places an order that
  was prepared from that very store. `World.takeAmid_cases`: the same for every job.
* `Store.KeepsUserLimits`: the invariant.
* `coupon_limits_hold`: the limits over a whole run.
-/

namespace OrderDesk

/-! ### Codes -/

namespace Text

/-- What comes first where characters were dropped is not to be dropped. -/
theorem dropWhile_eq_self_of_prefix {p : Char → Bool} {cs part : List Char}
    (h : part <+: cs.dropWhile p) : part.dropWhile p = part := by
  cases part with
  | nil => rfl
  | cons c rest =>
    obtain ⟨tail, htail⟩ := h
    have hhead := List.dropWhile_eq_self_iff.1 (List.dropWhile_idempotent p cs)
    rw [← htail] at hhead
    exact List.dropWhile_cons_of_neg (hhead (Nat.succ_pos _))

/-- Trimming a text that is trimmed leaves it as it is. -/
theorem trim_trim (s : String) : trim (trim s) = trim s := by
  have hstart : trimStart (trimChars s.toList) = trimChars s.toList :=
    dropWhile_eq_self_of_prefix (List.rdropWhile_prefix _ (trimStart s.toList))
  have hend : (trimStart (trimChars s.toList).reverse).reverse = trimChars s.toList := by
    rw [trimChars, List.reverse_reverse, trimStart, trimStart, List.dropWhile_idempotent]
  rw [trim, trim, String.toList_ofList, trimChars, hstart, hend]

end Text

theorem Submission.codeOf_eq_some {wanted : Option String} {code : String}
    (h : codeOf wanted = some code) : Text.trim code = code ∧ code ≠ "" := by
  unfold codeOf at h
  cases wanted with
  | none => cases h
  | some text =>
    simp only [Option.map_some] at h
    split at h
    · cases h
    · rename_i hfull
      obtain rfl := Option.some.inj h
      refine ⟨Text.trim_trim text, ?_⟩
      rintro hempty
      simp [hempty] at hfull

/-- The coupon of an order, if it has one, is stored under a code that is not blank, without blanks
at either end. The user of the order has redeemed it less often than the limit for each user. -/
def Order.RedeemsIn (order : Order) (store : Store) : Prop :=
  ∀ code, order.coupon = some code → Text.trim code = code ∧ code ≠ "" ∧
    ∃ coupon, store.coupons.find? code = some coupon ∧
      store.redemptions order.userId code < coupon.userLimit

namespace Submission

variable {config : Config} {stamp : Stamp} {session : Option UserId} {store : Store}
  {request : Request} {f : Fulfillment}

theorem Prepared.redeemsIn (h : Prepared .still config stamp session store request f) :
    f.order.RedeemsIn store := by
  have hterms : ∀ {user plan wanted} {coupon : Option Coupon} {code},
      Option.Rel (Redeemable .still store user plan) (codeOf wanted) coupon →
      codeOf wanted = some code → Text.trim code = code ∧ code ≠ "" ∧
        ∃ coupon, store.coupons.find? code = some coupon ∧
          store.redemptions user code < coupon.userLimit := by
    intro user plan wanted coupon code hrel hcode
    obtain ⟨htrim, hfull⟩ := codeOf_eq_some hcode
    rw [hcode] at hrel
    cases hrel with
    | some hredeemable =>
      exact ⟨htrim, hfull, _, hredeemable.stored.now, of_decide_eq_true hredeemable.allows.now⟩
  cases h with
  | purchase read => exact fun code hcode => hterms read.coupon hcode
  | renewal read => exact fun code hcode => hterms read.coupon hcode
  | recharge => exact nofun

/-- Placing an order leaves the store as it was, or it commits the writes for the order. -/
theorem runAmid_place {world : World} (hraces : world.races = []) (config : Config)
    (now : Instant) (f : Fulfillment) (faults : List Bool) :
    let after := ((place config now f).runAmid faults world).1.2
    after.races = [] ∧
      (after.store = world.store ∨ world.store.commit (f.writes now) = .ok after.store) := by
  simp only [place, Fulfillment.store, Program.transaction, Program.check, Program.perform,
    Expiry.scheduleClose, Program.bind_eq_andThen, Program.pure_eq_done, Program.andThen]
  rw [Program.runAmid]
  split
  · exact ⟨hraces, .inl rfl⟩
  · rw [World.answer_of_races hraces]
    obtain ⟨store, hcommit, hends⟩ | ⟨error, after, hstore, -, hkept, hends⟩ | ⟨overflow, hends⟩ :=
      world.answerAlone_commit (f.writes now)
    · rw [hends]
      -- Whether the task is taken or not, the order has been stored.
      simp only [Program.written, Program.andThen, Program.runAmid]
      split
      · exact ⟨hraces, .inr hcommit⟩
      · obtain ⟨reply, after, henqueue, hstore, -⟩ := { world with store }.answer_enqueue
          (Task.closeOrder f.order.orderNo) config.closeAfter
        have hkept : after.races = world.races :=
          (congrArg (·.2.races) henqueue).symm.trans (World.races_of_answerAlone _ _)
        rw [henqueue]
        refine ⟨?_, .inr ?_⟩
        · cases reply <;> exact hkept.trans hraces
        · cases reply <;> exact hstore.symm ▸ hcommit
    · rw [hends]
      exact ⟨hkept.trans hraces, .inl hstore⟩
    · rw [hends]
      exact ⟨hraces, .inl rfl⟩

/-- **What a request does, whichever of its calls are answered**, where no others commit: it leaves
the store as it was, or it commits what it prepared from that store. -/
theorem runAmid_submit {world : World} (hraces : world.races = []) (config : Config)
    (stamp : Stamp) (session : Option UserId) (request : Request) (faults : List Bool) :
    let after := ((submit config stamp session request).runAmid faults world).1.2
    after.races = [] ∧ (after.store = world.store ∨
      ∃ f, Prepared .still config stamp session world.store request f ∧
        world.store.commit (f.writes stamp.now) = .ok after.store) := by
  have hprepare : (prepare config stamp session request).Conforms (.reading .still)
      (fun f store => Prepared .still config stamp session store request f) world.store :=
    prepare_conforms request
  obtain ⟨hstore, hkept, hprepared⟩ := Program.runAmid_of_conforms (Q := (· = world.store)) hprepare
    (fun _ _ _ _ hread hanswers hsame => (hanswers.eq_of_isReading hread).trans hsame)
    hraces rfl faults
  rw [submit, Program.runAmid_bind]
  cases hrun : (prepare config stamp session request).runAmid faults world with
  | mk ends rest =>
    obtain ⟨ended, reading⟩ := ends
    rw [hrun] at hstore hkept hprepared
    cases ended with
    | error failure => exact ⟨hkept, .inl hstore⟩
    | ok f =>
      obtain ⟨hraces', hplaced⟩ := runAmid_place hkept config stamp.now f rest
      refine ⟨hraces', ?_⟩
      change reading.store = world.store at hstore
      rw [hstore] at hplaced
      rcases hplaced with hsame | hcommit
      · exact .inl hsame
      · exact .inr ⟨f, hstore ▸ hprepared f rfl, hcommit⟩

end Submission

/-! ### The count -/

/-- The orders of a user that carry a code. -/
def Order.carries (user : UserId) (code : String) (order : Order) : Bool :=
  order.userId == user && order.coupon == some code

/-- The redemptions of a user are counted over the orders. -/
theorem Store.redemptions_eq_sumOver (store : Store) (user : UserId) (code : String) :
    (store.redemptions user code : Int) =
      store.orders.sumOver (Order.carries user code) fun _ => 1 :=
  store.orders.count_eq_sumOver (Order.carries user code)

section Count

variable {order : Order} {before after : Store}

/-- An order that is placed adds one to the redemptions of its own user and code. -/
theorem Order.Placed.redemptions (h : order.Placed before after) (user : UserId) (code : String) :
    (after.redemptions user code : Int) =
      before.redemptions user code + if order.carries user code then 1 else 0 := by
  rw [Store.redemptions_eq_sumOver, Store.redemptions_eq_sumOver, h.orders,
    Table.sumOver_put_of_none h.absent]
  rfl

/-- An order that moves on is counted as before. -/
theorem Store.redemptions_of_withStatus (hfound : before.orders.find? order.orderNo = some order)
    (status : OrderStatus) (horders : after.orders = before.orders.put (order.withStatus status))
    (user : UserId) (code : String) :
    after.redemptions user code = before.redemptions user code := by
  have hold : before.orders.find? (order.withStatus status).orderNo = some order := hfound
  have hsame : (after.redemptions user code : Int) = before.redemptions user code := by
    rw [redemptions_eq_sumOver, redemptions_eq_sumOver, horders, Table.sumOver_put_of_some hold]
    exact Int.sub_add_cancel _ _
  exact Int.ofNat.inj hsame

end Count

/-! ### The invariant -/

theorem Coupon.userLimit_release (coupon : Coupon) :
    coupon.release.userLimit = coupon.userLimit := by
  unfold Coupon.release
  split <;> rfl

/-- The limit that a coupon sets for each user. -/
def Store.userLimit? (store : Store) (code : String) : Option Amount :=
  (store.coupons.find? code).map Coupon.userLimit

/-- The coupons are those of the start, with their limits. All codes of orders are codes of them,
and no user has redeemed one more often than its limit. -/
structure Store.KeepsUserLimits (seed store : Store) : Prop where
  same : ∀ code, store.userLimit? code = seed.userLimit? code
  codes : ∀ orderNo order code, store.orders.find? orderNo = some order →
    order.coupon = some code → Text.trim code = code ∧ code ≠ "" ∧ store.coupons.contains code
  limits : ∀ user code limit, store.userLimit? code = some limit →
    (store.redemptions user code : Int) ≤ max limit 0

namespace Store.KeepsUserLimits

variable {seed before after : Store} {order : Order}

theorem contains_iff_userLimit? (store : Store) (code : String) :
    store.coupons.contains code = (store.userLimit? code).isSome :=
  Option.isSome_map.symm

theorem of_placed (h : KeepsUserLimits seed before) (hplaced : order.Placed before after)
    (hredeems : order.RedeemsIn before) : KeepsUserLimits seed after := by
  have hlimit : ∀ code, after.userLimit? code = before.userLimit? code := by
    intro code
    rw [userLimit?, hplaced.coupons, Option.map_map]
    rfl
  refine ⟨fun code => (hlimit code).trans (h.same code), ?_, ?_⟩
  · intro orderNo found code hfound hcode
    rw [contains_iff_userLimit?, hlimit, ← contains_iff_userLimit?]
    rw [hplaced.orders] at hfound
    obtain ⟨-, rfl⟩ | ⟨-, hold⟩ := Table.found_of_put hfound
    · obtain ⟨htrim, hfull, coupon, hcoupon, -⟩ := hredeems code hcode
      exact ⟨htrim, hfull, Option.isSome_iff_exists.2 ⟨coupon, hcoupon⟩⟩
    · exact h.codes orderNo found code hold hcode
  · intro user code limit hafter
    rw [hlimit] at hafter
    rw [hplaced.redemptions]
    cases hcarries : order.carries user code with
    | false => simpa [hcarries] using h.limits user code limit hafter
    | true =>
      simp only [Order.carries, Bool.and_eq_true, beq_iff_eq] at hcarries
      obtain ⟨rfl, hcode⟩ := hcarries
      obtain ⟨-, -, coupon, hcoupon, hless⟩ := hredeems code hcode
      rw [userLimit?, hcoupon] at hafter
      obtain rfl := Option.some.inj hafter
      exact Int.le_trans hless (Int.le_max_left _ _)

theorem of_withStatus (h : KeepsUserLimits seed before)
    (hcoupons : ∀ code, after.userLimit? code = before.userLimit? code)
    (hfound : before.orders.find? order.orderNo = some order) (status : OrderStatus)
    (horders : after.orders = before.orders.put (order.withStatus status)) :
    KeepsUserLimits seed after := by
  refine ⟨fun code => (hcoupons code).trans (h.same code), ?_, ?_⟩
  · intro orderNo found code hafter hcode
    rw [contains_iff_userLimit?, hcoupons, ← contains_iff_userLimit?]
    rw [horders] at hafter
    obtain ⟨rfl, rfl⟩ | ⟨-, hold⟩ := Table.found_of_put hafter
    · exact h.codes _ order code hfound hcode
    · exact h.codes orderNo found code hold hcode
  · intro user code limit hlimit
    rw [hcoupons] at hlimit
    rw [redemptions_of_withStatus hfound status horders]
    exact h.limits user code limit hlimit

/-- **Every change keeps the limits**, when an order is placed only if its user may redeem its
coupon once more. -/
theorem of_change (h : KeepsUserLimits seed before)
    (hchange : before.Change (fun order => order.RedeemsIn before) after) :
    KeepsUserLimits seed after := by
  cases hchange with
  | placed order hredeems hplaced => exact h.of_placed hplaced hredeems
  | closed order hclosed =>
    refine h.of_withStatus (fun code => ?_) hclosed.found .cancelled hclosed.orders
    rw [userLimit?, hclosed.coupons, Option.map_map]
    refine congrArg (Option.map · (before.coupons.find? code)) (funext fun coupon => ?_)
    simp only [Function.comp]
    split
    · exact coupon.userLimit_release
    · rfl
  | paid order hpaid =>
    exact h.of_withStatus (fun code => by rw [hpaid.store]; rfl) hpaid.found .paid
      (hpaid.store ▸ rfl)

/-- Closing and paying any orders keeps the limits. -/
theorem of_moves (h : KeepsUserLimits seed before)
    (hmoves : Relation.ReflTransGen (Store.Change fun _ => False) before after) :
    KeepsUserLimits seed after := by
  induction hmoves with
  | refl => exact h
  | tail _ hchange ih => exact ih.of_change (hchange.mono fun _ => False.elim)

end Store.KeepsUserLimits

/-! ### Runs in which calls are not answered -/

/-- The world after a job of which some calls are not answered. -/
def World.takeAmid (world : World) (turn : Turn) (faults : List Bool) : World :=
  (turn.job.program.runAmid faults { world with now := turn.now }).1.2

/-- The world after some jobs, one after the other, each with a pattern of calls that are not
answered. -/
def World.dayAmid (world : World) (turns : List (Turn × List Bool)) : World :=
  turns.foldl (fun world turn => world.takeAmid turn.1 turn.2) world

/-- **What a job does, whichever of its calls are answered**, where no others commit: it places one
order, which was prepared from the store as it was, or it only closes and pays orders. -/
theorem World.takeAmid_cases {world : World} (hraces : world.races = []) (turn : Turn)
    (faults : List Bool) :
    let after := world.takeAmid turn faults
    after.races = [] ∧
      ((∃ config stamp session request f,
        Submission.Prepared .still config stamp session world.store request f ∧
          f.order.Placed world.store after.store) ∨
        Relation.ReflTransGen (Store.Change fun _ => False) world.store after.store) := by
  obtain ⟨now, job⟩ := turn
  let entered : World := { world with now }
  have hentered : entered.races = [] := hraces
  have hother : job.Places (fun _ => False) →
      (world.takeAmid ⟨now, job⟩ faults).races = [] ∧
        Relation.ReflTransGen (Store.Change fun _ => False) world.store
          (world.takeAmid ⟨now, job⟩ faults).store := by
    intro hplaces
    obtain ⟨hchanges, hkept, -⟩ := Program.runAmid_of_conforms
      (Q := Relation.ReflTransGen (Store.Change fun _ => False) world.store)
      (job.program_trades entered.store hplaces)
      (fun before c reply after hallows hanswers hbefore => by
        obtain rfl | ⟨-, hchange⟩ := Call.Trades.change hallows hanswers
        · exact hbefore
        · exact hbefore.tail hchange) hentered .refl faults
    exact ⟨hkept, hchanges⟩
  cases job with
  | submit config stamp session request =>
    rw [takeAmid, Job.program, Program.runAmid_bind_pure]
    obtain ⟨hkept, hsame | ⟨f, hprepared, hcommit⟩⟩ :=
      Submission.runAmid_submit hentered config stamp session request faults
    · exact ⟨hkept, .inr (by rw [hsame])⟩
    · exact ⟨hkept, .inl ⟨config, stamp, session, request, f, hprepared,
        Fulfillment.placed_of_commit hprepared.sound_of_still hcommit⟩⟩
  | close orderNo now => exact (hother trivial).imp_right .inr
  | pay orderNo => exact (hother trivial).imp_right .inr
  | work deadline now => exact (hother trivial).imp_right .inr

/-- One job keeps the limits. -/
theorem Store.KeepsUserLimits.takeAmid {seed : Store} {world : World}
    (h : seed.KeepsUserLimits world.store) (hraces : world.races = []) (turn : Turn)
    (faults : List Bool) :
    seed.KeepsUserLimits (world.takeAmid turn faults).store ∧
      (world.takeAmid turn faults).races = [] := by
  obtain ⟨hkept, ⟨_, _, _, _, f, hprepared, hplaced⟩ | hmoves⟩ :=
    World.takeAmid_cases hraces turn faults
  · exact ⟨h.of_placed hplaced hprepared.redeemsIn, hkept⟩
  · exact ⟨h.of_moves hmoves, hkept⟩

theorem Store.KeepsUserLimits.dayAmid {seed : Store} {world : World}
    (h : seed.KeepsUserLimits world.store) (hraces : world.races = [])
    (turns : List (Turn × List Bool)) : seed.KeepsUserLimits (world.dayAmid turns).store := by
  induction turns generalizing world with
  | nil => exact h
  | cons turn rest ih =>
    obtain ⟨hkeeps, hkept⟩ := h.takeAmid hraces turn.1 turn.2
    exact ih hkeeps hkept

/-- **The limit of a coupon for each user holds over every run** of jobs that are done one after the
other from a store without orders, whichever of their calls are not answered: no user ever has
more orders with a code, wherever they stand, than the coupon allows. And an order carries only
the code of a coupon, which is not blank and has no blanks at either end. -/
theorem coupon_limits_hold {store : Store} (horders : store.orders = .empty) (queue : Queue)
    (now : Instant) (turns : List (Turn × List Bool)) :
    let after := ((World.calm store queue now).dayAmid turns).store
    (∀ user code coupon, store.coupons.find? code = some coupon →
      (after.redemptions user code : Int) ≤ max coupon.userLimit 0) ∧
    ∀ orderNo order code, after.orders.find? orderNo = some order → order.coupon = some code →
      Text.trim code = code ∧ code ≠ "" ∧ store.coupons.contains code ∧
        after.coupons.contains code := by
  have hopened : store.KeepsUserLimits store := by
    refine ⟨fun _ => rfl, ?_, ?_⟩
    · intro orderNo order code hfound
      rw [horders] at hfound
      cases hfound
    · intro user code limit _
      rw [Store.redemptions, horders]
      exact Int.le_max_right _ _
  let world := World.calm store queue now
  have hkeeps : store.KeepsUserLimits (world.dayAmid turns).store := hopened.dayAmid rfl turns
  constructor
  · intro user code coupon hcoupon
    refine hkeeps.limits user code coupon.userLimit ?_
    rw [hkeeps.same, Store.userLimit?, hcoupon]
    rfl
  · intro orderNo order code hfound hcode
    obtain ⟨htrim, hfull, hstored⟩ := hkeeps.codes orderNo order code hfound hcode
    refine ⟨htrim, hfull, ?_, hstored⟩
    rwa [Store.KeepsUserLimits.contains_iff_userLimit?, ← hkeeps.same,
      ← Store.KeepsUserLimits.contains_iff_userLimit?]

/-! ### One run -/

/-- A plan, and a coupon that each user can redeem once. -/
def Store.oneEach : Store :=
  { Store.empty with
    plans := .ofList [⟨7, "basic", 300, .empty, -1, 0, true⟩]
    payments := .ofList [⟨3, "card", .none⟩]
    coupons := .ofList [⟨"TEN", .fixed 10, 0, 0, 1, []⟩]
    users := .ofList [⟨1, 0⟩] }

/-- The user buys with the coupon, and the order is closed. The user tries again twice, and the
first of these times the counting is not answered. -/
def Turn.secondTries : List (Turn × List Bool) :=
  let buy (orderNo : OrderNo) : Turn :=
    ⟨⟨0, 0⟩, .submit .standard ⟨orderNo, ⟨0, 0⟩⟩ (some 1) (.purchase ⟨7, 1, some " TEN ", 3⟩)⟩
  [(buy "first", []), (⟨⟨0, 0⟩, .close "first" ⟨0, 0⟩⟩, []),
    (buy "second", [false, false, false, false, true]), (buy "third", [])]

/-- The order that was closed counts, so the coupon is redeemed once, under its trimmed code. -/
theorem coupon_limits_hold_of_secondTries :
    let after := ((World.calm Store.oneEach .empty ⟨0, 0⟩).dayAmid Turn.secondTries).store
    ((after.redemptions 1 "TEN" : Int) ≤ max 1 0 ∧ after.redemptions 1 "TEN" = 1) ∧
      after.orders.rows.map (fun order => (order.orderNo, order.coupon, order.status)) =
        [("first", some "TEN", .cancelled)] := by
  refine ⟨⟨?_, ?_⟩, ?_⟩
  · exact (@coupon_limits_hold Store.oneEach rfl .empty ⟨0, 0⟩ Turn.secondTries).1 1 "TEN"
      ⟨"TEN", .fixed 10, 0, 0, 1, []⟩ rfl
  · decide +kernel
  · decide +kernel

end OrderDesk
