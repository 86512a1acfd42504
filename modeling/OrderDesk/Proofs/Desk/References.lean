import OrderDesk.Proofs.Desk.Clients
import OrderDesk.Proofs.Program.Calm
import OrderDesk.Proofs.Submission.AllOrNothing

/-!
# What an order refers to is stored

An order names its user, the payment method it is to be paid with and, unless it is a recharge,
a plan. The plan and the payment method were looked up for it, and no record ever goes away, so
they are in the store from then on, whatever clients do and in whatever order their calls are
answered (`Store.Refers`).

The user is looked up for a purchase and for a renewal. A recharge takes the user who is signed
in as given: it is made out for an account that need not be there
(`Submission.recharge_of_unknown_user`). Where all who sign in are stored users, every order is
that of a stored user all the same.
-/

namespace OrderDesk

/-- The kind of order that a request asks for. -/
def Request.kind : Request → OrderKind
  | .purchase _ => .purchase
  | .renewal _ => .renewal
  | .recharge _ => .recharge

/-- The quantity that a request asks for; a recharge asks for none. -/
def Request.wanted : Request → Amount
  | .purchase request => request.quantity
  | .renewal request => request.quantity
  | .recharge _ => 0

/-! ### References -/

/-- The payment method and the plan that an order names are stored, and so is its user, unless it is
a recharge. -/
structure Order.RefersTo (order : Order) (store : Store) : Prop where
  payment : store.payments.contains order.paymentId
  plan : ∀ id, order.planId = some id → store.plans.contains id
  user : order.kind ≠ .recharge → store.users.contains order.userId

/-- Every order refers to records of the store. -/
def Store.Refers (store : Store) : Prop :=
  ∀ orderNo order, store.orders.find? orderNo = some order → order.RefersTo store

/-- Every order is that of a stored user. -/
def Store.KnowsUsers (store : Store) : Prop :=
  ∀ orderNo order, store.orders.find? orderNo = some order → store.users.contains order.userId

theorem Table.Evolves.contains {α κ : Type} {key : α → κ} [DecidableEq κ] {R : α → α → Prop}
    {table later : Table key} (h : table.Evolves R later) {k : κ} (hk : table.contains k = true) :
    later.contains k = true := by
  obtain ⟨record, hrecord⟩ := Option.isSome_iff_exists.1 hk
  obtain ⟨record', hrecord', -⟩ := h k record hrecord
  exact Option.isSome_iff_exists.2 ⟨record', hrecord'⟩

/-- What an order refers to stays in the store. -/
theorem Order.RefersTo.updated {order : Order} {store later : Store} (h : order.RefersTo store)
    (hlater : store.Updated later) : order.RefersTo later where
  payment := hlater.payments ▸ h.payment
  plan id hid := hlater.plans.contains (h.plan id hid)
  user hkind := hlater.users.contains (h.user hkind)

/-- What an order refers to is there when an order was placed. -/
theorem Order.RefersTo.of_placed {order placed : Order} {store after : Store}
    (h : order.RefersTo store) (hplaced : placed.Placed store after) : order.RefersTo after where
  payment := hplaced.payments ▸ h.payment
  plan id hid := by
    rw [Table.contains, hplaced.plans, Option.isSome_map]
    exact h.plan id hid
  user hkind := by
    rw [Table.contains, hplaced.gift.users, Option.isSome_map]
    exact h.user hkind

/-- Moving an order does not change what it refers to. -/
theorem Order.RefersTo.withStatus {order : Order} {store : Store} (h : order.RefersTo store)
    (status : OrderStatus) : (order.withStatus status).RefersTo store :=
  ⟨h.payment, h.plan, h.user⟩

/-- An order that is found after a change was there before, perhaps at another status, or it has been
placed. -/
theorem Store.Change.find?_orders {P : Order → Prop} {before after : Store}
    (h : before.Change P after) {orderNo : OrderNo} {order : Order}
    (horder : after.orders.find? orderNo = some order) :
    (∃ old status, before.orders.find? orderNo = some old ∧ order = old.withStatus status) ∨
      P order := by
  cases h with
  | placed placed meets hplaced =>
    rw [hplaced.orders] at horder
    obtain ⟨-, rfl⟩ | ⟨-, hold⟩ := Table.found_of_put horder
    · exact .inr meets
    · exact .inl ⟨order, order.status, hold, rfl⟩
  | closed old hclosed =>
    rw [hclosed.orders] at horder
    obtain ⟨rfl, rfl⟩ | ⟨-, hold⟩ := Table.found_of_put horder
    · exact .inl ⟨old, .cancelled, hclosed.found, rfl⟩
    · exact .inl ⟨order, order.status, hold, rfl⟩
  | paid old hpaid =>
    rw [hpaid.store] at horder
    obtain ⟨rfl, rfl⟩ | ⟨-, hold⟩ := Table.found_of_put horder
    · exact .inl ⟨old, .paid, hpaid.found, rfl⟩
    · exact .inl ⟨order, order.status, hold, rfl⟩

/-- **Every change keeps the references**, when the orders that are placed refer to records of the
store in which they are placed. -/
theorem Store.Refers.of_change {before after : Store} (h : before.Refers)
    (hlater : before.Later after)
    (hchange : before.Change (fun order => order.RefersTo before) after) : after.Refers := by
  intro orderNo order horder
  obtain ⟨old, status, hold, rfl⟩ | hplaced := hchange.find?_orders horder
  · exact ((h orderNo old hold).updated hlater.updated).withStatus status
  · exact hplaced.updated hlater.updated

/-- Every change keeps the users known, when the orders that are placed are those of stored users. -/
theorem Store.KnowsUsers.of_change {before after : Store} (h : before.KnowsUsers)
    (hlater : before.Later after)
    (hchange : before.Change (fun order => before.users.contains order.userId) after) :
    after.KnowsUsers := by
  intro orderNo order horder
  obtain ⟨old, status, hold, rfl⟩ | hplaced := hchange.find?_orders horder
  · exact hlater.users.contains (h orderNo old hold)
  · exact hlater.users.contains hplaced

/-! ### Orders that were prepared -/

namespace Submission

variable {rely : Rely} {config : Config} {stamp : Stamp} {session : Option UserId}
  {store : Store} {request : Request} {f : Fulfillment}

theorem Prepared.kind_eq (h : Prepared rely config stamp session store request f) :
    f.order.kind = request.kind := by
  cases h <;> rfl

/-- The order is that of the user who is signed in. -/
theorem Prepared.session_eq (h : Prepared rely config stamp session store request f) :
    session = some f.order.userId := by
  cases h with
  | purchase read => exact read.session
  | renewal read => exact read.session
  | recharge signedIn => exact signedIn

/-- What was seen to be stored is stored, in what others make of the store. -/
theorem contains_of_seen {α κ : Type} [DecidableEq κ] {key : α → κ} (table : Store → Table key)
    (hkept : ∀ {before after}, rely.May before after → ∀ {k}, (table before).contains k = true →
      (table after).contains k = true)
    {k : κ} {record : α} (h : rely.Seen (fun seen => (table seen).find? k = some record) store) :
    (table store).contains (key record) = true := by
  obtain ⟨seen, hseen, hfound⟩ := h
  refine hkept hseen (Option.isSome_iff_exists.2 ⟨record, ?_⟩)
  rwa [Table.key_of_find? hfound]

section Rely

variable (hrely : ∀ before after, rely.May before after → before.Updated after)

include hrely

theorem contains_user {id : UserId} {user : User}
    (h : rely.Seen (fun seen => seen.users.find? id = some user) store) :
    store.users.contains user.id = true :=
  contains_of_seen Store.users (fun hmay => (hrely _ _ hmay).users.contains) h

theorem contains_plan {id : PlanId} {plan : Plan}
    (h : rely.Seen (fun seen => seen.plans.find? id = some plan) store) :
    store.plans.contains plan.id = true :=
  contains_of_seen Store.plans (fun hmay => (hrely _ _ hmay).plans.contains) h

theorem contains_payment {id : PaymentId} {payment : PaymentMethod}
    (h : rely.Seen (fun seen => seen.payments.find? id = some payment) store) :
    store.payments.contains payment.id = true :=
  contains_of_seen Store.payments (fun hmay _ hk => (hrely _ _ hmay).payments ▸ hk) h

/-- **What was prepared refers to records of the store.** -/
theorem Prepared.refersTo (h : Prepared rely config stamp session store request f) :
    f.order.RefersTo store := by
  cases h with
  | purchase read =>
    exact {
      payment := contains_payment hrely read.payment
      plan := by rintro id ⟨⟩; exact contains_plan hrely read.plan
      user := fun _ => contains_user hrely read.user }
  | renewal read =>
    exact {
      payment := contains_payment hrely read.payment
      plan := by rintro id ⟨⟩; exact contains_plan hrely read.plan
      user := fun _ => contains_user hrely read.user }
  | recharge _ _ paid =>
    exact {
      payment := contains_payment hrely paid
      plan := nofun
      user := fun hkind => absurd rfl hkind }

end Rely

theorem Prepared.refersTo_of_still (h : Prepared .still config stamp session store request f) :
    f.order.RefersTo store := by
  refine h.refersTo fun before after hsame => ?_
  obtain rfl : before = after := hsame
  exact .refl before

/-- A request that is carried out was prepared from the store that it came to. Its order was placed in
the store as others left it. -/
theorem placed_of_run_submit {world after : World} {orderNo : OrderNo}
    (h : (submit config stamp session request).run world = (.ok orderNo, after)) :
    ∃ f settled, Prepared .still config stamp session world.store request f ∧
      f.order.orderNo = orderNo ∧ world.store.Updated settled ∧
      f.order.Placed settled after.store := by
  obtain ⟨f, settled, last, hprepared, hraces, hcommit, -, hends⟩ | ⟨error, last, -, -, hends⟩ |
    ⟨overflow, last, -, -, hends⟩ := run_submit config stamp session request world
  all_goals rw [hends, Prod.mk.injEq] at h
  · obtain ⟨hno, rfl⟩ := h
    have hsettled := (World.later_of_commitRaces hraces).updated
    exact ⟨f, settled, hprepared, Except.ok.inj hno, hsettled,
      Fulfillment.placed_of_commit (hprepared.sound_of_still.later hsettled) hcommit⟩
  · cases h.1
  · cases h.1

/-! ### Sessions of users that are not stored -/

theorem run_findUser_of_unknown {world : World} {id : UserId}
    (hunknown : world.store.users.contains id = false) (hup : world.isDown .findUser = false) :
    (findUser id).run world = (.error (.refused (.unknownUser id)), world) := by
  have hnone : world.store.users.find? id = none := by
    simpa [Table.contains] using hunknown
  have hanswer : world.answer (.findUser id) = (.ok (.ok none), world) := by
    change world.answerAlone (.findUser id) = _
    rw [World.answerAlone_of_up hup, World.serve, hnone]
  have hcall : (Program.perform (.findUser id)).run world = (.ok (.ok none), world) := by
    simp only [Program.perform, Program.run, hanswer]
  exact (Program.run_bind hcall _).trans rfl

/-- A user who is not stored is refused, once the quantity was looked at. -/
theorem run_submit_of_unknown {world : World} {id : UserId} {request : Request}
    (hunknown : world.store.users.contains id = false) (hkind : request.kind ≠ .recharge)
    (hquantity : request.wanted ≤ 0 ∨ request.wanted ≤ config.maxQuantity)
    (hup : world.isDown .findUser = false) :
    (submit config stamp (some id) request).run world =
      (.error (.refused (.unknownUser id)), world) := by
  have hfind := run_findUser_of_unknown hunknown hup
  obtain ⟨quantity, hallowed⟩ : ∃ quantity,
      Eligibility.quantity config request.wanted = .ok quantity := by
    unfold Eligibility.quantity
    split
    · exact ⟨1, rfl⟩
    · rename_i hpositive
      exact ⟨request.wanted, if_neg (Int.not_lt.2 (hquantity.resolve_left hpositive))⟩
  have hprepare : (prepare config stamp (some id) request).run world =
      (.error (.refused (.unknownUser id)), world) := by
    cases request with
    | purchase request =>
      rw [prepare, purchase, show Eligibility.quantity config request.quantity = _ from hallowed]
      exact Program.run_bind_of_error hfind _
    | renewal request =>
      rw [prepare, renewal, show Eligibility.quantity config request.quantity = _ from hallowed]
      exact Program.run_bind_of_error hfind _
    | recharge request => exact absurd rfl hkind
  exact Program.run_bind_of_error hprepare _

end Submission

/-! ### The laws -/

/-- A submission is that of a user in a table, or of nobody. -/
abbrev Job.SignsIn (users : Table User.id) : Job → Prop :=
  Submits fun _ _ session _ => session.all users.contains

/-- A client who comes and is signed in is a user in a table. -/
abbrev Event.SignsIn (users : Table User.id) : Event → Prop := Brings (Job.SignsIn users)

/-- Whatever clients ask for, their orders refer to records of the store. -/
theorem Event.placesIn_refersTo (event : Event) :
    event.PlacesIn fun store order => order.RefersTo store := by
  refine event.brings_of_forall (Job.submits_of_forall ?_)
  intro config stamp session request store f hprepared later hlater
  exact (hprepared.refersTo fun _ _ => id).updated hlater

theorem Event.SignsIn.places {users : Table User.id} {event : Event} (h : event.SignsIn users) :
    event.Places fun order => users.contains order.userId := by
  refine h.mono fun job => Job.Submits.mono ?_
  intro config stamp session request hsession store f hprepared
  rwa [hprepared.session_eq] at hsession

/-- **What an order refers to is stored.** In every world, whatever fails and whoever commits in
between, a request that is carried out leaves an order of the user who is signed in, of which
payment method, plan and, unless it is a recharge, user are stored. At a desk that opens in the
world, in whatever order the calls are answered, this is so of all orders if it is of those that
were there at the start; and if all who sign in are stored users, then all orders are those of
stored users.

A user who is not stored can neither buy nor renew. Where the users can be looked up, such a
request is refused for want of access, if its quantity is one that can be asked for, and changes
nothing. -/
theorem orders_refer_to_records (world : World) :
    (∀ config stamp session request,
      match (submit config stamp session request).run world with
      | (.ok orderNo, after) => ∃ order, after.store.orders.find? orderNo = some order ∧
        order.kind = request.kind ∧ session = some order.userId ∧ order.RefersTo after.store
      | (.error _, _) => True) ∧
    (∀ events : List Event,
      (world.store.Refers → ((Desk.opened world).run events).world.store.Refers) ∧
      (world.store.KnowsUsers → (∀ event ∈ events, event.SignsIn world.store.users) →
        ((Desk.opened world).run events).world.store.KnowsUsers)) ∧
    ∀ config stamp id (request : Request),
      world.store.users.contains id = false → request.kind ≠ .recharge →
      (∀ orderNo after,
        (submit config stamp (some id) request).run world ≠ (.ok orderNo, after)) ∧
      (world.isDown .findUser = false →
        request.wanted ≤ 0 ∨ request.wanted ≤ config.maxQuantity →
        (OrderError.unknownUser id).kind = .invalidAccess ∧
        (submit config stamp (some id) request).run world =
          (.error (.refused (.unknownUser id)), world)) := by
  refine ⟨?_, fun events => ⟨fun hseed => ?_, fun hseed hevents => ?_⟩, ?_⟩
  · intro config stamp session request
    split
    · rename_i orderNo after hdone
      obtain ⟨f, settled, hprepared, hno, hsettled, hplaced⟩ :=
        Submission.placed_of_run_submit hdone
      have hrefers := hprepared.refersTo_of_still.updated hsettled
      exact ⟨f.order, hno ▸ hplaced.found_after, hprepared.kind_eq, hprepared.session_eq,
        hrefers.of_placed hplaced⟩
    · trivial
  · exact Desk.run_preserves_placingIn (fun before after h hlater => h.of_change hlater)
      (Desk.opened_tradesIn world) hseed events fun event _ => event.placesIn_refersTo
  · -- The users that were there at the start are there all the time.
    let Q (store : Store) : Prop := store.KnowsUsers ∧ world.store.Later store
    have hrun : Q ((Desk.opened world).run events).world.store := by
      refine Desk.run_preserves_placing (fun before after h hlater hchange => ?_)
        (Desk.opened_trades world) ⟨hseed, .refl _⟩ events
        fun event hmem => (hevents event hmem).places
      refine ⟨h.1.of_change hlater (hchange.mono fun order horder => ?_), h.2.trans hlater⟩
      exact h.2.users.contains horder
    exact hrun.1
  · intro config stamp id request hunknown hkind
    refine ⟨fun orderNo after hdone => ?_, fun hup hquantity => ⟨rfl, ?_⟩⟩
    · obtain ⟨f, settled, hprepared, -⟩ := Submission.placed_of_run_submit hdone
      have hstored := hprepared.refersTo_of_still.user (hprepared.kind_eq ▸ hkind)
      rw [← Option.some.inj hprepared.session_eq, hunknown] at hstored
      cases hstored
    · exact Submission.run_submit_of_unknown hunknown hkind hquantity hup

/-- In a rush for the last unit all orders are those of the one user who is stored. Another one
cannot buy. -/
theorem orders_refer_to_records_of_rush :
    ((Desk.opened Desk.lastUnit).run Desk.rush).world.store.Refers ∧
      ((Desk.opened Desk.lastUnit).run Desk.rush).world.store.KnowsUsers ∧
      (submit .standard ⟨"first", ⟨0, 0⟩⟩ (some 99) (.purchase ⟨7, 1, none, 3⟩)).run Desk.lastUnit =
        (.error (.refused (.unknownUser 99)), Desk.lastUnit) := by
  have hlaws := orders_refer_to_records Desk.lastUnit
  have hrush := hlaws.2.1 Desk.rush
  refine ⟨hrush.1 ?_, hrush.2 ?_ (by decide), ?_⟩
  · intro orderNo order hfound
    cases hfound
  · intro orderNo order hfound
    cases hfound
  · exact ((hlaws.2.2 .standard ⟨"first", ⟨0, 0⟩⟩ 99 (.purchase ⟨7, 1, none, 3⟩) rfl
      (by decide)).2 rfl (by decide)).2

/-! ### A recharge for nobody -/

/-- A payment method, and one user. -/
def World.withCard : World :=
  .calm
    { Store.empty with
      payments := .ofList [⟨3, "card", .none⟩]
      users := .ofList [⟨1, 0⟩] }
    .empty ⟨0, 0⟩

/-- User 99, who is not stored, is signed in and recharges. -/
def Submission.rechargeByStranger : Program OrderNo :=
  submit .standard ⟨"first", ⟨0, 0⟩⟩ (some 99) (.recharge ⟨300, 3⟩)

/-- **A recharge is carried out for a user who is not stored.** It leaves an order of that user. -/
theorem Submission.recharge_of_unknown_user :
    World.withCard.store.users.contains 99 = false ∧
      (rechargeByStranger.run World.withCard).1 = .ok "first" ∧
      ((rechargeByStranger.run World.withCard).2.store.orders.find? "first").map Order.userId =
        some 99 ∧
      (rechargeByStranger.run World.withCard).2.store.users.contains 99 = false := by
  refine ⟨?_, ?_, ?_, ?_⟩
  · decide
  · rfl
  · decide +kernel
  · decide +kernel

end OrderDesk
