import OrderDesk.Proofs.Desk.CouponLimits

/-!
# New customers

The order for a purchase or a recharge tells whether its user was new: whether no order of the user,
of whatever kind, was paid when the order was made. This is stored nowhere else. It is looked up for
every request in all orders, so it rests on two things that it never comes back once it is gone:
orders stay in the store, and one that is paid stays paid, whatever is closed or worked off later.

A run is told by what it makes: the orders in the order in which they are made, each with the store
in which it is made (`World.makings`). Any pattern of calls that are not answered is allowed for each
job.

* `World.makings_told`: the orders that are stored at the end are those that were made, the flag of
  each tells what was paid in the store of its making, and what is paid there is paid in the stores
  of all later makings.
* `newcomers_by_payments`: what this says of the flags.
-/

namespace OrderDesk

/-! ### Orders that are made -/

/-- The order as it was when it was placed. -/
def Order.asPlaced (order : Order) : Order := order.withStatus .pending

/-- The orders that are in a store and were not in an earlier one. -/
def Store.newOrders (before after : Store) : List Order :=
  after.orders.rows.filter fun order => !before.orders.contains order.orderNo

/-- An order, and the store in which it was made. -/
structure Making where
  store : Store
  order : Order

/-- The orders that some jobs make, the first one first, each with the store before its job. -/
def World.makings (world : World) : List (Turn × List Bool) → List Making
  | [] => []
  | (turn, faults) :: rest =>
    let after := world.takeAmid turn faults
    (world.store.newOrders after.store).map (⟨world.store, ·⟩) ++ after.makings rest

/-! ### What is paid stays paid -/

/-- Every order that is paid is still there, as it was. -/
def Store.KeepsPaid (before after : Store) : Prop :=
  ∀ orderNo order, before.orders.find? orderNo = some order → order.status = .paid →
    after.orders.find? orderNo = some order

namespace Store

variable {before after : Store} {order : Order}

theorem KeepsPaid.refl (store : Store) : store.KeepsPaid store := fun _ _ hfound _ => hfound

theorem KeepsPaid.trans {a b c : Store} (h : a.KeepsPaid b) (h' : b.KeepsPaid c) :
    a.KeepsPaid c :=
  fun orderNo order hfound hpaid => h' orderNo order (h orderNo order hfound hpaid) hpaid

/-- A user who has paid an order has one that is stored and paid. -/
theorem hasPaidOrders_iff {store : Store} {user : UserId} :
    store.hasPaidOrders user = true ↔
      ∃ order ∈ store.orders.rows, order.userId = user ∧ order.status = .paid := by
  simp [hasPaidOrders]

theorem KeepsPaid.hasPaidOrders (h : before.KeepsPaid after) {user : UserId}
    (hpaid : before.hasPaidOrders user = true) : after.hasPaidOrders user = true := by
  obtain ⟨order, hmem, huser, hstatus⟩ := hasPaidOrders_iff.1 hpaid
  have hkept := h order.orderNo order (Table.find?_of_mem hmem) hstatus
  exact hasPaidOrders_iff.2 ⟨order, Table.mem_of_find? hkept, huser, hstatus⟩

end Store

/-! ### Placing an order -/

namespace Order.Placed

variable {order : Order} {before after : Store}

theorem rows (h : order.Placed before after) :
    after.orders.rows = before.orders.rows ++ [order] := by
  rw [h.orders]
  exact Table.rows_put_of_absent h.absent

theorem keepsPaid (h : order.Placed before after) : before.KeepsPaid after := by
  intro orderNo found hfound _
  have hne : order.orderNo ≠ orderNo := by
    rintro rfl
    simp [h.absent] at hfound
  rw [h.orders, Table.find?_put_of_ne _ hne, hfound]

/-- The order that is placed is the one new order. -/
theorem newOrders (h : order.Placed before after) : before.newOrders after = [order] := by
  have hold : ∀ other ∈ before.orders.rows, before.orders.contains other.orderNo = true := by
    intro other hmem
    exact Table.contains_iff.2 (List.mem_map_of_mem hmem)
  have habsent : before.orders.contains order.orderNo = false := by
    simp [Table.contains, h.absent]
  simp only [Store.newOrders, h.rows, List.filter_append, List.append_eq_singleton_iff]
  left
  constructor
  · simpa using hold
  · simp [habsent]

theorem asPlaced (h : order.Placed before after) : order.asPlaced = order := by
  simp [Order.asPlaced, Order.withStatus, ← h.pending]

end Order.Placed

/-! ### Closing and paying -/

/-- The orders are those of before, some of which may have moved on, and what was paid still is. -/
structure Store.MovesOn (before after : Store) : Prop where
  rows : after.orders.rows.map Order.asPlaced = before.orders.rows.map Order.asPlaced
  paid : before.KeepsPaid after

namespace Store.MovesOn

variable {before after : Store} {order : Order}

theorem refl (store : Store) : store.MovesOn store := ⟨rfl, .refl store⟩

theorem trans {a b c : Store} (h : a.MovesOn b) (h' : b.MovesOn c) : a.MovesOn c :=
  ⟨h'.rows.trans h.rows, h.paid.trans h'.paid⟩

/-- A pending order is given another status. -/
theorem of_withStatus (hfound : before.orders.find? order.orderNo = some order)
    (hpending : order.status = .pending) {status : OrderStatus}
    (horders : after.orders = before.orders.put (order.withStatus status)) :
    before.MovesOn after := by
  have hcontains : before.orders.contains (order.withStatus status).orderNo = true :=
    Option.isSome_iff_exists.2 ⟨order, hfound⟩
  constructor
  · rw [horders, Table.rows_put_of_contains hcontains, Table.replaceRows, List.map_map]
    refine List.map_congr_left fun other hmem => ?_
    by_cases hno : other.orderNo = order.orderNo
    · obtain rfl := Table.eq_of_find? hfound hmem hno
      simp [Order.asPlaced, Order.withStatus]
    · simp [Order.withStatus, hno]
  · intro orderNo found hold hpaid
    have hne : (order.withStatus status).orderNo ≠ orderNo := by
      rintro rfl
      obtain rfl := Option.some.inj (hfound.symm.trans hold)
      simp [hpending] at hpaid
    rw [horders, Table.find?_put_of_ne _ hne, hold]

theorem of_change (h : before.Change (fun _ => False) after) : before.MovesOn after := by
  cases h with
  | placed order hnone => exact hnone.elim
  | closed order hclosed => exact of_withStatus hclosed.found hclosed.pending hclosed.orders
  | paid order hpaid =>
    exact of_withStatus hpaid.found hpaid.pending (congrArg Store.orders hpaid.store)

theorem of_moves (h : Relation.ReflTransGen (Store.Change fun _ => False) before after) :
    before.MovesOn after := by
  induction h with
  | refl => exact .refl before
  | tail _ hchange ih => exact ih.trans (of_change hchange)

/-- No order is new. -/
theorem newOrders (h : before.MovesOn after) : before.newOrders after = [] := by
  have hkeys : after.orders.rows.map Order.orderNo = before.orders.rows.map Order.orderNo := by
    simpa [Function.comp_def, Order.asPlaced, Order.withStatus] using
      congrArg (List.map Order.orderNo) h.rows
  simp only [Store.newOrders, List.filter_eq_nil_iff, Bool.not_eq_true', Bool.not_eq_false]
  intro order hmem
  rw [Table.contains_iff, ← hkeys]
  exact List.mem_map_of_mem hmem

end Store.MovesOn

/-! ### The flag -/

/-- The flag of an order tells what was paid in a store. No renewal is flagged. -/
def Order.IsToldBy (order : Order) (store : Store) : Prop :=
  order.isNew = (order.kind != .renewal && !store.hasPaidOrders order.userId)

/-- The order that is prepared for a request tells what is paid in the store that was read. -/
theorem Submission.Prepared.isToldBy {config : Config} {stamp : Stamp} {session : Option UserId}
    {store : Store} {request : Request} {f : Fulfillment}
    (h : Prepared .still config stamp session store request f) : f.order.IsToldBy store := by
  cases h with
  | purchase read plan stock held quota single customer => exact customer.now
  | renewal read held owner plan => rfl
  | recharge signedIn limits paid price customer => exact customer.now

/-- **What a run makes.** The orders that are stored at its end are those of the start and those that
were made, in this order. The flag of each tells what was paid in the store of its making, and what
was paid there is paid at every later making. -/
theorem World.makings_told {world : World} (hraces : world.races = [])
    (turns : List (Turn × List Bool)) :
    ((world.dayAmid turns).store.orders.rows.map Order.asPlaced =
      world.store.orders.rows.map Order.asPlaced ++ (world.makings turns).map Making.order) ∧
    (∀ making ∈ world.makings turns,
      world.store.KeepsPaid making.store ∧ making.order.IsToldBy making.store) ∧
    (world.makings turns).Pairwise fun earlier later => earlier.store.KeepsPaid later.store := by
  induction turns generalizing world with
  | nil => simp [dayAmid, makings]
  | cons turn rest ih =>
    obtain ⟨turn, faults⟩ := turn
    obtain ⟨hkept, hends⟩ := takeAmid_cases hraces turn faults
    obtain ⟨hrows, htold, hpairs⟩ := ih hkept
    have hday : world.dayAmid ((turn, faults) :: rest) = (world.takeAmid turn faults).dayAmid rest :=
      rfl
    rw [makings, hday, hrows]
    rcases hends with ⟨_, _, _, _, f, hprepared, hplaced⟩ | hmoves
    · simp only [hplaced.newOrders, hplaced.rows, List.map_cons, List.map_nil, List.map_append,
        List.singleton_append, List.forall_mem_cons, List.pairwise_cons, hplaced.asPlaced]
      refine ⟨by simp, ⟨⟨.refl _, hprepared.isToldBy⟩, ?_⟩, ?_, hpairs⟩
      · intro making hmem
        exact ⟨hplaced.keepsPaid.trans (htold making hmem).1, (htold making hmem).2⟩
      · intro later hmem
        exact hplaced.keepsPaid.trans (htold later hmem).1
    · have hon : world.store.MovesOn (world.takeAmid turn faults).store := .of_moves hmoves
      simp only [hon.newOrders, hon.rows, List.map_nil, List.nil_append]
      refine ⟨trivial, ?_, hpairs⟩
      intro making hmem
      exact ⟨hon.paid.trans (htold making hmem).1, (htold making hmem).2⟩

/-- **The flag follows the payments and never comes back.** Jobs are done one after the other from a
store without orders, whichever of their calls are not answered. Then the orders that are stored at
the end are those that were made, and only their status may have changed since. No renewal is
flagged; a purchase and a recharge are flagged just when no order of their user, of whatever kind,
was paid at the time. So of two purchases or recharges of one user, the later one is flagged only if
the earlier one is. -/
theorem newcomers_by_payments {store : Store} (horders : store.orders = .empty) (queue : Queue)
    (now : Instant) (turns : List (Turn × List Bool)) :
    let world := World.calm store queue now
    let made := world.makings turns
    (world.dayAmid turns).store.orders.rows.map Order.asPlaced = made.map Making.order ∧
    (∀ making ∈ made, making.order.kind = .renewal → making.order.isNew = false) ∧
    (∀ making ∈ made, making.order.kind ≠ .renewal →
      (making.order.isNew = true ↔ ∀ other ∈ making.store.orders.rows,
        other.userId = making.order.userId → other.status ≠ .paid)) ∧
    ∀ user, ((made.map Making.order).filter fun order =>
        order.userId = user ∧ order.kind ≠ .renewal).Pairwise
      fun earlier later => later.isNew = true → earlier.isNew = true := by
  intro world made
  obtain ⟨hrows, htold, hpairs⟩ := World.makings_told (show world.races = [] from rfl) turns
  have hflag : ∀ making ∈ made, making.order.kind ≠ .renewal →
      (making.order.isNew = true ↔ making.store.hasPaidOrders making.order.userId = false) := by
    intro making hmem hkind
    rw [(htold making hmem).2]
    simp [hkind]
  refine ⟨?_, ?_, ?_, ?_⟩
  · rw [hrows]
    simp [world, World.calm, horders, Table.empty, made]
  · intro making hmem hkind
    rw [(htold making hmem).2, hkind]
    rfl
  · intro making hmem hkind
    rw [hflag making hmem hkind, Bool.eq_false_iff, ne_eq, Store.hasPaidOrders_iff]
    simp
  · intro user
    rw [List.pairwise_filter, List.pairwise_map]
    refine hpairs.imp_of_mem fun {earlier later} hearlier hlater hkeeps hfirst hsecond hnew => ?_
    simp only [decide_eq_true_eq] at hfirst hsecond
    have hunpaid := (hflag later hlater hsecond.2).1 hnew
    -- What was paid when the first of the two was made would still be paid for the second.
    rw [hflag earlier hearlier hfirst.2, ← Bool.not_eq_true, hfirst.1]
    intro hpaid
    rw [hsecond.1, hkeeps.hasPaidOrders hpaid] at hunpaid
    cases hunpaid

/-! ### One run -/

/-- A plan, a subscription to it and two users. -/
def Store.twoCustomers : Store :=
  { Store.empty with
    plans := .ofList [⟨7, "basic", 300, .empty, -1, 0, true⟩]
    payments := .ofList [⟨3, "card", .none⟩]
    users := .ofList [⟨1, 0⟩, ⟨2, 0⟩]
    subscriptions := .ofList [⟨5, 1, 7, none, "token", .active, none⟩] }

/-- The first user buys, renews and recharges, and pays for the renewal. The purchase is not paid in
time and closed. Then both users buy. -/
def Turn.renewalPaid : List (Turn × List Bool) :=
  let submit (second : Int) (orderNo : OrderNo) (user : UserId) (request : Request) : Turn :=
    ⟨⟨second, 0⟩, .submit .standard ⟨orderNo, ⟨second, 0⟩⟩ (some user) request⟩
  [(submit 0 "first" 1 (.purchase ⟨7, 1, none, 3⟩), []),
    (submit 100 "renewal" 1 (.renewal ⟨5, 1, none, 3⟩), []),
    (⟨⟨100, 0⟩, .pay "renewal"⟩, []),
    (submit 100 "second" 1 (.recharge ⟨300, 3⟩), []),
    (⟨⟨900, 0⟩, .work ⟨900, 0⟩ ⟨900, 0⟩⟩, []),
    (submit 900 "third" 1 (.purchase ⟨7, 1, none, 3⟩), []),
    (submit 900 "other" 2 (.purchase ⟨7, 1, none, 3⟩), [])]

/-- Once the renewal is paid, only the other user is new. -/
theorem newcomers_by_payments_of_renewal :
    let made := (World.calm Store.twoCustomers .empty ⟨0, 0⟩).makings Turn.renewalPaid
    (((made.map Making.order).filter fun order =>
        order.userId = 1 ∧ order.kind ≠ .renewal).Pairwise
      fun earlier later => later.isNew = true → earlier.isNew = true) ∧
    made.map (fun making => (making.order.orderNo, making.order.isNew)) =
      [("first", true), ("renewal", false), ("second", false), ("third", false), ("other", true)] := by
  constructor
  · exact (newcomers_by_payments rfl Queue.empty ⟨0, 0⟩ Turn.renewalPaid).2.2.2 1
  · decide +kernel

end OrderDesk
