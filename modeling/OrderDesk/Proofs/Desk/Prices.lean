import OrderDesk.Proofs.Desk.Clients
import OrderDesk.Proofs.Order.Pricing
import OrderDesk.Proofs.Submission.AllOrNothing

/-!
# Every order is priced within bounds

A request that is carried out leaves an order that was priced within bounds from the plan and
the gift balance that it read. At a desk where all requests are under one configuration, every
order that is stored reconciles and keeps the limit for orders, whatever the clients do and
in whatever order their calls are answered: an order comes in at a price within bounds, and
afterwards only its status changes (`Store.AllWithin.of_change`).
-/

namespace OrderDesk

/-! ### Requests under one configuration -/

/-- If the job is a submission, then it is one under the configuration. -/
abbrev Job.IsUnder (config : Config) : Job → Prop := Submits fun config' _ _ _ => config' = config

/-- A client who comes has a job under the configuration. -/
abbrev Event.IsUnder (config : Config) : Event → Prop := Brings (Job.IsUnder config)

theorem Event.IsUnder.places {config : Config} (hconfig : 1 ≤ config.maxQuantity) {event : Event}
    (h : event.IsUnder config) : event.Places fun order => order.IsWithin config := by
  refine h.mono fun job => Job.Submits.mono ?_
  rintro _ stamp session request rfl store f hprepared
  exact hprepared.isWithin hconfig

/-! ### The invariant -/

/-- Every order has its sums right, and one that was not there at the start was priced within
bounds. -/
def Store.AllWithin (config : Config) (seed store : Store) : Prop :=
  ∀ orderNo order, store.orders.find? orderNo = some order →
    order.Sums config ∧ (seed.orders.find? orderNo = none → order.IsWithin config)

namespace Store.AllWithin

variable {config : Config} {seed before after : Store}

/-- An order that moves on keeps its price. -/
theorem withStatus {order : Order} (h : AllWithin config seed before)
    (hfound : before.orders.find? order.orderNo = some order) (status : OrderStatus)
    (horders : after.orders = before.orders.put (order.withStatus status)) :
    AllWithin config seed after := by
  intro orderNo found hafter
  rw [horders] at hafter
  obtain ⟨hno, rfl⟩ | ⟨-, hold⟩ := Table.found_of_put hafter
  · obtain ⟨hsums, hwithin⟩ := h order.orderNo order hfound
    refine ⟨hsums.withStatus status, fun hnew => (hwithin ?_).withStatus status⟩
    exact hno ▸ hnew
  · exact h orderNo found hold

/-- **Every change of the store keeps the orders within bounds**, when the orders that are placed
are. -/
theorem of_change (h : AllWithin config seed before)
    (hchange : before.Change (fun order => order.IsWithin config) after) :
    AllWithin config seed after := by
  cases hchange with
  | placed order hwithin hplaced =>
    intro orderNo found hafter
    rw [hplaced.orders] at hafter
    obtain ⟨-, rfl⟩ | ⟨-, hold⟩ := Table.found_of_put hafter
    · exact ⟨hwithin.sums, fun _ => hwithin⟩
    · exact h orderNo found hold
  | closed order hclosed => exact h.withStatus hclosed.found .cancelled hclosed.orders
  | paid order hpaid => exact h.withStatus hpaid.found .paid (hpaid.store ▸ rfl)

end Store.AllWithin

/-! ### The law -/

/-- **Every order is priced within bounds.** In every world, whatever fails and whoever commits in
between, a request that is carried out leaves an order that was priced within bounds from the
plan and the gift balance in the store that it read. And at every desk, in whatever order the
calls are answered, all orders reconcile and keep the limit for orders if those do that were
there at the start, and all others were priced within bounds. -/
theorem orders_within_bounds (config : Config) (hconfig : 1 ≤ config.maxQuantity) :
    (∀ stamp session request world,
      match (submit config stamp session request).run world with
      | (.ok orderNo, after) => ∃ order, after.store.orders.find? orderNo = some order ∧
        Submission.PricedFrom config world.store order request
      | (.error _, _) => True) ∧
    ∀ (world : World) (events : List Event),
      (∀ orderNo order, world.store.orders.find? orderNo = some order → order.Sums config) →
      (∀ event ∈ events, event.IsUnder config) →
      world.store.AllWithin config ((Desk.opened world).run events).world.store := by
  constructor
  · intro stamp session request world
    obtain ⟨f, settled, after, hprepared, hraces, hcommit, -, hends⟩ | ⟨error, after, -, -, hends⟩ |
      ⟨overflow, after, -, -, hends⟩ := Submission.run_submit config stamp session request world
    · have hlater : world.store.Later settled := World.later_of_commitRaces hraces
      have hplaced : f.order.Placed settled after.store :=
        Fulfillment.placed_of_commit (hprepared.sound_of_still.later hlater.updated) hcommit
      simp only [hends]
      exact ⟨f.order, hplaced.found_after, hprepared.pricedFrom hconfig⟩
    · simp only [hends]
    · simp only [hends]
  · intro world events hseed hevents
    have hstart : world.store.AllWithin config world.store := by
      intro orderNo order hfound
      refine ⟨hseed orderNo order hfound, ?_⟩
      intro hnew
      rw [hnew] at hfound
      cases hfound
    exact Desk.run_preserves_placing (fun before after h _ hchange => h.of_change hchange)
      (Desk.opened_trades world) hstart events fun event hmem => (hevents event hmem).places hconfig

/-- In a rush for the last unit, both orders cost 300, of which the coupon takes off 10 and the gift
balance pays the rest. -/
theorem orders_within_bounds_of_rush :
    Desk.lastUnit.store.AllWithin .standard
        ((Desk.opened Desk.lastUnit).run Desk.rush).world.store ∧
      ((Desk.opened Desk.lastUnit).run Desk.rush).world.store.orders.rows.map
          (fun order => (order.orderNo, order.runningAmounts)) =
        [("first", [300, 290, 0, 0]), ("third", [300, 290, 0, 0])] := by
  constructor
  · refine (orders_within_bounds .standard (by decide)).2 Desk.lastUnit Desk.rush ?_ (by decide)
    intro orderNo order hfound
    cases hfound
  · decide +kernel

end OrderDesk
