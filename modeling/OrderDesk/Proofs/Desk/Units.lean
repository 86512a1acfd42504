import OrderDesk.Proofs.Desk.Conservation

/-!
# Whether a close gives back what its order took

A purchase takes a unit of its plan when the plan that was read counts its units; closing the
order gives a unit back when the plan that is stored by then counts them. The order does not
tell which it was. Between the two a plan may have been put in anew, with any number of units.

As long as no plan without end is given an end, a close gives back only what its own order took
(`Desk.returned_of_taken`): an order holds a unit of a counted plan only if it took it, and
what was given back of a plan is never more than what was taken. A plan that is given an end is
paid back units that nobody took (`Desk.returned_of_nothing`).

## The accounts

`Step` is a store before and after something has happened. `Store.Accounted` is the invariant
of a run: what has been taken of a plan that counts its units and not been given back is what the
standing orders hold of it.
-/

namespace OrderDesk

/-! ### Steps -/

/-- A store before and after something has happened at the desk. -/
structure Step where
  before : Store
  after : Store

/-- The units left of a plan; none of a plan that is not there. -/
def Store.unitsLeft (store : Store) (id : PlanId) : Amount :=
  ((store.plans.find? id).map Plan.inventory).getD 0

namespace Step

/-- An order is placed under a number. -/
def places (step : Step) (orderNo : OrderNo) : Bool :=
  !step.before.orders.contains orderNo && step.after.orders.contains orderNo

/-- A pending order is cancelled. -/
def closes (step : Step) (orderNo : OrderNo) : Bool :=
  (step.before.orders.find? orderNo).any (·.status == .pending) &&
    (step.after.orders.find? orderNo).any (·.status == .cancelled)

/-- Some order is placed. -/
def isPlacing (step : Step) : Bool :=
  step.after.orders.rows.any fun order => step.places order.orderNo

/-- Some order is closed. -/
def isClosing (step : Step) : Bool :=
  step.before.orders.rows.any fun order => step.closes order.orderNo

/-- By how much the units of a plan go down. -/
def lowers (step : Step) (id : PlanId) : Amount := step.before.unitsLeft id - step.after.unitsLeft id

/-- No plan without end is given an end. -/
def KeepsEndless (step : Step) : Prop :=
  ∀ plan ∈ step.before.plans.rows, plan.inventory < 0 →
    ∀ later ∈ step.after.plans.find? plan.id, later.inventory < 0

instance (step : Step) : Decidable step.KeepsEndless :=
  inferInstanceAs (Decidable (∀ plan ∈ _, _ → ∀ later ∈ _, _))

/-- The units of a plan that the orders placed in some steps took. -/
def taken (steps : List Step) (id : PlanId) : Amount :=
  ((steps.filter isPlacing).map fun step => step.lowers id).sum

/-- The units of a plan that the orders closed in some steps gave back. -/
def returned (steps : List Step) (id : PlanId) : Amount :=
  ((steps.filter isClosing).map fun step => -step.lowers id).sum

end Step

/-! ### Runs with plans that are put in -/

namespace Desk

/-- Something that happens at the desk, or a plan that is put in, be it there or not. -/
inductive Move
  | event (event : Event)
  | putPlan (plan : Plan)

/-- The desk after a move. -/
def afterMove (desk : Desk) : Move → Desk
  | .event event => desk.after event
  | .putPlan plan => { desk with world.store.plans := desk.world.store.plans.put plan }

/-- The steps that some moves make, one by one. -/
def steps (desk : Desk) : List Move → List Step
  | [] => []
  | move :: rest =>
    ⟨desk.world.store, (desk.afterMove move).world.store⟩ :: (desk.afterMove move).steps rest

end Desk

/-! ### What a step can be -/

/-- A step changes nothing, places, closes or pays an order, or puts a plan in. -/
inductive Step.Tells (step : Step) : Prop
  | same (h : step.after = step.before)
  | changed (later : step.before.Later step.after)
    (h : step.before.Change (fun _ => True) step.after)
  | updated (plan : Plan)
    (h : step.after = { step.before with plans := step.before.plans.put plan })

namespace Step

variable {step : Step} {order : Order} {orderNo : OrderNo}

/-! ### Which orders a step places and closes -/

theorem places_iff : step.places orderNo = true ↔
    step.before.orders.find? orderNo = none ∧
      ∃ order, step.after.orders.find? orderNo = some order := by
  simp [places, Table.contains, Option.isSome_iff_exists]

theorem closes_iff : step.closes orderNo = true ↔
    (∃ order, step.before.orders.find? orderNo = some order ∧ order.status = .pending) ∧
      ∃ order, step.after.orders.find? orderNo = some order ∧ order.status = .cancelled := by
  simp [closes, Option.any_eq_true]

theorem isPlacing_iff : step.isPlacing = true ↔ ∃ orderNo, step.places orderNo = true := by
  unfold isPlacing
  rw [List.any_eq_true]
  constructor
  · rintro ⟨order, -, hplaces⟩
    exact ⟨order.orderNo, hplaces⟩
  · rintro ⟨orderNo, hplaces⟩
    obtain ⟨-, order, hfound⟩ := places_iff.1 hplaces
    refine ⟨order, Table.mem_of_find? hfound, ?_⟩
    rwa [Table.key_of_find? hfound]

theorem isClosing_iff : step.isClosing = true ↔ ∃ orderNo, step.closes orderNo = true := by
  unfold isClosing
  rw [List.any_eq_true]
  constructor
  · rintro ⟨order, -, hcloses⟩
    exact ⟨order.orderNo, hcloses⟩
  · rintro ⟨orderNo, hcloses⟩
    obtain ⟨⟨order, hfound, -⟩, -⟩ := closes_iff.1 hcloses
    refine ⟨order, Table.mem_of_find? hfound, ?_⟩
    rwa [Table.key_of_find? hfound]

theorem isPlacing_eq_false (h : ∀ orderNo, step.places orderNo ≠ true) :
    step.isPlacing = false := by
  apply Bool.eq_false_iff.2
  intro hplacing
  obtain ⟨orderNo, hplaces⟩ := isPlacing_iff.1 hplacing
  exact h orderNo hplaces

theorem isClosing_eq_false (h : ∀ orderNo, step.closes orderNo ≠ true) :
    step.isClosing = false := by
  apply Bool.eq_false_iff.2
  intro hclosing
  obtain ⟨orderNo, hcloses⟩ := isClosing_iff.1 hclosing
  exact h orderNo hcloses

/-- Where the orders stay as they are, none is placed and none is closed. -/
theorem idle_of_orders (h : step.after.orders = step.before.orders) :
    step.isPlacing = false ∧ step.isClosing = false := by
  constructor
  · apply isPlacing_eq_false
    intro orderNo hplaces
    obtain ⟨hnone, order, hfound⟩ := places_iff.1 hplaces
    rw [h, hnone] at hfound
    cases hfound
  · apply isClosing_eq_false
    intro orderNo hcloses
    obtain ⟨⟨order, hfound, hpending⟩, later, hlater, hcancelled⟩ := closes_iff.1 hcloses
    rw [h, hfound, Option.some.injEq] at hlater
    rw [← hlater, hpending] at hcancelled
    cases hcancelled

/-- An order that moves on is not placed. -/
theorem not_placing_of_move {status : OrderStatus}
    (hfound : step.before.orders.find? order.orderNo = some order)
    (horders : step.after.orders = step.before.orders.put (order.withStatus status)) :
    step.isPlacing = false := by
  apply isPlacing_eq_false
  intro orderNo hplaces
  obtain ⟨hnone, later, hlater⟩ := places_iff.1 hplaces
  rw [horders] at hlater
  obtain ⟨rfl, -⟩ | ⟨-, hold⟩ := Table.found_of_put hlater
  · change step.before.orders.find? order.orderNo = none at hnone
    rw [hnone] at hfound
    cases hfound
  · rw [hnone] at hold
    cases hold

/-- Putting an order in closes at most that one, and only if it puts it in as cancelled. -/
theorem eq_of_closes_of_put {moved : Order}
    (horders : step.after.orders = step.before.orders.put moved) (h : step.closes orderNo = true) :
    moved.orderNo = orderNo ∧ moved.status = .cancelled := by
  obtain ⟨⟨order, hfound, hpending⟩, later, hlater, hcancelled⟩ := closes_iff.1 h
  rw [horders] at hlater
  obtain ⟨hno, rfl⟩ | ⟨-, hold⟩ := Table.found_of_put hlater
  · exact ⟨hno, hcancelled⟩
  · rw [hfound, Option.some.injEq] at hold
    rw [← hold, hpending] at hcancelled
    cases hcancelled

theorem places_of_placed (h : order.Placed step.before step.after) :
    step.places order.orderNo = true := by
  exact places_iff.2 ⟨h.absent, order, h.found_after⟩

theorem not_closing_of_placed (h : order.Placed step.before step.after) :
    step.isClosing = false := by
  apply isClosing_eq_false
  intro orderNo hcloses
  obtain ⟨-, hcancelled⟩ := eq_of_closes_of_put h.orders hcloses
  rw [h.pending] at hcancelled
  cases hcancelled

theorem closes_of_closed (h : order.Closed step.before step.after) :
    step.closes order.orderNo = true := by
  exact closes_iff.2 ⟨⟨order, h.found, h.pending⟩, order.withStatus .cancelled, h.found_after, rfl⟩

theorem idle_of_paid (h : order.Paid step.before step.after) :
    step.isPlacing = false ∧ step.isClosing = false := by
  have horders : step.after.orders = step.before.orders.put (order.withStatus .paid) := by
    rw [h.store]
  constructor
  · exact not_placing_of_move h.found horders
  · apply isClosing_eq_false
    intro orderNo hcloses
    obtain ⟨-, hcancelled⟩ := eq_of_closes_of_put horders hcloses
    cases hcancelled

/-! ### What a step takes and gives back -/

/-- The units that are taken or given back come to the units of a plan that counts them, and leave
a plan without end and one that is not there as they are. -/
theorem unitsLeft_of_restock {before after : Store} {id : PlanId} {units : Amount}
    (h : after.plans.find? id = (before.plans.find? id).map fun plan => plan.restock units) :
    after.unitsLeft id = before.unitsLeft id +
      if (before.plans.find? id).any Plan.isFinite then units else 0 := by
  unfold Store.unitsLeft
  rw [h]
  cases before.plans.find? id with
  | none => rfl
  | some plan =>
    simp only [Option.map_some, Option.getD_some, Option.any_some, Plan.restock]
    split
    · rfl
    · exact (Int.add_zero _).symm

theorem lowers_of_placed (h : order.Placed step.before step.after) (id : PlanId) :
    step.lowers id =
      if (step.before.plans.find? id).any Plan.isFinite then order.unitsOf id else 0 := by
  unfold lowers
  rw [unitsLeft_of_restock (h.plans id)]
  split
  · simp
  · simp

theorem lowers_of_closed (h : order.Closed step.before step.after) (id : PlanId) :
    -step.lowers id =
      if (step.before.plans.find? id).any Plan.isFinite then order.unitsOf id else 0 := by
  unfold lowers
  rw [unitsLeft_of_restock (h.plans id)]
  split
  · simp
  · simp

theorem taken_append (steps : List Step) (step : Step) (id : PlanId) :
    taken (steps ++ [step]) id = taken steps id + if step.isPlacing then step.lowers id else 0 := by
  unfold taken
  cases hplacing : step.isPlacing <;> simp [hplacing]

theorem returned_append (steps : List Step) (step : Step) (id : PlanId) :
    returned (steps ++ [step]) id =
      returned steps id + if step.isClosing then -step.lowers id else 0 := by
  unfold returned
  cases hclosing : step.isClosing <;> simp [hclosing]

/-- A plan without end stays there and without end. -/
theorem Tells.plans (h : step.Tells) (hkeeps : step.KeepsEndless) :
    step.before.plans.Evolves Plan.StaysEndless step.after.plans := by
  cases h with
  | same hsame =>
    rw [hsame]
    exact .refl (fun _ => id) _
  | changed hlater => exact hlater.plans.mono fun _ _ => Plan.Evolves.staysEndless
  | updated plan hafter =>
    have hupdated :
        step.before.Updated { step.before with plans := step.before.plans.put plan } := by
      apply Store.updated_put
      intro stored hstored hendless
      have hnegative : stored.inventory < 0 := by simpa [Plan.isFinite] using hendless
      have hfound : step.after.plans.find? stored.id = some plan := by
        rw [hafter, Table.key_of_find? hstored]
        exact Table.find?_put_self _ plan
      have hstays := hkeeps stored (Table.mem_of_find? hstored) hnegative plan hfound
      simpa [Plan.isFinite] using hstays
    rw [hafter]
    exact hupdated.plans

end Step

/-! ### The accounts -/

/-- What has been taken of the plans and given back in some steps goes with the orders of the store
that they lead to. -/
structure Store.Accounted (past : List Step) (store : Store) : Prop where
  /-- The plan of a purchase is there, and if its units are counted the order took one. -/
  took : ∀ orderNo order id, store.orders.find? orderNo = some order → order.kind = .purchase →
    order.planId = some id → ∃ plan, store.plans.find? id = some plan ∧
      (plan.isFinite = true → ∃ step ∈ past, step.places orderNo = true ∧ step.lowers id = 1)
  /-- What was taken of a plan that counts its units and not given back is held. -/
  held : ∀ id, (store.plans.find? id).all Plan.isFinite = true →
    Step.taken past id - Step.returned past id = store.unitsHeld id
  returned_le : ∀ id, Step.returned past id ≤ Step.taken past id

namespace Store.Accounted

variable {past : List Step} {step : Step} {order : Order}

/-- A plan that counts its units after a step did so before, or was not there. -/
theorem all_isFinite_of_evolves {before after : Store}
    (hplans : before.plans.Evolves Plan.StaysEndless after.plans) {id : PlanId}
    (h : (after.plans.find? id).all Plan.isFinite = true) :
    (before.plans.find? id).all Plan.isFinite = true := by
  cases hbefore : before.plans.find? id with
  | none => rfl
  | some plan =>
    obtain ⟨later, hlater, hstays⟩ := hplans id plan hbefore
    rw [hlater, Option.all_some] at h
    rw [Option.all_some]
    cases hfinite : plan.isFinite with
    | true => rfl
    | false => rw [hstays hfinite] at h; exact h

/-- A purchase that was there before a step has taken its unit before it. -/
theorem took_of_before (h : Accounted past step.before)
    (hplans : step.before.plans.Evolves Plan.StaysEndless step.after.plans) {orderNo : OrderNo}
    {id : PlanId} (hfound : step.before.orders.find? orderNo = some order)
    (hkind : order.kind = .purchase) (hplan : order.planId = some id) :
    ∃ plan, step.after.plans.find? id = some plan ∧ (plan.isFinite = true →
      ∃ taking ∈ past ++ [step], taking.places orderNo = true ∧ taking.lowers id = 1) := by
  obtain ⟨plan, hstored, htook⟩ := h.took orderNo order id hfound hkind hplan
  obtain ⟨later, hlater, hstays⟩ := hplans id plan hstored
  refine ⟨later, hlater, ?_⟩
  intro hfinite
  have hcounted : plan.isFinite = true := by
    cases hplanFinite : plan.isFinite with
    | true => rfl
    | false => rw [hstays hplanFinite] at hfinite; exact hfinite
  obtain ⟨taking, hmem, htaking⟩ := htook hcounted
  exact ⟨taking, List.mem_append_left _ hmem, htaking⟩

/-- A step at which no order is placed or closed. -/
theorem idle (h : Accounted past step.before)
    (hplans : step.before.plans.Evolves Plan.StaysEndless step.after.plans)
    (hidle : step.isPlacing = false ∧ step.isClosing = false)
    (horders : ∀ orderNo order, step.after.orders.find? orderNo = some order →
      ∃ status, step.before.orders.find? orderNo = some (order.withStatus status))
    (hheld : ∀ id, (step.after.unitsHeld id : Amount) = step.before.unitsHeld id) :
    Accounted (past ++ [step]) step.after where
  took orderNo order id hfound hkind hplan := by
    obtain ⟨status, hold⟩ := horders orderNo order hfound
    exact h.took_of_before hplans hold hkind hplan
  held id hall := by
    rw [Step.taken_append, Step.returned_append, hidle.1, hidle.2, hheld,
      ← h.held id (all_isFinite_of_evolves hplans hall)]
    simp
  returned_le id := by
    rw [Step.taken_append, Step.returned_append, hidle.1, hidle.2]
    simpa using h.returned_le id

/-- A step at which all orders stay as they are. -/
theorem idle_of_orders (h : Accounted past step.before)
    (hplans : step.before.plans.Evolves Plan.StaysEndless step.after.plans)
    (horders : step.after.orders = step.before.orders) :
    Accounted (past ++ [step]) step.after := by
  apply h.idle hplans (Step.idle_of_orders horders)
  · intro orderNo order hfound
    rw [horders] at hfound
    exact ⟨order.status, hfound⟩
  · intro id
    rw [unitsHeld, unitsHeld, horders]

/-- A purchase that is placed is of a plan that is there. -/
theorem unitsOf_of_absent {before after : Store} (h : order.Placed before after) {id : PlanId}
    (habsent : before.plans.find? id = none) : order.unitsOf id = 0 := by
  refine if_neg ?_
  rintro ⟨hkind, hplan⟩
  obtain ⟨other, plan, hother, hfound, -⟩ := h.stocked hkind
  obtain rfl := Option.some.inj (hplan.symm.trans hother)
  rw [habsent] at hfound
  cases hfound

/-! #### Placing -/

/-- What placing an order takes of a plan that counts its units, or that is not there, the order
holds. -/
theorem taken_of_placed (hplaced : order.Placed step.before step.after) {id : PlanId}
    (hall : (step.before.plans.find? id).all Plan.isFinite = true) :
    step.lowers id = order.unitsOf id := by
  rw [Step.lowers_of_placed hplaced]
  cases hstored : step.before.plans.find? id with
  | none => rw [unitsOf_of_absent hplaced hstored, ite_self]
  | some plan =>
    rw [hstored, Option.all_some] at hall
    rw [Option.any_some, hall, if_pos rfl]

/-- A purchase takes a unit when it is placed, if its plan counts them. -/
theorem took_of_placed (hlater : step.before.Later step.after)
    (hplaced : order.Placed step.before step.after) {id : PlanId} (hkind : order.kind = .purchase)
    (hplan : order.planId = some id) :
    ∃ plan, step.after.plans.find? id = some plan ∧ (plan.isFinite = true → step.lowers id = 1) := by
  obtain ⟨other, plan, hother, hstored, -⟩ := hplaced.stocked hkind
  obtain rfl := Option.some.inj (hplan.symm.trans hother)
  obtain ⟨later, hlaterPlan, -, -, hfinite⟩ := hlater.plans _ plan hstored
  refine ⟨later, hlaterPlan, ?_⟩
  intro hcounted
  rw [Step.lowers_of_placed hplaced, hstored, Option.any_some, ← hfinite, hcounted, if_pos rfl,
    Order.unitsOf_self hkind hplan]

theorem placed (h : Accounted past step.before) (hlater : step.before.Later step.after)
    (hplaced : order.Placed step.before step.after) : Accounted (past ++ [step]) step.after := by
  have hplans := hlater.plans.mono fun _ _ => Plan.Evolves.staysEndless
  have hplaces := Step.places_of_placed hplaced
  have hplacing : step.isPlacing = true := Step.isPlacing_iff.2 ⟨_, hplaces⟩
  have hclosing := Step.not_closing_of_placed hplaced
  constructor
  · intro orderNo found id hfound hkind hplan
    rw [hplaced.orders] at hfound
    rcases Table.found_of_put hfound with ⟨rfl, rfl⟩ | ⟨-, hold⟩
    · obtain ⟨later, hlaterPlan, htook⟩ := took_of_placed hlater hplaced hkind hplan
      refine ⟨later, hlaterPlan, ?_⟩
      intro hcounted
      exact ⟨step, List.mem_append_right _ (List.mem_singleton.2 rfl), hplaces, htook hcounted⟩
    · exact h.took_of_before hplans hold hkind hplan
  · intro id hall
    have hbefore := all_isFinite_of_evolves hplans hall
    have hheld := h.held id hbefore
    rw [Step.taken_append, Step.returned_append, hplacing, hclosing, unitsHeld_of_placed hplaced,
      taken_of_placed hplaced hbefore, if_pos rfl, if_neg Bool.false_ne_true]
    unfold Amount at *
    omega
  · intro id
    have hnonneg : 0 ≤ step.lowers id := by
      rw [Step.lowers_of_placed hplaced]
      split
      · exact order.unitsOf_nonneg id
      · exact Int.le_refl 0
    have hle := h.returned_le id
    rw [Step.taken_append, Step.returned_append, hplacing, hclosing, if_pos rfl,
      if_neg Bool.false_ne_true]
    unfold Amount at *
    omega

/-! #### Closing -/

/-- What a close gives back of a plan that counts its units, or that is not there, the order
held. -/
theorem returned_of_closed (h : Accounted past step.before)
    (hclosed : order.Closed step.before step.after) {id : PlanId}
    (hall : (step.before.plans.find? id).all Plan.isFinite = true) :
    -step.lowers id = order.unitsOf id := by
  rw [Step.lowers_of_closed hclosed]
  cases hstored : step.before.plans.find? id with
  | none =>
    refine Eq.symm (if_neg ?_)
    rintro ⟨hkind, hplan⟩
    obtain ⟨plan, hfound, -⟩ := h.took _ order id hclosed.found hkind hplan
    rw [hstored] at hfound
    cases hfound
  | some plan =>
    rw [hstored, Option.all_some] at hall
    rw [Option.any_some, hall, if_pos rfl]

theorem closed (h : Accounted past step.before) (hlater : step.before.Later step.after)
    (hclosed : order.Closed step.before step.after) : Accounted (past ++ [step]) step.after := by
  have hplans := hlater.plans.mono fun _ _ => Plan.Evolves.staysEndless
  have hplacing := Step.not_placing_of_move hclosed.found hclosed.orders
  have hclosing : step.isClosing = true :=
    Step.isClosing_iff.2 ⟨_, Step.closes_of_closed hclosed⟩
  constructor
  · intro orderNo found id hfound hkind hplan
    rw [hclosed.orders] at hfound
    rcases Table.found_of_put hfound with ⟨rfl, rfl⟩ | ⟨-, hold⟩
    · exact h.took_of_before hplans hclosed.found hkind hplan
    · exact h.took_of_before hplans hold hkind hplan
  · intro id hall
    have hbefore := all_isFinite_of_evolves hplans hall
    have hheld := h.held id hbefore
    rw [Step.taken_append, Step.returned_append, hplacing, hclosing, unitsHeld_of_closed hclosed,
      h.returned_of_closed hclosed hbefore, if_pos rfl, if_neg Bool.false_ne_true]
    unfold Amount at *
    omega
  · intro id
    have hle := h.returned_le id
    rw [Step.taken_append, Step.returned_append, hplacing, hclosing, if_pos rfl,
      if_neg Bool.false_ne_true]
    by_cases hall : (step.before.plans.find? id).all Plan.isFinite = true
    · -- What is given back is part of what is held, and that was taken.
      have hheld := h.held id hall
      have hleft := unitsHeld_of_closed hclosed id
      rw [h.returned_of_closed hclosed hall]
      unfold Amount at *
      omega
    · have hendless : (step.before.plans.find? id).any Plan.isFinite = false := by
        cases hstored : step.before.plans.find? id with
        | none => rfl
        | some plan => simpa [hstored] using hall
      have hnothing : -step.lowers id = 0 := by
        rw [Step.lowers_of_closed hclosed, hendless, if_neg Bool.false_ne_true]
      unfold Amount at *
      omega

/-- **A step keeps the accounts**, if it gives no plan without end an end. -/
theorem of_tells (h : Accounted past step.before) (htells : step.Tells)
    (hkeeps : step.KeepsEndless) : Accounted (past ++ [step]) step.after := by
  have hplans := htells.plans hkeeps
  cases htells with
  | same hsame => exact h.idle_of_orders hplans (by rw [hsame])
  | updated plan hafter => exact h.idle_of_orders hplans (by rw [hafter])
  | changed hlater hchange =>
    cases hchange with
    | placed order _ hplaced => exact h.placed hlater hplaced
    | closed order hclosed => exact h.closed hlater hclosed
    | paid order hpaid =>
      apply h.idle hplans (Step.idle_of_paid hpaid)
      · intro orderNo found hfound
        rw [hpaid.store] at hfound
        rcases Table.found_of_put hfound with ⟨rfl, rfl⟩ | ⟨-, hold⟩
        · exact ⟨order.status, hpaid.found⟩
        · exact ⟨found.status, hold⟩
      · exact unitsHeld_of_paid hpaid

/-- At the start there are no orders. -/
theorem opened {store : Store} (horders : store.orders = .empty) : Accounted [] store where
  took orderNo order id hfound := by simp [horders] at hfound
  held id _ := by simp [Step.taken, Step.returned, unitsHeld, horders]
  returned_le id := Int.le_refl 0

end Store.Accounted

/-! ### Runs -/

namespace Desk

/-- What a move does to the store, and that the clients go on as clients do. -/
theorem afterMove_trades {desk : Desk} (h : desk.Trades fun _ => True) (move : Move)
    (hkeeps : Step.KeepsEndless ⟨desk.world.store, (desk.afterMove move).world.store⟩) :
    (desk.afterMove move).Trades (fun _ => True) ∧
      Step.Tells ⟨desk.world.store, (desk.afterMove move).world.store⟩ := by
  cases move with
  | event event =>
    obtain ⟨htrades, hsame | ⟨hlater, hchange⟩⟩ :=
      after_trades h (event.places_of_forall fun _ => trivial)
    · exact ⟨htrades, .same hsame⟩
    · exact ⟨htrades, .changed hlater hchange⟩
  | putPlan plan =>
    have htells : Step.Tells ⟨desk.world.store, (desk.afterMove (.putPlan plan)).world.store⟩ :=
      .updated plan rfl
    refine ⟨h.updated ?_, htells⟩
    exact { Store.Updated.refl desk.world.store with plans := htells.plans hkeeps }

/-- **The accounts of a run.** At every step what has been taken and given back before goes with
the orders. -/
theorem accounted_of_steps {desk : Desk} {past : List Step} (h : desk.world.store.Accounted past)
    (htrades : desk.Trades fun _ => True) (moves : List Move)
    (hkeeps : ∀ step ∈ desk.steps moves, step.KeepsEndless) :
    (∀ earlier step later, desk.steps moves = earlier ++ step :: later →
      step.before.Accounted (past ++ earlier) ∧ step.Tells) ∧
    ∀ id, Step.returned (past ++ desk.steps moves) id ≤
      Step.taken (past ++ desk.steps moves) id := by
  induction moves generalizing desk past with
  | nil =>
    constructor
    · intro earlier step later hsplit
      simp [steps] at hsplit
    · intro id
      rw [steps, List.append_nil]
      exact h.returned_le id
  | cons move rest ih =>
    let first : Step := ⟨desk.world.store, (desk.afterMove move).world.store⟩
    obtain ⟨hfirst, hrest⟩ := List.forall_mem_cons.1 hkeeps
    obtain ⟨htrades', htells⟩ := afterMove_trades htrades move hfirst
    have hafter : (desk.afterMove move).world.store.Accounted (past ++ [first]) :=
      Store.Accounted.of_tells h htells hfirst
    obtain ⟨hsteps, hle⟩ := ih hafter htrades' hrest
    constructor
    · intro earlier step later hsplit
      cases earlier with
      | nil =>
        obtain ⟨rfl, -⟩ := List.cons.inj hsplit
        rw [List.append_nil]
        exact ⟨h, htells⟩
      | cons other earlier =>
        obtain ⟨rfl, hrestSplit⟩ := List.cons.inj hsplit
        rw [List.append_cons]
        exact hsteps earlier step later hrestSplit
    · intro id
      rw [steps, List.append_cons]
      exact hle id

end Desk

/-! ### The law -/

/-- A step that closes an order is one that gives back what the order took. -/
theorem Step.Tells.closed_of_closes {step : Step} {orderNo : OrderNo} (h : step.Tells)
    (hcloses : step.closes orderNo = true) :
    ∃ order : Order, order.orderNo = orderNo ∧ order.Closed step.before step.after := by
  have hclosing : step.isClosing ≠ false := by
    rw [Step.isClosing_iff.2 ⟨orderNo, hcloses⟩]
    decide
  cases h with
  | same hsame => exact absurd (Step.idle_of_orders (by rw [hsame])).2 hclosing
  | updated plan hafter => exact absurd (Step.idle_of_orders (by rw [hafter])).2 hclosing
  | changed hlater hchange =>
    cases hchange with
    | placed order _ hplaced => exact absurd (Step.not_closing_of_placed hplaced) hclosing
    | paid order hpaid => exact absurd (Step.idle_of_paid hpaid).2 hclosing
    | closed order hclosed =>
      exact ⟨order, (Step.eq_of_closes_of_put hclosed.orders hcloses).1, hclosed⟩

/-- A close that raises the units of a plan gives one back that its own order took. -/
theorem Store.Accounted.took_of_closes {past : List Step} {step : Step} {orderNo : OrderNo}
    {id : PlanId} (h : step.before.Accounted past) (htells : step.Tells)
    (hcloses : step.closes orderNo = true)
    (hraises : step.before.unitsLeft id < step.after.unitsLeft id) :
    step.lowers id = -1 ∧
      ∃ taking ∈ past, taking.places orderNo = true ∧ taking.lowers id = 1 := by
  obtain ⟨order, rfl, hclosed⟩ := htells.closed_of_closes hcloses
  have hlowers := Step.lowers_of_closed hclosed id
  have hraised : 0 < -step.lowers id := by
    unfold Step.lowers
    unfold Amount at *
    omega
  split at hlowers
  · rename_i hcounted
    rw [hlowers] at hraised
    obtain ⟨hkind, hplan⟩ := Order.unitsOf_pos_iff.1 hraised
    obtain ⟨plan, hstored, htook⟩ := h.took _ order id hclosed.found hkind hplan
    rw [hstored, Option.any_some] at hcounted
    rw [Order.unitsOf_self hkind hplan] at hlowers
    exact ⟨(Int.neg_eq_comm.1 hlowers).symm, htook hcounted⟩
  · rw [hlowers] at hraised
    exact absurd hraised (Int.lt_irrefl 0)

/-- **A close gives back only what its own order took.** At a desk that opens without orders, with any
plans put in at any time as long as none without end is given an end, this holds of every run:
a close that raises the units of a plan raises them by one, and the same order lowered them by
one when it was placed; and what closes have given back of a plan is never more than what
orders have taken. -/
theorem Desk.returned_of_taken (world : World) (horders : world.store.orders = .empty)
    (moves : List Move) (hkeeps : ∀ step ∈ (opened world).steps moves, step.KeepsEndless) :
    (∀ earlier step later, (opened world).steps moves = earlier ++ step :: later →
      ∀ orderNo id, step.closes orderNo = true →
        step.before.unitsLeft id < step.after.unitsLeft id →
        step.lowers id = -1 ∧
          ∃ taking ∈ earlier, taking.places orderNo = true ∧ taking.lowers id = 1) ∧
    ∀ id, Step.returned ((opened world).steps moves) id ≤
      Step.taken ((opened world).steps moves) id := by
  obtain ⟨hsteps, hle⟩ :=
    accounted_of_steps (.opened horders) (opened_trades world) moves hkeeps
  refine ⟨?_, hle⟩
  intro earlier step later hsplit orderNo id hcloses hraises
  obtain ⟨haccounted, htells⟩ := hsteps earlier step later hsplit
  exact haccounted.took_of_closes htells hcloses hraises

/-! ### A plan that is given an end -/

namespace Desk

/-- A plan without end, or with so many units, and a user who wants it. -/
def shop (inventory : Amount) : World :=
  .calm
    { Store.empty with
      plans := .ofList [⟨7, "basic", 300, .empty, inventory, 0, true⟩]
      payments := .ofList [⟨3, "card", .none⟩]
      users := .ofList [⟨1, 0⟩] }
    .empty ⟨0, 0⟩

/-- Somebody buys a unit, the plan is put in with other units, and the order is closed. -/
def restocked (inventory : Amount) : List Move :=
  .event (.enter (.submit .standard ⟨"first", ⟨0, 0⟩⟩ (some 1) (.purchase ⟨7, 1, none, 3⟩))) ::
    List.replicate 8 (.event (.serve 0)) ++
    .putPlan ⟨7, "basic", 300, .empty, inventory, 0, true⟩ ::
    .event (.enter (.close "first" ⟨900, 0⟩)) :: List.replicate 3 (.event (.serve 1))

/-- A unit that was taken of one is given back to five. -/
theorem returned_of_taken_of_one :
    Step.returned ((opened (shop 1)).steps (restocked 5)) 7 ≤
        Step.taken ((opened (shop 1)).steps (restocked 5)) 7 ∧
      Step.returned ((opened (shop 1)).steps (restocked 5)) 7 = 1 := by
  constructor
  · exact (returned_of_taken (shop 1) rfl (restocked 5) (by decide +kernel)).2 7
  · decide +kernel

/-- **A plan that is given an end is paid back a unit that nobody took.** A purchase takes no unit of
a plan without end. When the plan is given five units before the order is closed, there are six
afterwards. -/
theorem returned_of_nothing :
    Step.taken ((opened (shop (-1))).steps (restocked 5)) 7 = 0 ∧
      Step.returned ((opened (shop (-1))).steps (restocked 5)) 7 = 1 ∧
      ((opened (shop (-1))).steps (restocked 5)).getLast?.map (fun step => step.after.unitsLeft 7) =
        some 6 := by
  decide +kernel

end Desk

end OrderDesk
