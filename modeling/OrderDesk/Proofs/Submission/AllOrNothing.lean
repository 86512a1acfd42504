import OrderDesk.Proofs.Submission.Preparation

/-!
# Submitting is all or nothing

A request runs in a world in which any service may be down, for any number of calls, and in
which others get any number of commits in before the one of the request. A request that is
refused leaves the store as the others left it and the queue as it was. One that is carried
out has placed its one order in the store as the others left it, and has put the task that
closes the order into the queue unless the queue did not take it; that the queue did not take
it is not an error of the request.

## What is proved

* `World.later_of_commitRaces`: what the commits of others leave is a later store.
* `Submission.run_place`: how the commit of a request and its task for the queue end.
* `Submission.run_submit`: how a request ends, told by what was prepared for it.
* `submit_all_or_nothing`: how a request ends, in every world.
-/

namespace OrderDesk

namespace World

/-- What the commits of others leave is a later store, whichever of them were refused. -/
theorem later_of_commitRaces {store settled : Store} {races : List (List Write)}
    (h : commitRaces store races = (.ok (), settled)) : store.Later settled := by
  induction races generalizing store with
  | nil =>
    obtain rfl := (Prod.mk.inj h).2
    exact .refl store
  | cons writes rest ih =>
    rw [commitRaces] at h
    split at h
    · rename_i next hcommit
      exact (Store.later_of_commit hcommit).trans (ih h)
    · exact ih h
    · simp at h

/-- The queue has taken a task, to be due after some seconds, or it was not able to and is as
it was. -/
def Enqueued (world after : World) (task : Task) (delay : Nat) : Prop :=
  (world.isDown .enqueue = false ∧ ∃ dueAt, world.now.after? delay = some dueAt ∧
    after.queue.entries = world.queue.entries ++ [⟨task, dueAt⟩]) ∨
  ((world.isDown .enqueue = true ∨ ∃ error, world.queue.enqueue task delay world.now = .error error) ∧
    after.queue = world.queue)

/-- What the queue does is the same in a world in which something has only been read. -/
theorem Read.enqueued {world read after : World} {task : Task} {delay : Nat}
    (h : world.Read read) (henqueued : read.Enqueued after task delay) :
    world.Enqueued after task delay := by
  unfold Enqueued at henqueued ⊢
  rwa [h.isDown .enqueue rfl, h.now, h.queue] at henqueued

/-- A task for the queue is always answered, one way or the other. -/
theorem answer_enqueue (world : World) (task : Task) (delay : Nat) :
    ∃ reply after, world.answer (.enqueue task delay) = (.ok reply, after) ∧
      after.store = world.store ∧ world.Enqueued after task delay := by
  change ∃ reply after, world.answerAlone (.enqueue task delay) = (.ok reply, after) ∧ _
  cases hdown : world.isDown .enqueue with
  | true => exact ⟨_, _, answerAlone_of_down hdown, rfl, .inr ⟨.inl hdown, rfl⟩⟩
  | false =>
    rw [answerAlone_of_up hdown, serve]
    cases hqueue : world.queue.enqueue task delay world.now with
    | error error => exact ⟨_, _, rfl, rfl, .inr ⟨.inr ⟨error, hqueue⟩, rfl⟩⟩
    | ok queue =>
      obtain ⟨-, dueAt, hdueAt, rfl⟩ := Queue.enqueue_eq_ok_iff.1 hqueue
      exact ⟨_, _, rfl, rfl, .inl ⟨hdown, dueAt, hdueAt, rfl⟩⟩

/-- How a commit ends when others get theirs in before it: it goes through in the store that they
left, it leaves the store so, or a number does not fit. -/
theorem answer_commit (world : World) (writes : List Write) :
    (∃ settled store, commitRaces world.store world.races = (.ok (), settled) ∧
      settled.commit writes = .ok store ∧
      world.answer (.commit writes) = (.ok (.ok ()), { world with store, races := [] })) ∨
    (∃ error after, commitRaces world.store world.races = (.ok (), after.store) ∧
      after.queue = world.queue ∧ after.races = [] ∧
      world.answer (.commit writes) = (.ok (.error error), after)) ∨
    ∃ overflow after, after.queue = world.queue ∧ (world.races = [] → after.store = world.store) ∧
      world.answer (.commit writes) = (.error overflow, after) := by
  cases hraces : commitRaces world.store world.races with
  | mk ended settled =>
    let others : World := { world with store := settled, races := [] }
    have halone : world.races = [] → others.store = world.store := by
      intro hnone
      rw [hnone] at hraces
      exact (Prod.mk.inj hraces).2.symm
    cases ended with
    | error overflow =>
      exact .inr (.inr ⟨overflow, others, rfl, halone, by simp only [answer, hraces]; rfl⟩)
    | ok _ =>
      have hanswer : world.answer (.commit writes) = others.answerAlone (.commit writes) := by
        simp only [answer, hraces]
        rfl
      rw [hanswer]
      obtain ⟨store, hcommit, hends⟩ | ⟨error, after, hstore, hqueue, hempty, hends⟩ |
        ⟨overflow, hends⟩ := others.answerAlone_commit writes
      · exact .inl ⟨settled, store, rfl, hcommit, hends⟩
      · exact .inr (.inl ⟨error, after, by rw [hstore], hqueue, hempty, hends⟩)
      · exact .inr (.inr ⟨overflow, others, rfl, halone, hends⟩)

end World

namespace Submission

/-! ### Placing an order -/

/-- How placing an order ends: with the commit and the task for the queue, with a refusal, or
with a number that does not fit. -/
theorem run_place (config : Config) (now : Instant) (f : Fulfillment) (world : World) :
    (∃ settled after, World.commitRaces world.store world.races = (.ok (), settled) ∧
      settled.commit (f.writes now) = .ok after.store ∧
      world.Enqueued after (Task.closeOrder f.order.orderNo) config.closeAfter ∧
      (place config now f).run world = (.ok f.order.orderNo, after)) ∨
    (∃ error after, World.commitRaces world.store world.races = (.ok (), after.store) ∧
      after.queue = world.queue ∧ after.races = [] ∧
      (place config now f).run world = (.error (.refused error), after)) ∨
    ∃ overflow after, after.queue = world.queue ∧ (world.races = [] → after.store = world.store) ∧
      (place config now f).run world = (.error (.stopped overflow), after) := by
  simp only [place, Fulfillment.store, Program.transaction, Program.check, Program.perform,
    Expiry.scheduleClose, Program.bind_eq_andThen, Program.pure_eq_done, Program.andThen,
    Program.run]
  obtain ⟨settled, store, hraces, hcommit, hends⟩ | ⟨error, after, hraces, hqueue, hempty, hends⟩ |
    ⟨overflow, after, hqueue, halone, hends⟩ := world.answer_commit (f.writes now)
  · obtain ⟨reply, after, henqueue, hstore, hqueue⟩ :=
      { world with store, races := [] }.answer_enqueue (Task.closeOrder f.order.orderNo)
        config.closeAfter
    refine .inl ⟨settled, after, hraces, by rw [hstore, hcommit], hqueue, ?_⟩
    simp only [hends, Program.written, Program.andThen, Program.run, henqueue]
    cases reply <;> rfl
  · rw [hends]
    exact .inr (.inl ⟨_, after, hraces, hqueue, hempty, rfl⟩)
  · rw [hends]
    exact .inr (.inr ⟨overflow, after, hqueue, halone, rfl⟩)

/-! ### The footprint of a request -/

/-- What a request that is carried out leaves behind: one new order under the number it tells, and
a task for the queue. -/
structure Accepted (config : Config) (orderNo : OrderNo) (order : Order) (world : World)
    (settled : Store) (after : World) : Prop where
  number : order.orderNo = orderNo
  placed : order.Placed settled after.store
  /-- The plan of a purchase, as the request read it and as the others left it: one unit less just
  when the plan that was read counts its units. -/
  unit : order.kind = .purchase → ∃ id read plan, order.planId = some id ∧
    world.store.plans.find? id = some read ∧ settled.plans.find? id = some plan ∧
    after.store.plans.find? id =
      some (if 0 ≤ read.inventory then { plan with inventory := plan.inventory - 1 } else plan)
  queue : world.Enqueued after (Task.closeOrder orderNo) config.closeAfter

theorem accepted_of_commit {config : Config} {now : Instant} {f : Fulfillment}
    {world after : World} {settled : Store} (hsound : f.Sound world.store)
    (hlater : world.store.Later settled) (hcommit : settled.commit (f.writes now) = .ok after.store)
    (hqueue : world.Enqueued after (Task.closeOrder f.order.orderNo) config.closeAfter) :
    Accepted config f.order.orderNo f.order world settled after := by
  have hplaced := Fulfillment.placed_of_commit (hsound.later hlater.updated) hcommit
  refine ⟨rfl, hplaced, fun hkind => ?_, hqueue⟩
  cases hplan : f.plan with
  | none => exact absurd hkind (hsound.no_unit hplan)
  | some read =>
    obtain ⟨-, hid, stored, hstored, -⟩ := hsound.unit read hplan
    obtain ⟨plan, hfound, -, -, hfinite⟩ := hlater.plans _ stored hstored
    refine ⟨read.id, stored, plan, hid, hstored, hfound, ?_⟩
    rw [hplaced.plans, hfound, Option.map_some, Order.unitsOf_self hkind hid, Plan.restock, hfinite]
    simp only [Plan.isFinite, decide_eq_true_eq, Int.sub_eq_add_neg]

/-- **How a request ends.** What was prepared from the store is committed to the store as the others
left it, and its task is put into the queue; or the request is refused; or a number does not
fit. -/
theorem run_submit (config : Config) (stamp : Stamp) (session : Option UserId) (request : Request)
    (world : World) :
    (∃ f settled after, Prepared .still config stamp session world.store request f ∧
      World.commitRaces world.store world.races = (.ok (), settled) ∧
      settled.commit (f.writes stamp.now) = .ok after.store ∧
      world.Enqueued after (Task.closeOrder f.order.orderNo) config.closeAfter ∧
      (submit config stamp session request).run world = (.ok f.order.orderNo, after)) ∨
    (∃ error after, after.queue = world.queue ∧
      (after.store = world.store ∧ after.races = world.races ∨
        World.commitRaces world.store world.races = (.ok (), after.store) ∧ after.races = []) ∧
      (submit config stamp session request).run world = (.error (.refused error), after)) ∨
    ∃ overflow after, after.queue = world.queue ∧ (world.races = [] → after.store = world.store) ∧
      (submit config stamp session request).run world = (.error (.stopped overflow), after) := by
  have hprepare : (prepare config stamp session request).Conforms (.reading .still)
      (fun f store => Prepared .still config stamp session store request f) world.store :=
    prepare_conforms request
  obtain ⟨hread, hpost⟩ := Program.run_of_reading hprepare
  rw [submit, Program.bind_eq_andThen, Program.run_andThen]
  cases hrun : (prepare config stamp session request).run world with
  | mk prepared reading =>
    rw [hrun] at hread hpost
    cases prepared with
    | error failure =>
      cases failure with
      | refused error =>
        exact .inr (.inl ⟨error, reading, hread.queue, .inl ⟨hread.store, hread.races⟩, rfl⟩)
      | stopped overflow =>
        exact .inr (.inr ⟨overflow, reading, hread.queue, fun _ => hread.store, rfl⟩)
    | ok f =>
      obtain ⟨settled, after, hraces, hcommit, hqueue, hends⟩ |
        ⟨error, after, hraces, hqueue, hempty, hends⟩ |
        ⟨overflow, after, hqueue, halone, hends⟩ := run_place config stamp.now f reading
      · rw [hread.store, hread.races] at hraces
        exact .inl ⟨f, settled, after, hpost f rfl, hraces, hcommit, hread.enqueued hqueue, hends⟩
      · rw [hread.store, hread.races] at hraces
        exact .inr (.inl ⟨error, after, hqueue.trans hread.queue, .inr ⟨hraces, hempty⟩, hends⟩)
      · rw [hread.store, hread.races] at halone
        exact .inr (.inr ⟨overflow, after, hqueue.trans hread.queue, halone, hends⟩)

end Submission

/-- **Submitting is all or nothing.** In every world, with services down for any calls and any
commits of others before the one of the request: a request that is carried out has placed one
order in the store as the others left it and changed nothing else but the queue; one that is
refused has left the store as the others left it, or as it was when it did not come to a
commit, and the queue as it was. Nothing is said of a request that a number stops which does
not fit. -/
theorem submit_all_or_nothing (config : Config) (stamp : Submission.Stamp)
    (session : Option UserId) (request : Request) (world : World) :
    match (submit config stamp session request).run world with
    | (.ok orderNo, after) => ∃ settled order,
      World.commitRaces world.store world.races = (.ok (), settled) ∧
        Submission.Accepted config orderNo order world settled after
    | (.error (.refused _), after) => after.queue = world.queue ∧
      (after.store = world.store ∧ after.races = world.races ∨
        World.commitRaces world.store world.races = (.ok (), after.store) ∧ after.races = [])
    | (.error (.stopped _), _) => True := by
  obtain ⟨f, settled, after, hprepared, hraces, hcommit, hqueue, hends⟩ |
    ⟨error, after, hqueue, hstore, hends⟩ | ⟨overflow, after, -, -, hends⟩ :=
    Submission.run_submit config stamp session request world
  · simp only [hends]
    exact ⟨settled, f.order, hraces, Submission.accepted_of_commit hprepared.sound_of_still
      (World.later_of_commitRaces hraces) hcommit hqueue⟩
  · simp only [hends]
    exact ⟨hqueue, hstore⟩
  · simp only [hends]

end OrderDesk
