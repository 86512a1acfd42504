import OrderDesk.Proofs.CommandLine.Rows
import OrderDesk.Proofs.Desk.Turns

/-!
# A run closes what is not paid

An order that is placed brings its task along, and the task becomes due one close window later. When
the clock does not go backwards and the window is accepted at the start and at the end of a run, it
is accepted in between, and all tasks are due one window after the end (`Instant.after?_between`).
So every order of a run has a task that is due by then (`Progress.Runs.closable`), and closing the
orders that are not paid cancels them all and changes nothing else of them
(`Progress.closeUnpaid_eq`).
-/

namespace OrderDesk

/-! ### Time -/

namespace Instant

/-- The calendar has all instants between two that it has, and what lies some seconds behind them is
in the same order. -/
theorem after?_between {start now finish deadline : Instant} {seconds : Int}
    (hstart : start.isAtMost now = true) (hfinish : now.isAtMost finish = true)
    (hopens : (start.after? seconds).isSome) (hdeadline : finish.after? seconds = some deadline) :
    ∃ dueAt, now.after? seconds = some dueAt ∧ dueAt.isAtMost deadline = true := by
  obtain ⟨opened, hopened⟩ := Option.isSome_iff_exists.1 hopens
  unfold after? at hopened hdeadline ⊢
  obtain ⟨⟨hfirst, -⟩, -⟩ := Option.ite_none_right_eq_some.1 hopened
  obtain ⟨⟨-, hlast⟩, hdeadline⟩ := Option.ite_none_right_eq_some.1 hdeadline
  obtain rfl := Option.some.inj hdeadline
  rw [isAtMost_iff] at hstart hfinish
  have hbounds : firstSecond ≤ now.second + seconds ∧ now.second + seconds ≤ lastSecond := by omega
  refine ⟨_, if_pos hbounds, isAtMost_iff.2 ?_⟩
  simp only
  omega

end Instant

namespace CommandLine

/-- The clock of a run does not go backwards, and the close window is accepted at the start and,
when orders are closed, at the end. -/
structure Clock.Admits (clock : Clock) (options : Options) : Prop where
  started : ∀ n, clock.start.isAtMost (clock.stamp n).now = true
  finished : ∀ n, (clock.stamp n).now.isAtMost clock.finish = true
  opens : (window? options.closeMinutes clock.start).isSome
  closes : options.closeUnpaid = true → (window? options.closeMinutes clock.finish).isSome

/-- What it means that a window is accepted. -/
theorem window?_eq_some {minutes seconds : Nat} {now : Instant}
    (h : window? minutes now = some seconds) :
    seconds = minutes * 60 ∧ seconds ≤ Queue.longestDelay ∧ (now.after? seconds).isSome := by
  unfold window? at h
  obtain ⟨⟨-, hdelay⟩, hmap⟩ := Option.ite_none_right_eq_some.1 h
  obtain ⟨dueAt, hdueAt, rfl⟩ := Option.map_eq_some_iff.1 hmap
  exact ⟨rfl, hdelay, Option.isSome_iff_exists.2 ⟨dueAt, hdueAt⟩⟩

/-- When orders are closed at the end, their tasks can be put into the queue all the time, and are due
one window after the end. -/
theorem Clock.Admits.window {clock : Clock} {options : Options} (h : clock.Admits options)
    (hclose : options.closeUnpaid = true) :
    options.closeMinutes * 60 ≤ Queue.longestDelay ∧
      ∃ deadline, clock.finish.after? (options.closeMinutes * 60 : Nat) = some deadline ∧
        ∀ n, ∃ dueAt, (clock.stamp n).now.after? (options.closeMinutes * 60 : Nat) = some dueAt ∧
          dueAt.isAtMost deadline = true := by
  obtain ⟨seconds, hopens⟩ := Option.isSome_iff_exists.1 h.opens
  obtain ⟨seconds', hcloses⟩ := Option.isSome_iff_exists.1 (h.closes hclose)
  obtain ⟨rfl, hdelay, hstart⟩ := window?_eq_some hopens
  obtain ⟨rfl, -, hfinish⟩ := window?_eq_some hcloses
  obtain ⟨deadline, hdeadline⟩ := Option.isSome_iff_exists.1 hfinish
  exact ⟨hdelay, deadline, hdeadline, fun n =>
    Instant.after?_between (h.started n) (h.finished n) hstart hdeadline⟩

namespace Progress

variable {config : Config} {clock : Clock} {line : Nat} {deadline : Instant} {seed : Store}
  {record : Except OrderError RequestRecord} {records : List (Except OrderError RequestRecord)}
  {before after progress : Progress} {order : Order} {lines : List Nat} {orders : List Order}

/-! ### Tasks -/

/-- The queue has a task for every pending order, and all of its tasks are due by a deadline. -/
structure Closable (seed : Store) (deadline : Instant) (progress : Progress) : Prop where
  tended : progress.world.Tended seed
  due : ∀ entry ∈ progress.world.queue.entries, entry.dueAt.isAtMost deadline = true

theorem Closable.passedOver (h : before.Closable seed deadline) (hrow : before.Skips after line) :
    after.Closable seed deadline := by
  obtain ⟨now, hworld⟩ := hrow.world
  constructor
  · rw [hworld]
    exact h.tended.withNow now
  · rw [hworld]
    exact h.due

/-- The task of an order that is placed is due by the deadline. -/
theorem Closable.carriedOut (h : before.Closable seed deadline)
    (hrow : before.CarriesOut config clock record after order)
    (hdelay : config.closeAfter ≤ Queue.longestDelay)
    (hwindow : ∀ n, ∃ dueAt, (clock.stamp n).now.after? config.closeAfter = some dueAt ∧
      dueAt.isAtMost deadline = true) : after.Closable seed deadline := by
  obtain ⟨dueAt, hafter, hdue⟩ := hwindow before.made
  have hqueue : after.world.queue.entries =
      before.world.queue.entries ++ [⟨Task.closeOrder order.orderNo, dueAt⟩] := by
    rcases hrow.enqueued with ⟨-, found, hfound, hentries⟩ | ⟨hdown | ⟨error, hrefused⟩, -⟩
    · rw [hentries, Option.some.inj (hfound.symm.trans hafter)]
    · simp [World.isDown, h.tended.calm.outages] at hdown
    · cases hrefused.symm.trans (Queue.enqueue_eq_ok_iff.2 ⟨hdelay, dueAt, hafter, rfl⟩)
  constructor
  · exact h.tended.placed hrow.calm hrow.later hrow.placed hqueue
  · intro entry hmem
    rw [hqueue] at hmem
    rcases List.mem_append.1 hmem with hold | hnew
    · exact h.due entry hold
    · rwa [List.mem_singleton.1 hnew]

/-- **All tasks of a run are due one window after its end.** -/
theorem Runs.closable (h : Runs config clock line records before after lines orders)
    (hbefore : before.Closable seed deadline) (hdelay : config.closeAfter ≤ Queue.longestDelay)
    (hwindow : ∀ n, ∃ dueAt, (clock.stamp n).now.after? config.closeAfter = some dueAt ∧
      dueAt.isAtMost deadline = true) : after.Closable seed deadline :=
  h.keeps (P := Closable seed deadline) hbefore
    (fun hclosable hrow => hclosable.carriedOut hrow hdelay hwindow)
    fun hclosable hrow => hclosable.passedOver hrow

/-- The orders of a run are pending. -/
theorem Runs.pending (h : Runs config clock line records before after lines orders) :
    ∀ order ∈ orders, order.status = .pending := by
  induction h with
  | nil => exact List.forall_mem_nil _
  | carriedOut _ hrow _ ih => exact List.forall_mem_cons.2 ⟨hrow.placed.pending, ih⟩
  | passedOver _ _ _ ih => exact ih

/-! ### Closing -/

/-- **Closing what is not paid cancels the pending orders** when all their tasks are due. -/
theorem closeUnpaid_eq (h : progress.Closable seed deadline) (hfits : seed.Fits)
    (hpending : ∀ order ∈ progress.world.store.orders.rows, order.status = .pending)
    (hdeadline : clock.finish.after? config.closeAfter = some deadline) :
    ∃ closed report, progress.closeUnpaid config clock = .ok closed ∧
      closed.world.store.orders.rows =
        progress.world.store.orders.rows.map (·.withStatus .cancelled) ∧
      closed.log = .workerDone report :: progress.log := by
  obtain ⟨store, hrun, -, hclosings, hdone⟩ := Expiry.run_runDue h.tended.calm h.tended.solvent
    hfits deadline clock.finish h.tended.tasks
  refine ⟨_, _, by simp only [closeUnpaid, hdeadline, perform, hrun]; rfl, ?_, rfl⟩
  obtain ⟨f, hrows, hf⟩ := hclosings.cancels
  rw [hrows]
  refine List.map_congr_left fun order hmem => (hf order hmem).resolve_left fun hsame => ?_
  -- An order that stays as it was is pending, but none is.
  have hstored : store.orders.find? order.orderNo = some order :=
    Table.find?_of_mem (hrows ▸ hsame ▸ List.mem_map_of_mem hmem)
  exact h.tended.not_pending_of_done hclosings.settles hdone h.due _ order hstored
    (hpending order hmem)

end Progress

end CommandLine

end OrderDesk
