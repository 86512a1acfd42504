import OrderDesk.Proofs.Order.Closing
import OrderDesk.Proofs.Submission.Preparation

/-!
# What clients of the desk do to the store

A client submits requests, closes orders, pays them or works off the queue. Whatever others do
between two of its calls, also when they put plans in anew, what it commits places, closes or
pays an order, and nothing else that it does changes the store (`Conduct.desk`).

An order that is placed meets every condition that the orders made by `Submission.prepare` meet,
in the store where it is placed (`submit_conforms`).
-/

namespace OrderDesk

open Program

/-! ### The conduct -/

/-- A call of a client of the desk: it reads, it uses the queue, or it commits what places, closes
or pays an order when it goes through. An order that is placed meets a condition. -/
inductive Call.Trades (P : Order → Prop) (store : Store) : Call → Prop
  | reading {c : Call} (h : c.isReading) : Trades P store c
  | enqueue (task : Task) (delay : Nat) : Trades P store (.enqueue task delay)
  | takeDue (now : Instant) : Trades P store (.takeDue now)
  | commit {writes : List Write}
    (h : ∀ after, store.commit writes = .ok after → store.Change P after) :
    Trades P store (.commit writes)

variable {P : Order → Prop}

theorem Call.Trades.mono {Q : Order → Prop} {store : Store} {c : Call} (h : c.Trades P store)
    (hPQ : ∀ order, P order → Q order) : c.Trades Q store := by
  cases h with
  | reading hread => exact .reading hread
  | enqueue task delay => exact .enqueue task delay
  | takeDue now => exact .takeDue now
  | commit hchange => exact .commit fun after hcommit => (hchange after hcommit).mono hPQ

/-- The queue and the store are apart. -/
theorem Call.Answers.of_queue {c : Call} {before after : Store} {reply : c.Reply}
    (h : c.Answers before reply after) (hservice : c.service = .enqueue ∨ c.service = .takeDue) :
    after = before := by
  obtain ⟨-, hafter⟩ | ⟨world, world', rfl, hserve, rfl⟩ := h.cases
  · exact hafter
  · cases c with
    | enqueue task delay =>
      simp only [World.serve] at hserve
      split at hserve <;> rw [← (Prod.mk.inj hserve).2]
    | takeDue now => rw [← (Prod.mk.inj hserve).2]
    | _ => simp [Call.service] at hservice

/-- What a call of a client changes. -/
theorem Call.Trades.change {c : Call} {before after : Store} {reply : c.Reply}
    (h : c.Trades P before) (hanswer : c.Answers before reply after) :
    after = before ∨ before.Later after ∧ before.Change P after := by
  cases h with
  | reading hread => exact .inl (hanswer.eq_of_isReading hread)
  | enqueue task delay => exact .inl (hanswer.of_queue (.inl rfl))
  | takeDue now => exact .inl (hanswer.of_queue (.inr rfl))
  | commit hchange =>
    obtain hcommit | hafter := hanswer.of_commit
    · exact .inr ⟨Store.later_of_commit hcommit, hchange _ hcommit⟩
    · exact .inl hafter

/-- What clients of the desk keep to. -/
def Conduct.desk (P : Order → Prop) : Conduct where
  rely := .updating
  Allows store c := c.Trades P store
  keeps h hanswer := by
    obtain rfl | ⟨hlater, -⟩ := h.change hanswer
    · exact Store.Updated.refl _
    · exact hlater.updated

/-- What clients of the desk keep to when the condition on an order is one on the store as well, in
which the order is placed. -/
def Conduct.deskIn (P : Store → Order → Prop) : Conduct where
  rely := .updating
  Allows store c := c.Trades (P store) store
  keeps := @fun before _ _ _ h hanswer => (Conduct.desk (P before)).keeps h hanswer

/-- A program whose calls are those of a client of the desk, whatever others do meanwhile. -/
def Program.Trades {α : Type} (program : Program α) (P : Order → Prop) (known : Store) : Prop :=
  program.Conforms (.desk P) (fun _ _ => True) known

variable {known : Store}

/-- A program that places no order keeps to every condition on the orders that are placed. -/
theorem Program.Trades.deskIn {α : Type} {program : Program α} {P : Store → Order → Prop}
    (h : program.Trades (fun _ => False) known) :
    program.Conforms (.deskIn P) (fun _ _ => True) known :=
  h.mono rfl (fun _ _ hcall => hcall.mono fun _ => False.elim) fun _ _ => id

theorem transaction_conforms {P : Store → Order → Prop} {context : String} {writes : List Write}
    (h : ∀ store after, known.Updated store → store.commit writes = .ok after →
      store.Change (P store) after) :
    (Program.transaction context (.ok writes)).Conforms (.deskIn P) (fun _ _ => True) known := by
  refine conforms_check fun _ hwrites => ?_
  obtain rfl := Except.ok.inj hwrites
  refine conforms_bind_any (conforms_perform fun store hstore => ?_) fun reply _ _ => ?_
  · exact ⟨.commit fun after hcommit => h store after hstore hcommit, fun _ _ _ => trivial⟩
  · cases reply <;> trivial

theorem transaction_trades {context : String} {writes : List Write}
    (h : ∀ store after, known.Updated store → store.commit writes = .ok after →
      store.Change P after) :
    (Program.transaction context (.ok writes)).Trades P known :=
  transaction_conforms (P := fun _ => P) h

/-! ### Submitting -/

theorem scheduleClose_trades (config : Config) (orderNo : OrderNo) :
    (Expiry.scheduleClose config orderNo).Trades P known := by
  refine conforms_bind_any (conforms_perform fun store _ => ?_) fun reply _ _ => ?_
  · exact ⟨.enqueue _ _, fun _ _ _ => trivial⟩
  · cases reply <;> trivial

theorem place_conforms {P : Store → Order → Prop} {config : Config} {now : Instant}
    {f : Fulfillment} (h : f.Sound known)
    (hmeets : ∀ store, known.Updated store → P store f.order) :
    (Submission.place config now f).Conforms (.deskIn P) (fun _ _ => True) known := by
  have hstore : (f.store now).Conforms (.deskIn P) (fun _ _ => True) known := by
    refine conforms_bind_any (transaction_conforms fun store after hstore hcommit => ?_)
      fun _ _ _ => trivial
    exact .placed f.order (hmeets store hstore)
      (Fulfillment.placed_of_commit (h.later hstore) hcommit)
  refine conforms_bind_any hstore fun order last _ => ?_
  have hschedule : (Expiry.scheduleClose config order.orderNo).Conforms (.deskIn P)
      (fun _ _ => True) last :=
    (scheduleClose_trades (P := fun _ => False) config order.orderNo).deskIn
  exact conforms_bind_any hschedule fun _ _ _ => trivial

/-- Submitting places an order that meets a condition, if every order does that is prepared for the
request, in the store that it was prepared from and in what others make of that. -/
theorem submit_conforms {P : Store → Order → Prop} {config : Config} {stamp : Submission.Stamp}
    {session : Option UserId} {request : Request}
    (hmeets : ∀ store f, Submission.Prepared .updating config stamp session store request f →
      ∀ later, store.Updated later → P later f.order) :
    (submit config stamp session request).Conforms (.deskIn P) (fun _ _ => True) known := by
  have hprepare : (Submission.prepare config stamp session request).Conforms (.deskIn P)
      (fun f store => Submission.Prepared .updating config stamp session store request f) known :=
    (Submission.prepare_conforms request).mono rfl (fun _ _ hread => .reading hread)
      fun _ _ hprepared => hprepared
  refine conforms_bind hprepare fun f store _ hprepared => ?_
  exact place_conforms (hprepared.sound fun _ _ => id) (hmeets store f hprepared)

/-! ### Closing -/

namespace Expiry

/-- What is worked out to be given back is what the order took. -/
theorem refund_conforms (order : Order) :
    (refund? order).Conforms (.desk P) (fun refund _ => GivesBack order refund) known := by
  unfold refund?
  split
  · rename_i hgift
    refine conforms_bind_any (conforms_perform fun _ _ => ⟨.reading rfl, fun _ _ _ => trivial⟩)
      fun reply _ _ => ?_
    refine conforms_read fun user _ => ?_
    cases user with
    | none => trivial
    | some user =>
      refine conforms_compute fun after hafter => ⟨hgift, ?_⟩
      rw [Failure.ofOverflow, Result.mapError_eq_ok_iff] at hafter
      exact (Amount.add_eq_ok_iff.1 hafter).2
  · rename_i hgift
    exact Int.not_lt.1 hgift

theorem closePending_trades {order : Order} {orderNo : OrderNo} {now : Instant}
    (hpending : order.status = .pending) (hfound : known.orders.find? orderNo = some order) :
    (closePending order orderNo now).Trades P known := by
  refine conforms_bind (refund_conforms order) fun refund store hstore hrefund => ?_
  refine conforms_bind_any (transaction_trades fun last after hlast hcommit => ?_)
    fun _ _ _ => trivial
  have hstored := (Store.Updated.trans hstore hlast).orders orderNo order hfound
  exact .closed order (closed_of_commit hpending hstored hrefund hcommit)

theorem close_trades (orderNo : OrderNo) (now : Instant) : (close orderNo now).Trades P known := by
  have hcall : (perform (.getOrder orderNo)).Conforms (.desk P)
      (fun reply store => ∀ order, reply = .ok order → store.orders.find? orderNo = order) known :=
    conforms_perform_reading rfl (fun _ => .reading rfl) fun _ _ hserve =>
      Except.ok.inj (Except.ok.inj (Prod.mk.inj hserve).1)
  refine conforms_bind hcall fun reply store _ hstore => ?_
  refine conforms_read fun found hfound => ?_
  cases found with
  | none => trivial
  | some order =>
    dsimp only
    split
    · trivial
    · trivial
    · rename_i hpending
      exact closePending_trades hpending (hstore _ hfound)

theorem handle_trades (task : Task) (now : Instant) : (handle task now).Trades P known := by
  unfold handle
  split
  · trivial
  · exact close_trades _ now

theorem handleWithin_trades (task : Task) (now : Instant) (attempts : Nat) :
    (handleWithin task now attempts).Trades P known := by
  induction attempts generalizing known with
  | zero => trivial
  | succ attempts ih =>
    refine conforms_bind_any (handle_trades task now).attempt fun ended _ _ => ?_
    cases ended with
    | ok _ => trivial
    | error _ => exact ih

theorem runTasks_trades (now : Instant) (report : WorkerReport) (entries : List QueuedTask) :
    (runTasks now report entries).Trades P known := by
  induction entries generalizing known report with
  | nil => trivial
  | cons entry rest ih =>
    refine conforms_bind_any ?_ fun done _ _ => ih _
    unfold runTask
    split
    · exact handleWithin_trades entry.task now _
    · trivial

theorem runDue_trades (deadline now : Instant) : (runDue deadline now).Trades P known := by
  refine conforms_bind_any (conforms_perform fun _ _ => ⟨.takeDue _, fun _ _ _ => trivial⟩)
    fun reply _ _ => ?_
  cases reply with
  | ok entries => exact runTasks_trades now _ entries
  | error _ => trivial

end Expiry

end OrderDesk
