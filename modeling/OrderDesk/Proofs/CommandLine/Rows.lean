import OrderDesk.CommandLine.Run
import OrderDesk.Proofs.Delimited.Cutting
import OrderDesk.Proofs.Desk.References
import OrderDesk.Proofs.Submission.Renumbering

/-!
# What a run makes of its rows

A row is carried out, or it is passed over. A row that is carried out places one order, which
answers its request (`Progress.CarriesOut`). One that is passed over leaves an entry in the log
with its line, and nothing else (`Progress.Skips`). No row does anything else, unless the run
stops at an overflow (`Progress.row_cases`). So a run over rows comes to a list of orders and a
list of lines: the orders answer the rows which are not at those lines (`Progress.Runs`).
-/

namespace OrderDesk

/-- The line of a row that was passed over, if an entry of the log is about one. -/
def LogRecord.refusedLine? : LogRecord → Option Nat
  | .malformedRow line _ | .rejected line _ _ => some line
  | .noDatabase | .workerDone _ => none

/-- The order is what the request of a row asks for, and its user is known. -/
def Order.Answers (order : Order) (known : UserId → Prop)
    (record : Except OrderError RequestRecord) : Prop :=
  ∃ user request, record.bind RequestRecord.toRequest = .ok (user, request) ∧ known user ∧
    order.userId = user ∧ order.kind = request.kind ∧
    order.coupon = Submission.codeOfRequest request

theorem Order.Answers.mono {order : Order} {known known' : UserId → Prop}
    {record : Except OrderError RequestRecord} (h : order.Answers known record)
    (hknown : ∀ id, known id → known' id) : order.Answers known' record := by
  obtain ⟨user, request, hrequest, huser, hfields⟩ := h
  exact ⟨user, request, hrequest, hknown user huser, hfields⟩

namespace CommandLine

open Delimited

namespace Progress

variable {config : Config} {clock : Clock} {line : Nat}
  {record : Except OrderError RequestRecord} {records : List (Except OrderError RequestRecord)}
  {before after : Progress} {order : Order} {lines : List Nat} {orders : List Order}

/-! ### One row -/

/-- A row is passed over: the log tells its line, and only the clock of the queue may have moved. -/
structure Skips (before after : Progress) (line : Nat) : Prop where
  world : ∃ now, after.world = { before.world with now }
  made : after.made = before.made
  log : ∃ entry, after.log = entry :: before.log ∧ entry.refusedLine? = some line

/-- A row is carried out: it places an order, with its task in the queue. -/
structure CarriesOut (config : Config) (clock : Clock) (before : Progress)
    (record : Except OrderError RequestRecord) (after : Progress) (order : Order) : Prop where
  answers : order.Answers (fun user => before.world.store.users.contains user = true) record
  orderNo : order.orderNo = (clock.stamp before.made).orderNo
  calm : after.world.Calm
  placed : order.Placed before.world.store after.world.store
  later : before.world.store.Later after.world.store
  enqueued : { before.world with now := (clock.stamp before.made).now }.Enqueued after.world
    (Task.closeOrder order.orderNo) config.closeAfter
  made : after.made = before.made + 1
  log : after.log = before.log

/-- **A row is carried out or passed over**, unless the run stops at an overflow. -/
theorem row_cases (hcalm : before.world.Calm) (config : Config) (clock : Clock) (line : Nat)
    (record : Except OrderError RequestRecord) :
    match before.row config clock line record with
    | .ok after =>
      (∃ order, before.CarriesOut config clock record after order) ∨ before.Skips after line
    | .error trouble => ∃ overflow, trouble = .stopped overflow := by
  unfold row
  cases hrequest : record.bind RequestRecord.toRequest with
  | error error => exact .inr ⟨⟨before.world.now, rfl⟩, rfl, _, rfl, rfl⟩
  | ok asked =>
    obtain ⟨user, request⟩ := asked
    let world : World := { before.world with now := (clock.stamp before.made).now }
    have hworld : world.Calm := ⟨hcalm.outages, hcalm.races⟩
    let session := (before.world.store.users.find? user).map User.id
    have hends := Submission.run_submit_by_rules hworld config (clock.stamp before.made) session
      request
    simp only [Progress.request]
    cases hbroken : Submission.firstBroken (Submission.rules config world.store session
        (clock.stamp before.made).orderNo request) with
    | some rule =>
      rw [hbroken] at hends
      simp only [world, session] at hends
      rw [hends]
      cases rule.failure with
      | refused error => exact .inr ⟨⟨_, rfl⟩, rfl, _, rfl, rfl⟩
      | stopped overflow => exact ⟨overflow, rfl⟩
    | none =>
      rw [hbroken] at hends
      obtain ⟨f, after, hprepared, hcommit, henqueued, hdone⟩ := hends
      simp only [world, session] at hdone
      rw [hdone]
      have hsession := hprepared.session_eq
      obtain ⟨found, hfound, hid⟩ := Option.map_eq_some_iff.1 hsession
      obtain rfl : found.id = user := Table.key_of_find? hfound
      refine .inl ⟨f.order, ?_⟩
      exact {
        answers := ⟨found.id, request, hrequest, Option.isSome_iff_exists.2 ⟨found, hfound⟩,
          hid.symm, hprepared.kind_eq, hprepared.coupon_eq⟩
        orderNo := hprepared.orderNo_eq
        calm := by
          have hafter := hworld.run (submit config (clock.stamp before.made) session request)
          simp only [world, session] at hafter
          rwa [hdone] at hafter
        placed := Fulfillment.placed_of_commit hprepared.sound_of_still hcommit
        later := Store.later_of_commit hcommit
        enqueued := hprepared.orderNo_eq ▸ henqueued
        made := rfl
        log := rfl }

/-! ### All rows -/

/-- A run over rows from a line on, with the lines that were passed over and the orders of the other
rows. -/
inductive Runs (config : Config) (clock : Clock) : Nat → List (Except OrderError RequestRecord) →
    Progress → Progress → List Nat → List Order → Prop
  | nil (line : Nat) (progress : Progress) : Runs config clock line [] progress progress [] []
  | carriedOut {line : Nat} {record : Except OrderError RequestRecord}
    {records : List (Except OrderError RequestRecord)} {before middle after : Progress}
    {order : Order} {lines : List Nat} {orders : List Order}
    (hrow : before.row config clock line record = .ok middle)
    (h : before.CarriesOut config clock record middle order)
    (hrest : Runs config clock (line + 1) records middle after lines orders) :
    Runs config clock line (record :: records) before after lines (order :: orders)
  | passedOver {line : Nat} {record : Except OrderError RequestRecord}
    {records : List (Except OrderError RequestRecord)} {before middle after : Progress}
    {lines : List Nat} {orders : List Order}
    (hrow : before.row config clock line record = .ok middle)
    (h : before.Skips middle line)
    (hrest : Runs config clock (line + 1) records middle after lines orders) :
    Runs config clock line (record :: records) before after (line :: lines) orders

/-- No user comes or goes when an order is placed. -/
theorem CarriesOut.contains_user (h : before.CarriesOut config clock record after order)
    (id : UserId) :
    after.world.store.users.contains id = before.world.store.users.contains id := by
  rw [Table.contains, Table.contains, h.placed.gift.users, Option.isSome_map]

theorem Skips.calm (h : before.Skips after line) (hcalm : before.world.Calm) :
    after.world.Calm := by
  obtain ⟨now, hworld⟩ := h.world
  rw [hworld]
  exact ⟨hcalm.outages, hcalm.races⟩

theorem Skips.store (h : before.Skips after line) : after.world.store = before.world.store := by
  obtain ⟨now, hworld⟩ := h.world
  rw [hworld]

/-- **How the rows of a file end**: in a run over them all, unless it stops at an overflow. -/
theorem rows_cases (hcalm : before.world.Calm) (config : Config) (clock : Clock) (line : Nat)
    (records : List (Except OrderError RequestRecord)) :
    match before.rows config clock line records with
    | .ok after => ∃ lines orders, Runs config clock line records before after lines orders
    | .error trouble => ∃ overflow, trouble = .stopped overflow := by
  induction records generalizing before line with
  | nil => exact ⟨[], [], .nil line before⟩
  | cons record rest ih =>
    have hfirst := row_cases hcalm config clock line record
    simp only [Progress.rows, bind, Except.bind]
    cases hrow : before.row config clock line record with
    | error trouble =>
      rw [hrow] at hfirst
      exact hfirst
    | ok middle =>
      rw [hrow] at hfirst
      have hmiddle : middle.world.Calm := by
        rcases hfirst with ⟨order, hcarried⟩ | hskipped
        · exact hcarried.calm
        · exact hskipped.calm hcalm
      have hends := ih hmiddle (line + 1)
      simp only
      cases hrows : middle.rows config clock (line + 1) rest with
      | error trouble =>
        rw [hrows] at hends
        exact hends
      | ok after =>
        rw [hrows] at hends
        obtain ⟨lines, orders, hruns⟩ := hends
        rcases hfirst with ⟨order, hcarried⟩ | hskipped
        · exact ⟨lines, order :: orders, .carriedOut hrow hcarried hruns⟩
        · exact ⟨line :: lines, orders, .passedOver hrow hskipped hruns⟩

namespace Runs

theorem rows (h : Runs config clock line records before after lines orders) :
    before.rows config clock line records = .ok after := by
  induction h with
  | nil => rfl
  | carriedOut hrow _ _ ih => exact Result.bind_eq_ok_iff.2 ⟨_, hrow, ih⟩
  | passedOver hrow _ _ ih => exact Result.bind_eq_ok_iff.2 ⟨_, hrow, ih⟩

/-- What every row keeps, all rows keep. -/
theorem keeps {P : Progress → Prop} (h : Runs config clock line records before after lines orders)
    (hbefore : P before)
    (hcarried : ∀ {record before after order}, P before →
      CarriesOut config clock before record after order → P after)
    (hskipped : ∀ {line before after}, P before → Skips before after line → P after) :
    P after := by
  induction h with
  | nil => exact hbefore
  | carriedOut _ hrow _ ih => exact ih (hcarried hbefore hrow)
  | passedOver _ hrow _ ih => exact ih (hskipped hbefore hrow)

/-- The log tells the lines that were passed over. -/
theorem refusedLines (h : Runs config clock line records before after lines orders) :
    after.log.reverse.filterMap LogRecord.refusedLine? =
      before.log.reverse.filterMap LogRecord.refusedLine? ++ lines := by
  induction h with
  | nil => exact (List.append_nil _).symm
  | carriedOut _ hrow _ ih => rw [ih, hrow.log]
  | passedOver _ hrow _ ih =>
    obtain ⟨entry, hlog, hline⟩ := hrow.log
    rw [ih, hlog, List.reverse_cons, List.filterMap_append, List.filterMap_cons_some hline,
      List.filterMap_nil, List.append_assoc, List.singleton_append]

/-- Lines are counted on from the first one. -/
theorem le (h : Runs config clock line records before after lines orders) :
    ∀ n ∈ lines, line ≤ n := by
  induction h with
  | nil => exact List.forall_mem_nil _
  | carriedOut _ _ _ ih => exact fun n hmem => Nat.le_of_succ_le (ih n hmem)
  | passedOver _ _ _ ih =>
    intro n hmem
    rcases List.mem_cons.1 hmem with rfl | hlater
    · exact Nat.le_refl n
    · exact Nat.le_of_succ_le (ih n hlater)

/-- The orders are added to the ones that were there. -/
theorem rows_eq (h : Runs config clock line records before after lines orders) :
    after.world.store.orders.rows = before.world.store.orders.rows ++ orders := by
  induction h with
  | nil => exact (List.append_nil _).symm
  | carriedOut _ hrow _ ih =>
    rw [ih, hrow.placed.orders, Table.rows_put_of_absent hrow.placed.absent, List.append_assoc,
      List.singleton_append]
  | passedOver _ hrow _ ih => rw [ih, hrow.store]

/-- **The orders answer the rows** that were not passed over, one after the other. -/
theorem answers {known : UserId → Prop}
    (h : Runs config clock line records before after lines orders)
    (hknown : ∀ id, before.world.store.users.contains id = true → known id) :
    (without lines line records).Forall₂ (fun record order => order.Answers known record)
      orders := by
  induction h with
  | nil => exact .nil
  | carriedOut _ hrow hrest ih =>
    have hkept : ¬_ ∈ _ := fun hmem => Nat.lt_irrefl _ (hrest.le _ hmem)
    rw [without, if_neg hkept]
    refine .cons (hrow.answers.mono hknown) (ih fun id hid => hknown id ?_)
    rwa [hrow.contains_user] at hid
  | passedOver _ hrow _ ih =>
    rw [without, if_pos List.mem_cons_self, without_of_lt (Nat.lt_succ_self _)]
    refine ih fun id hid => hknown id ?_
    rwa [hrow.store] at hid

/-- A row is at a line that was passed over, or it has an answer. -/
theorem mem_or_answers {known : UserId → Prop}
    (h : Runs config clock line records before after lines orders)
    (hknown : ∀ id, before.world.store.users.contains id = true → known id) {i : Nat}
    (hrecord : records[i]? = some record) :
    line + i ∈ lines ∨ ∃ order : Order, order.Answers known record := by
  induction h generalizing i with
  | nil => cases hrecord
  | carriedOut _ hrow _ ih =>
    cases i with
    | zero => exact .inr ⟨_, Option.some.inj hrecord ▸ hrow.answers.mono hknown⟩
    | succ i =>
      rw [← Nat.add_assoc, Nat.add_right_comm]
      refine ih (fun id hid => hknown id ?_) hrecord
      rwa [hrow.contains_user] at hid
  | passedOver _ hrow _ ih =>
    cases i with
    | zero => exact .inl List.mem_cons_self
    | succ i =>
      rw [← Nat.add_assoc, Nat.add_right_comm]
      have hlater := ih (fun id hid => hknown id (hrow.store ▸ hid)) hrecord
      exact hlater.imp_left (List.mem_cons_of_mem _)

end Runs

end Progress

end CommandLine

end OrderDesk
