import OrderDesk.Proofs.CommandLine.Rows

/-!
# Rows that may be left out

A row that was passed over has left the store as it was, so the rows behind it do not notice
when it is left out. They find a store that is alike, whatever the times are and the numbers for
the orders, as long as these coincide for the same orders: then a number is free in both stores or
taken in both (`Progress.Alike.contains_iff`), and the row ends alike (`Progress.row_alike`). By
induction over the rows, a run without some of the rows that were passed over comes to a store
that is alike (`Progress.Runs.without`).
-/

namespace OrderDesk.CommandLine

open Delimited

/-- The order numbers of two clocks coincide for the same orders. So do those of one clock, and
those of two clocks that never give a number twice. -/
def Clock.NumbersLike (clock other : Clock) : Prop :=
  ∀ m n, (clock.stamp m).orderNo = (clock.stamp n).orderNo ↔
    (other.stamp m).orderNo = (other.stamp n).orderNo

namespace Progress

variable {config : Config} {clock clock' : Clock} {line line' : Nat}
  {record : Except OrderError RequestRecord} {records : List (Except OrderError RequestRecord)}
  {before middle after other : Progress} {order : Order} {lines erased : List Nat}
  {orders : List Order}

/-- Nothing goes wrong, and the orders have the first numbers of a clock. -/
structure Numbered (clock : Clock) (progress : Progress) : Prop where
  calm : progress.world.Calm
  numbers : progress.world.store.orders.rows.map Order.orderNo =
    (List.range progress.made).map fun n => (clock.stamp n).orderNo

/-- Two runs have come equally far. -/
structure Alike (first second : Progress) : Prop where
  store : first.world.store.Alike second.world.store
  made : first.made = second.made

namespace Numbered

theorem carriedOut (h : before.Numbered clock)
    (hrow : before.CarriesOut config clock record after order) : after.Numbered clock where
  calm := hrow.calm
  numbers := by
    rw [hrow.placed.orders, Table.rows_put_of_absent hrow.placed.absent, List.map_append, h.numbers,
      hrow.made, List.range_succ, List.map_append, List.map_singleton, List.map_singleton,
      hrow.orderNo]

theorem passedOver (h : before.Numbered clock) (hrow : before.Skips after line) :
    after.Numbered clock where
  calm := hrow.calm h.calm
  numbers := by rw [hrow.store, hrow.made, h.numbers]

/-- Every row keeps the numbers. -/
theorem row (h : before.Numbered clock)
    (hrow : before.row config clock line record = .ok after) : after.Numbered clock := by
  have hends := row_cases h.calm config clock line record
  rw [hrow] at hends
  rcases hends with ⟨order, hcarried⟩ | hskipped
  · exact h.carriedOut hcarried
  · exact h.passedOver hskipped

/-- The number for the next order is taken when the clock has given it before. -/
theorem contains_iff (h : before.Numbered clock) :
    before.world.store.orders.contains (clock.stamp before.made).orderNo = true ↔
      ∃ n < before.made, (clock.stamp n).orderNo = (clock.stamp before.made).orderNo := by
  rw [Table.contains_iff, h.numbers]
  simp

end Numbered

/-- In runs that have come equally far, the next number is free in both or taken in both. -/
theorem Alike.contains_eq (h : before.Alike other) (hbefore : before.Numbered clock)
    (hother : other.Numbered clock') (hnumbers : clock'.NumbersLike clock) :
    before.world.store.orders.contains (clock.stamp before.made).orderNo =
      other.world.store.orders.contains (clock'.stamp other.made).orderNo := by
  rw [Bool.eq_iff_iff, hbefore.contains_iff, hother.contains_iff, h.made]
  simp only [hnumbers _ _]

/-- **A row ends alike** in runs that have come equally far. -/
theorem row_alike (h : before.Alike other) (hbefore : before.Numbered clock)
    (hother : other.Numbered clock') (hnumbers : clock'.NumbersLike clock)
    (hrow : before.row config clock line record = .ok middle) (line' : Nat) :
    ∃ middle', other.row config clock' line' record = .ok middle' ∧ middle.Alike middle' := by
  unfold Progress.row at hrow ⊢
  cases hrequest : record.bind RequestRecord.toRequest with
  | error error =>
    rw [hrequest] at hrow
    obtain rfl := Except.ok.inj hrow
    exact ⟨_, rfl, h.store, h.made⟩
  | ok asked =>
    obtain ⟨user, request⟩ := asked
    simp only [hrequest, Progress.request] at hrow ⊢
    let world : World := { before.world with now := (clock.stamp before.made).now }
    let world' : World := { other.world with now := (clock'.stamp other.made).now }
    have hcalm : world.Calm := ⟨hbefore.calm.outages, hbefore.calm.races⟩
    have hcalm' : world'.Calm := ⟨hother.calm.outages, hother.calm.races⟩
    have hends := @Submission.run_submit_alike _ _ world world' hcalm hcalm' h.store
      (h.contains_eq hbefore hother hnumbers) config
      ((other.world.store.users.find? user).map User.id) request
    rw [h.store.users] at hrow
    rcases hends with ⟨last, last', hdone, hdone', halike⟩ |
      ⟨failure, failure', hfailure, hdone, hdone'⟩
    · simp only [world, world'] at hdone hdone'
      rw [hdone] at hrow
      rw [hdone']
      obtain rfl := Except.ok.inj hrow
      exact ⟨_, rfl, halike, by simp only [h.made]⟩
    · simp only [world, world'] at hdone hdone'
      rw [hdone] at hrow
      rw [hdone']
      cases hfailure with
      | refused error error' =>
        obtain rfl := Except.ok.inj hrow
        exact ⟨_, rfl, h.store, h.made⟩
      | stopped overflow => cases hrow

/-- **Rows that were passed over may be left out.** The run over the others comes equally far. -/
theorem Runs.without (h : Runs config clock line records before after lines orders)
    (hbefore : before.Numbered clock) (hother : other.Numbered clock') (halike : before.Alike other)
    (hnumbers : clock'.NumbersLike clock) (herased : ∀ n ∈ erased, line ≤ n → n ∈ lines)
    (line' : Nat) :
    ∃ after', other.rows config clock' line' (without erased line records) = .ok after' ∧
      after.Alike after' := by
  induction h generalizing other line' with
  | nil => exact ⟨other, rfl, halike⟩
  | @carriedOut line record records before middle after order lines orders hrow hcarried hrest ih =>
    have hkept : line ∉ erased := fun hmem =>
      Nat.lt_irrefl line (hrest.le line (herased line hmem (Nat.le_refl line)))
    obtain ⟨middle', hrow', hmiddle⟩ := row_alike halike hbefore hother hnumbers hrow line'
    obtain ⟨after', hrows, hafter⟩ := ih (hbefore.row hrow) (hother.row hrow') hmiddle
      (fun n hmem hle => herased n hmem (Nat.le_of_succ_le hle)) (line' + 1)
    rw [Delimited.without, if_neg hkept]
    exact ⟨after', Result.bind_eq_ok_iff.2 ⟨middle', hrow', hrows⟩, hafter⟩
  | @passedOver line record records before middle after lines orders hrow hskipped hrest ih =>
    have hlater : ∀ n ∈ erased, line + 1 ≤ n → n ∈ lines := fun n hmem hle =>
      (List.mem_cons.1 (herased n hmem (Nat.le_of_succ_le hle))).resolve_left
        (Nat.ne_of_gt hle)
    rw [Delimited.without]
    split
    · have hmiddle : middle.Alike other :=
        ⟨hskipped.store ▸ halike.store, hskipped.made.trans halike.made⟩
      exact ih (hbefore.row hrow) hother hmiddle hlater line'
    · obtain ⟨middle', hrow', hmiddle⟩ := row_alike halike hbefore hother hnumbers hrow line'
      obtain ⟨after', hrows, hafter⟩ := ih (hbefore.row hrow) (hother.row hrow') hmiddle hlater
        (line' + 1)
      exact ⟨after', Result.bind_eq_ok_iff.2 ⟨middle', hrow', hrows⟩, hafter⟩

end Progress

end OrderDesk.CommandLine
