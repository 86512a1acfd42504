import OrderDesk.Proofs.Expiry.Handling
import OrderDesk.Proofs.Program.Faults

/-!
# Attempts at a task

The worker tries a task until an attempt comes out well, some times at most. Any of the calls that an
attempt makes may fail; the attempt then gives up with nothing changed (`Expiry.handle_givesUp`). So
whatever calls fail, attempts fail and change nothing up to the first that comes out well, and that
one ends as a handling does where nothing fails (`Expiry.runAmid_attempts`). What the worker is told
of a task is therefore what one handling would tell it, unless no attempt was spared by the failures
(`Expiry.runAmid_runTask_cases`).
-/

namespace OrderDesk.Expiry

variable {world : World}

/-! ### An attempt -/

theorem closePending_givesUp (order : Order) (orderNo : OrderNo) (now : Instant) :
    (closePending order orderNo now).GivesUp := by
  have hcommit : ∀ refund, (Program.transaction "close order"
      (.ok (closeWrites order orderNo now refund)) >>= fun _ =>
        pure CloseOutcome.cancelled).GivesUp := by
    intro refund
    refine ⟨⟨_, rfl⟩, .inr ?_⟩
    intro reply
    cases reply <;> trivial
  unfold closePending refund?
  split
  · refine ⟨⟨_, rfl⟩, .inl ⟨rfl, ?_⟩⟩
    intro reply
    cases reply with
    | error cause => trivial
    | ok found =>
      cases found with
      | none => trivial
      | some user =>
        show ((Program.compute (Failure.ofOverflow (Amount.add user.giftAmount order.giftAmount)) >>=
          fun after => Program.done (some (⟨user.giftAmount, after⟩ : Refund))) >>= _).GivesUp
        cases Amount.add user.giftAmount order.giftAmount with
        | error overflow => trivial
        | ok after => exact hcommit _
  · exact hcommit none

/-- **A handling gives up** at the first call that is not answered, with nothing changed. -/
theorem handle_givesUp (task : Task) (now : Instant) : (handle task now).GivesUp := by
  unfold handle
  split
  · trivial
  · refine ⟨⟨_, rfl⟩, .inl ⟨rfl, ?_⟩⟩
    intro reply
    cases reply with
    | error cause => trivial
    | ok found =>
      cases found with
      | none => trivial
      | some order =>
        simp only [Program.andThen, Program.read_ok_bind]
        cases order.status with
        | cancelled => trivial
        | paid => trivial
        | pending => exact closePending_givesUp _ _ now

/-! ### Attempts one after the other -/

/-- How the attempts at a task end, one by one, up to the first that comes out well. -/
def attemptsWithin (task : Task) (now : Instant) :
    Nat → Program (List (Except OrderError CloseOutcome))
  | 0 => return []
  | attempts + 1 => do
    match ← (handle task now).attempt with
    | .ok outcome => return [.ok outcome]
    | .error error =>
      let rest ← attemptsWithin task now attempts
      return .error error :: rest

/-- Trying a task tells whether any of the attempts came out well. -/
theorem handleWithin_eq (task : Task) (now : Instant) (attempts : Nat) :
    handleWithin task now attempts =
      attemptsWithin task now attempts >>= fun ended => pure (ended.any Except.isOk) := by
  induction attempts with
  | zero => rfl
  | succ attempts ih =>
    simp only [handleWithin, attemptsWithin, Program.bind_eq_andThen, Program.andThen_assoc]
    apply congrArg
    funext ended
    cases ended with
    | ok outcome => rfl
    | error error =>
      simp only [ih, Program.bind_eq_andThen, Program.andThen_assoc]
      rfl

/-- An attempt that has failed. -/
def Failed (attempt : Except OrderError CloseOutcome) : Prop := ∃ error, attempt = .error error

/-- How attempts at a task end in a world. They all fail and change nothing, and if some of them
were spared by the failures, the task is one that is refused; or the last of them ends as a handling
does in that world, with an outcome or with a sum that does not fit. -/
inductive Attempted (task : Task) (now : Instant) (world : World) (spared : Prop) :
    Except Failure (List (Except OrderError CloseOutcome)) × World → Prop
  | failed {ended : List (Except OrderError CloseOutcome)} (hfailed : ∀ e ∈ ended, Failed e)
    (hspared : spared → ∃ error, (handle task now).run world = (.error (.refused error), world)) :
    Attempted task now world spared (.ok ended, world)
  | done {ended : List (Except OrderError CloseOutcome)} {outcome : CloseOutcome} {after : World}
    (hfailed : ∀ e ∈ ended, Failed e) (h : (handle task now).run world = (.ok outcome, after)) :
    Attempted task now world spared (.ok (ended ++ [.ok outcome]), after)
  | stopped {overflow : Overflow} {after : World}
    (h : (handle task now).run world = (.error (.stopped overflow), after)) :
    Attempted task now world spared (.error (.stopped overflow), after)

/-- One more attempt that has failed before the others. -/
theorem Attempted.cons {task : Task} {now : Instant} {spared spared' : Prop}
    {rest : List Bool} {error : OrderError} {attempts : Nat}
    (h : Attempted task now world spared ((attemptsWithin task now attempts).runAmid rest world).1)
    (hspared : spared' → spared ∨
      ∃ error, (handle task now).run world = (.error (.refused error), world)) :
    Attempted task now world spared'
      ((attemptsWithin task now attempts >>= fun ended =>
        pure (.error error :: ended)).runAmid rest world).1 := by
  cases hrun : (attemptsWithin task now attempts).runAmid rest world with
  | mk ending left =>
    rw [hrun] at h
    cases h with
    | failed hfailed hrefused =>
      rw [Program.runAmid_bind_of_ok hrun]
      refine .failed (List.forall_mem_cons.2 ⟨⟨error, rfl⟩, hfailed⟩) ?_
      intro hspare
      exact (hspared hspare).elim hrefused id
    | done hfailed hdone =>
      rw [Program.runAmid_bind_of_ok hrun]
      exact .done (List.forall_mem_cons.2 ⟨⟨error, rfl⟩, hfailed⟩) hdone
    | stopped hstopped =>
      rw [Program.runAmid_bind_of_error hrun]
      exact .stopped hstopped

/-- **Attempts fail and change nothing up to the first that comes out well**, whatever calls fail. If
fewer calls fail than there are attempts, one of the attempts is spared. -/
theorem runAmid_attempts (hcalm : world.Calm) (task : Task) (now : Instant) (attempts : Nat)
    (faults : List Bool) : Attempted task now world (faults.count true < attempts)
      ((attemptsWithin task now attempts).runAmid faults world).1 := by
  induction attempts generalizing faults with
  | zero => exact .failed nofun fun hcount => absurd hcount (Nat.not_lt_zero _)
  | succ attempts ih =>
    have htry := Program.runAmid_attempt (handle task now) faults world
    rw [attemptsWithin]
    rcases Program.runAmid_of_givesUp (handle_givesUp task now) hcalm faults with
      ⟨rest, hhandle, -⟩ | ⟨error, rest, hhandle, hcount⟩
    · -- This attempt is spared, so it ends as a handling does; the others matter if it is refused.
      rw [hhandle] at htry
      have htells := run_handle_tells hcalm task now
      cases hrun : (handle task now).run world with
      | mk ended after =>
        rw [hrun] at htry htells
        cases ended with
        | ok outcome =>
          rw [Program.runAmid_bind_of_ok htry]
          have hnone : ∀ e ∈ ([] : List (Except OrderError CloseOutcome)), Failed e := nofun
          exact .done hnone hrun
        | error failure =>
          cases failure with
          | refused error =>
            obtain rfl := htells.eq_of_refused
            rw [Program.runAmid_bind_of_ok htry]
            exact (ih rest).cons fun _ => .inr ⟨error, hrun⟩
          | stopped overflow =>
            rw [Program.runAmid_bind_of_error htry]
            exact .stopped hrun
    · -- This attempt has met a failure, so there is one less of them for the other attempts.
      rw [hhandle] at htry
      rw [Program.runAmid_bind_of_ok htry]
      exact (ih rest).cons fun hlt => .inl (by omega)

/-! ### Tasks -/

/-- The attempts at a task, as many as it may be tried. -/
def attempts (task : Task) (now : Instant) : Program (List (Except OrderError CloseOutcome)) :=
  attemptsWithin task now (max task.maxRetry 1)

/-- What the worker is told of a task, when nothing keeps it from being handled once. -/
def verdict : Except Failure CloseOutcome × World → Except Failure Bool × World
  | (.ok _, after) => (.ok true, after)
  | (.error (.refused _), after) => (.ok false, after)
  | (.error (.stopped overflow), after) => (.error (.stopped overflow), after)

/-- What the worker is told of the attempts at a task: whether one of them came out well. -/
def told : Except Failure (List (Except OrderError CloseOutcome)) × World →
    Except Failure Bool × World
  | (.ok ended, after) => (.ok (ended.any Except.isOk), after)
  | (.error failure, after) => (.error failure, after)

theorem any_isOk_of_failed {ended : List (Except OrderError CloseOutcome)}
    (h : ∀ e ∈ ended, Failed e) : ended.any Except.isOk = false := by
  rw [List.any_eq_false]
  intro e hmem
  obtain ⟨error, rfl⟩ := h e hmem
  exact Bool.false_ne_true

/-- **The worker is told what the handling of a task would tell it**, or no attempt was spared and
nothing has changed. -/
theorem Attempted.told_cases {task : Task} {now : Instant} {spared : Prop}
    {ending : Except Failure (List (Except OrderError CloseOutcome)) × World}
    (h : Attempted task now world spared ending) :
    told ending = verdict ((handle task now).run world) ∨
      ¬spared ∧ told ending = (.ok false, world) := by
  cases h with
  | @failed ended hfailed hrefused =>
    have htold : told (.ok ended, world) = (.ok false, world) := by
      rw [told, any_isOk_of_failed hfailed]
    by_cases hspared : spared
    · obtain ⟨error, hhandle⟩ := hrefused hspared
      refine .inl ?_
      rw [hhandle, htold, verdict]
    · exact .inr ⟨hspared, htold⟩
  | done hfailed hhandle =>
    refine .inl ?_
    rw [hhandle, told, List.any_append, any_isOk_of_failed hfailed]
    rfl
  | stopped hhandle =>
    refine .inl ?_
    rw [hhandle, told, verdict]

/-- Carrying out a task that closes an order is trying it and telling whether an attempt came out
well. -/
theorem runTask_eq {task : Task} (hkind : task.kind = Task.closeKind) (now : Instant) :
    runTask task now =
      attempts task now >>= fun ended => pure (ended.any Except.isOk) := by
  rw [runTask, if_pos hkind, handleWithin_eq, attempts]

theorem runAmid_runTask {task : Task} (hkind : task.kind = Task.closeKind) (now : Instant)
    (faults : List Bool) (world : World) :
    ((runTask task now).runAmid faults world).1 =
      told ((attempts task now).runAmid faults world).1 := by
  rw [runTask_eq hkind, Program.runAmid_bind]
  cases (attempts task now).runAmid faults world with
  | mk ending rest =>
    cases ending with
    | mk ended after => cases ended <;> rfl

/-- A task of another kind is not tried. -/
theorem runAmid_runTask_of_kind {task : Task} (hkind : task.kind ≠ Task.closeKind) (now : Instant)
    (faults : List Bool) (world : World) :
    (runTask task now).runAmid faults world = ((.ok false, world), faults) := by
  rw [runTask, if_neg hkind]
  rfl

/-- **How a task ends, whatever calls fail**: as its handling does, or it is given up with nothing
changed, after as many failures as there were attempts. -/
theorem runAmid_runTask_cases (hcalm : world.Calm) {task : Task}
    (hkind : task.kind = Task.closeKind) (now : Instant) (faults : List Bool) :
    ((runTask task now).runAmid faults world).1 = verdict ((handle task now).run world) ∨
      max task.maxRetry 1 ≤ faults.count true ∧
        ((runTask task now).runAmid faults world).1 = (.ok false, world) := by
  rw [runAmid_runTask hkind]
  obtain htold | ⟨hspared, htold⟩ := (runAmid_attempts hcalm task now _ faults).told_cases
  · exact .inl htold
  · exact .inr ⟨Nat.not_lt.1 hspared, htold⟩

/-- Where no call fails, a task ends as its handling does. -/
theorem run_runTask_eq_verdict (hcalm : world.Calm) {task : Task}
    (hkind : task.kind = Task.closeKind) (now : Instant) :
    (runTask task now).run world = verdict ((handle task now).run world) := by
  have hcases := runAmid_runTask_cases hcalm hkind now []
  rw [Program.runAmid_nil] at hcases
  refine hcases.resolve_right fun hfailed => ?_
  exact Nat.not_succ_le_zero 0 ((Nat.le_max_right task.maxRetry 1).trans hfailed.1)

end OrderDesk.Expiry
