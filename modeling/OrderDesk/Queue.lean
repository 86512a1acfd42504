import OrderDesk.Queue.Error
import OrderDesk.Task

/-!
# The task queue

Tasks wait in the queue until they are due. Taking out the due ones (`takeDue`) hands
them out by the time when they became due, those of one time in the order in which they
came, and leaves the others in their order.
-/

namespace OrderDesk

/-- A task that waits. -/
structure QueuedTask where
  task : Task
  dueAt : Instant
  deriving DecidableEq

/-- Tasks that wait, in the order in which they came. -/
structure Queue where
  entries : List QueuedTask
  deriving DecidableEq

namespace Queue

/-- The queue without tasks. -/
def empty : Queue := ⟨[]⟩

/-- The longest delay, in whole seconds. -/
def longestDelay : Nat := Delay.longest.seconds

/-- When a task becomes due that is put off for some time from now. -/
def dueAfter (delay : Delay) (now : Instant) : Except QueueError Instant :=
  if delay.isLongerThan .longest then .error .invalidDelay
  else
    match now.later? delay with
    | none => .error (.delayOutOfRange delay)
    | some dueAt => .ok dueAt

/-- The queue with one more task, due some time from now. -/
def enqueueAfter (queue : Queue) (task : Task) (delay : Delay) (now : Instant) :
    Except QueueError Queue := do
  let dueAt ← dueAfter delay now
  return ⟨queue.entries ++ [⟨task, dueAt⟩]⟩

/-- The queue with one more task, due some seconds from now. -/
def enqueue (queue : Queue) (task : Task) (delay : Nat) (now : Instant) :
    Except QueueError Queue :=
  queue.enqueueAfter task (.ofSeconds delay) now

theorem dueAfter_eq_ok_iff {delay : Delay} {now dueAt : Instant} : dueAfter delay now = .ok dueAt ↔
    ¬delay.isLongerThan .longest ∧ now.later? delay = some dueAt := by
  unfold dueAfter
  by_cases hlong : delay.isLongerThan .longest
  · simp [hlong]
  · cases now.later? delay <;> simp [hlong]

/-- A task is accepted when the time at which it is due can be told. It comes last. -/
theorem enqueueAfter_eq_ok_iff {queue after : Queue} {task : Task} {delay : Delay} {now : Instant} :
    queue.enqueueAfter task delay now = .ok after ↔ ∃ dueAt, dueAfter delay now = .ok dueAt ∧
      after = ⟨queue.entries ++ [⟨task, dueAt⟩]⟩ := by
  unfold enqueueAfter
  cases dueAfter delay now with
  | error error => simp [bind, Except.bind]
  | ok dueAt => simp [bind, Except.bind, pure, Except.pure, eq_comm]

/-- A delay of whole seconds is accepted when it is not too long and the calendar has the instant to
which it leads. -/
theorem enqueue_eq_ok_iff {queue after : Queue} {task : Task} {delay : Nat} {now : Instant} :
    queue.enqueue task delay now = .ok after ↔ delay ≤ longestDelay ∧
      ∃ dueAt, now.after? delay = some dueAt ∧ after = ⟨queue.entries ++ [⟨task, dueAt⟩]⟩ := by
  have hlonger : ¬(Delay.ofSeconds delay).isLongerThan .longest ↔ delay ≤ longestDelay := by
    rw [Delay.isLongerThan_iff, ← Nat.not_lt, not_congr]
    exact or_iff_left fun hboth => Fin.not_lt_zero _ hboth.2
  rw [enqueue, enqueueAfter_eq_ok_iff]
  simp only [dueAfter_eq_ok_iff, hlonger, Instant.later?_ofSeconds, and_assoc, exists_and_left]

/-- The tasks that are due. -/
def due (queue : Queue) (now : Instant) : List QueuedTask :=
  (queue.entries.filter fun entry => entry.dueAt.isAtMost now).mergeSort fun a b =>
    a.dueAt.isAtMost b.dueAt

/-- The tasks that go on waiting. -/
def waiting (queue : Queue) (now : Instant) : Queue :=
  ⟨queue.entries.filter fun entry => !entry.dueAt.isAtMost now⟩

/-- Takes out the tasks that are due. -/
def takeDue (queue : Queue) (now : Instant) : List QueuedTask × Queue :=
  (queue.due now, queue.waiting now)

end Queue

end OrderDesk
