import Mathlib.Data.List.Induction
import OrderDesk.Proofs.Sorting
import OrderDesk.Queue

/-!
# Every task is handed out once

Tasks are put into a queue and taken out of it in any order of calls, for any delays, and with any
time on the clock of each call, earlier ones after later ones too. Whether a task is accepted, and
when it becomes due, is told by the call alone (`Event.arrival?`). So what a run of calls does with
the tasks can be told from the list of the calls, without following the queue: a task goes to the
first call after its own that takes out tasks at an instant not before the task is due
(`Arrival.takenAt?`), and it waits as long as there is none.

## What is proved

* `takeDue_inOrder`: one call hands out all that is due, in order, and leaves all else in order.
* `entries_run`: what waits after a run are the arrivals that no call has taken out.
* `handed_out_once`: what each call of a run hands out are the arrivals that it is the first to take
  out, in order.
-/

namespace OrderDesk.Queue

/-! ### What one call hands out -/

/-- Some entries of the queue in the order in which they are handed out: by the time at which they
became due, those of one time as they came. -/
structure InOrder (entries handed : List QueuedTask) : Prop where
  perm : handed.Perm entries
  ascending : handed.Pairwise fun a b => a.dueAt.isAtMost b.dueAt = true
  stable : ∀ time, (handed.filter fun entry => entry.dueAt = time) =
    entries.filter fun entry => entry.dueAt = time

theorem inOrder_mergeSort (entries : List QueuedTask) :
    InOrder entries (entries.mergeSort fun a b => a.dueAt.isAtMost b.dueAt) := by
  have htrans : ∀ a b c : QueuedTask, a.dueAt.isAtMost b.dueAt = true →
      b.dueAt.isAtMost c.dueAt = true → a.dueAt.isAtMost c.dueAt = true :=
    fun a b c => Instant.isAtMost_trans
  have htotal : ∀ a b : QueuedTask,
      (a.dueAt.isAtMost b.dueAt || b.dueAt.isAtMost a.dueAt) = true := by
    intro a b
    rw [Bool.or_eq_true]
    exact Instant.isAtMost_total a.dueAt b.dueAt
  refine ⟨List.mergeSort_perm _ _, List.pairwise_mergeSort htrans htotal entries, ?_⟩
  intro time
  apply filter_mergeSort htrans htotal
  intro a b ha hb
  rw [of_decide_eq_true ha, of_decide_eq_true hb]
  exact (Instant.isAtMost_total time time).elim id id

/-- **Taking out hands out just what is due**, in order, and leaves all else as it stands. -/
theorem takeDue_inOrder (queue : Queue) (now : Instant) :
    InOrder (queue.entries.filter fun entry => entry.dueAt.isAtMost now) (queue.takeDue now).1 ∧
      (queue.takeDue now).2.entries =
        queue.entries.filter fun entry => !entry.dueAt.isAtMost now :=
  ⟨inOrder_mergeSort _, rfl⟩

/-! ### Runs of calls -/

/-- A call to the queue, with the time on the clock. -/
inductive Event
  | enqueue (task : Task) (delay : Delay) (now : Instant)
  | takeDue (now : Instant)

/-- The queue after a call. A task that is refused leaves it as it was. -/
def after (queue : Queue) : Event → Queue
  | .enqueue task delay now =>
    match queue.enqueueAfter task delay now with
    | .ok queue => queue
    | .error _ => queue
  | .takeDue now => (queue.takeDue now).2

/-- What a call hands out. -/
def handed (queue : Queue) : Event → List QueuedTask
  | .enqueue _ _ _ => []
  | .takeDue now => (queue.takeDue now).1

/-- The queue after some calls. -/
def run (queue : Queue) (events : List Event) : Queue := events.foldl after queue

/-- The entry that a call puts into the queue, unless it is refused. -/
def Event.arrival? : Event → Option QueuedTask
  | .enqueue task delay now => (dueAfter delay now).toOption.map (QueuedTask.mk task)
  | .takeDue _ => none

/-- The call takes out what is due by an instant not before the given one. -/
def Event.reaches (dueAt : Instant) : Event → Bool
  | .enqueue _ _ _ => false
  | .takeDue now => dueAt.isAtMost now

/-- An entry that has come into the queue. -/
structure Arrival where
  /-- The number of the call that put it there, the first call being zero. -/
  number : Nat
  entry : QueuedTask

/-- What comes into the queue by a call with its number. -/
def arrivalBy? (call : Event × Nat) : Option Arrival :=
  call.1.arrival?.map (Arrival.mk call.2)

/-- What comes into the queue in a run, in order. -/
def arrivals (events : List Event) : List Arrival := events.zipIdx.filterMap arrivalBy?

namespace Arrival

/-- A call with its number comes after the one of an arrival, and reaches the time at which it is
due. -/
def isReachedBy (arrival : Arrival) (call : Event × Nat) : Bool :=
  arrival.number < call.2 && call.1.reaches arrival.entry.dueAt

/-- The number of the call that takes an arrival out: the first one after its own that reaches the
time at which it is due. -/
def takenAt? (events : List Event) (arrival : Arrival) : Option Nat :=
  (events.zipIdx.find? arrival.isReachedBy).map Prod.snd

end Arrival

variable {events earlier later : List Event} {event : Event} {arrival : Arrival} {number : Nat}

theorem run_concat (queue : Queue) (events : List Event) (event : Event) :
    queue.run (events ++ [event]) = (queue.run events).after event :=
  List.foldl_append

/-- **What a call makes of the queue**: what it reaches goes, and what arrives by it comes. -/
theorem entries_after (queue : Queue) (event : Event) :
    (queue.after event).entries =
      (queue.entries.filter fun entry => !event.reaches entry.dueAt) ++ event.arrival?.toList := by
  cases event with
  | enqueue task delay now =>
    have hall : (queue.entries.filter fun _ => !false) = queue.entries :=
      List.filter_eq_self.2 fun _ _ => rfl
    simp only [after, enqueueAfter, Event.reaches, Event.arrival?, hall]
    cases dueAfter delay now with
    | error error => exact (List.append_nil _).symm
    | ok dueAt => rfl
  | takeDue now => exact (List.append_nil _).symm

/-- What a call hands out is what it reaches, in order. -/
theorem handed_inOrder (queue : Queue) (event : Event) :
    InOrder (queue.entries.filter fun entry => event.reaches entry.dueAt) (queue.handed event) := by
  cases event with
  | enqueue task delay now =>
    have hnone : (queue.entries.filter fun _ => false) = [] :=
      List.filter_eq_nil_iff.2 fun _ _ => Bool.false_ne_true
    simp only [Event.reaches, handed, hnone]
    exact ⟨.refl [], .nil, fun _ => rfl⟩
  | takeDue now => exact (queue.takeDue_inOrder now).1

/-- **How putting a task into the queue ends**: it comes last and is due when the delay has passed; or
the delay is too long or leads out of the calendar, and the queue is left as it was. -/
theorem enqueue_cases (queue : Queue) (task : Task) (delay : Delay) (now : Instant) :
    (∃ dueAt, now.later? delay = some dueAt ∧
      queue.enqueueAfter task delay now = .ok ⟨queue.entries ++ [⟨task, dueAt⟩]⟩ ∧
      (Event.enqueue task delay now).arrival? = some ⟨task, dueAt⟩) ∨
    (delay.isLongerThan .longest = true ∨ now.later? delay = none) ∧
      (∃ error, queue.enqueueAfter task delay now = .error error) ∧
      (Event.enqueue task delay now).arrival? = none ∧
      queue.after (.enqueue task delay now) = queue := by
  cases hdue : dueAfter delay now with
  | error error =>
    have hcall : queue.enqueueAfter task delay now = .error error := by
      rw [enqueueAfter, hdue]
      rfl
    refine .inr ⟨?_, ⟨error, hcall⟩, ?_, ?_⟩
    · by_contra hneither
      obtain ⟨hshort, hlater⟩ := not_or.1 hneither
      obtain ⟨dueAt, hdueAt⟩ := Option.ne_none_iff_exists'.1 hlater
      cases hdue.symm.trans (dueAfter_eq_ok_iff.2 ⟨hshort, hdueAt⟩)
    · rw [Event.arrival?, hdue]
      rfl
    · rw [after, hcall]
  | ok dueAt =>
    have hcall : queue.enqueueAfter task delay now = .ok ⟨queue.entries ++ [⟨task, dueAt⟩]⟩ :=
      enqueueAfter_eq_ok_iff.2 ⟨dueAt, hdue, rfl⟩
    refine .inl ⟨dueAt, (dueAfter_eq_ok_iff.1 hdue).2, hcall, ?_⟩
    rw [Event.arrival?, hdue]
    rfl

/-! ### Arrivals -/

theorem arrivals_append (earlier later : List Event) : arrivals (earlier ++ later) =
    arrivals earlier ++ (later.zipIdx earlier.length).filterMap arrivalBy? := by
  rw [arrivals, List.zipIdx_append, List.filterMap_append, Nat.zero_add]
  rfl

theorem takenAt?_append (earlier later : List Event) (arrival : Arrival) :
    arrival.takenAt? (earlier ++ later) = (arrival.takenAt? earlier).or
      (((later.zipIdx earlier.length).find? arrival.isReachedBy).map Prod.snd) := by
  rw [Arrival.takenAt?, List.zipIdx_append, List.find?_append, Option.map_or, Nat.zero_add]
  rfl

theorem number_lt (h : arrival ∈ arrivals events) : arrival.number < events.length := by
  obtain ⟨⟨event, number⟩, hmem, harrival⟩ := List.mem_filterMap.1 h
  obtain ⟨entry, -, rfl⟩ := Option.map_eq_some_iff.1 harrival
  simpa using List.snd_lt_of_mem_zipIdx hmem

theorem takenAt?_lt (h : arrival.takenAt? events = some number) :
    arrival.number < number ∧ number < events.length := by
  obtain ⟨⟨event, n⟩, hfound, rfl⟩ := Option.map_eq_some_iff.1 h
  have hreached := List.find?_some hfound
  rw [Arrival.isReachedBy, Bool.and_eq_true, decide_eq_true_eq] at hreached
  exact ⟨hreached.1, by simpa using List.snd_lt_of_mem_zipIdx (List.mem_of_find?_eq_some hfound)⟩

/-- Nothing is taken out before or as it comes. -/
theorem takenAt?_of_new (hnumber : events.length ≤ arrival.number + 1) :
    arrival.takenAt? events = none := by
  rw [Option.eq_none_iff_forall_ne_some]
  intro number htaken
  obtain ⟨hafter, hbefore⟩ := takenAt?_lt htaken
  omega

/-- A call reaches an arrival of the calls before it when it reaches the time at which it is due. -/
theorem isReachedBy_length (harrival : arrival ∈ arrivals events) (event : Event) :
    arrival.isReachedBy (event, events.length) = event.reaches arrival.entry.dueAt := by
  simp [Arrival.isReachedBy, number_lt harrival]

/-- **What waits after a run** is what has come and no call has taken out. -/
theorem entries_run (events : List Event) : (empty.run events).entries =
    ((arrivals events).filter fun arrival => arrival.takenAt? events = none).map
      Arrival.entry := by
  induction events using List.reverseRecOn with
  | nil => rfl
  | append_singleton events event ih =>
    rw [run_concat, entries_after, ih, arrivals_append, List.filter_append, List.map_append]
    congr 1
    · -- What came before goes on waiting unless the last call reaches it.
      rw [List.filter_map, List.filter_filter]
      congr 1
      apply List.filter_congr
      intro arrival hmem
      have hlast := isReachedBy_length hmem event
      rw [takenAt?_append]
      cases hreaches : event.reaches arrival.entry.dueAt <;> simp [hlast, hreaches]
    · cases harrival : event.arrival? with
      | none => simp [arrivalBy?, harrival]
      | some entry =>
        have hnew : (Arrival.mk events.length entry).takenAt? (events ++ [event]) = none := by
          apply takenAt?_of_new
          simp
        simp [arrivalBy?, harrival, hnew]

/-- The arrivals that a call is the first to reach are those that were waiting for it. -/
theorem filter_takenAt? (earlier later : List Event) (event : Event) :
    ((arrivals (earlier ++ event :: later)).filter fun arrival =>
        arrival.takenAt? (earlier ++ event :: later) = some earlier.length) =
      (arrivals earlier).filter fun arrival =>
        event.reaches arrival.entry.dueAt && arrival.takenAt? earlier = none := by
  have hlater : (((event :: later).zipIdx earlier.length).filterMap arrivalBy?).filter
      (fun arrival => arrival.takenAt? (earlier ++ event :: later) = some earlier.length) = [] := by
    rw [List.filter_eq_nil_iff]
    intro arrival hmem htaken
    obtain ⟨⟨other, number⟩, hother, harrival⟩ := List.mem_filterMap.1 hmem
    obtain ⟨entry, -, rfl⟩ := Option.map_eq_some_iff.1 harrival
    have hnumber := List.le_snd_of_mem_zipIdx hother
    have hafter := (takenAt?_lt (of_decide_eq_true htaken)).1
    exact Nat.not_le.2 hafter hnumber
  rw [arrivals_append, List.filter_append, hlater, List.append_nil]
  apply List.filter_congr
  intro arrival hmem
  rw [takenAt?_append, List.zipIdx_cons, List.find?_cons, isReachedBy_length hmem]
  cases hearlier : arrival.takenAt? earlier with
  | some number =>
    have hbefore := (takenAt?_lt hearlier).2
    simp [Nat.ne_of_lt hbefore]
  | none =>
    cases event.reaches arrival.entry.dueAt with
    | true => simp
    | false =>
      have hlate : ((later.zipIdx (earlier.length + 1)).find? arrival.isReachedBy).map Prod.snd ≠
          some earlier.length := by
        intro hfound
        obtain ⟨⟨other, number⟩, hother, rfl⟩ := Option.map_eq_some_iff.1 hfound
        have hnumber := List.le_snd_of_mem_zipIdx (List.mem_of_find?_eq_some hother)
        omega
      simp [hlate]

/-- What each call of a run hands out. -/
theorem handed_run {number : Nat} (h : events[number]? = some event) :
    InOrder (((arrivals events).filter fun arrival =>
        arrival.takenAt? events = some number).map Arrival.entry)
      ((empty.run (events.take number)).handed event) := by
  obtain ⟨hnumber, rfl⟩ := List.getElem?_eq_some_iff.1 h
  have hlength : (events.take number).length = number := by
    rw [List.length_take, Nat.min_eq_left (Nat.le_of_lt hnumber)]
  have hsplit : events.take number ++ events[number] :: events.drop (number + 1) = events := by
    rw [← List.drop_eq_getElem_cons hnumber, List.take_append_drop]
  have hwaited := filter_takenAt? (events.take number) (events.drop (number + 1)) events[number]
  rw [hsplit, hlength] at hwaited
  rw [hwaited, ← List.filter_filter]
  have hhanded := handed_inOrder (empty.run (events.take number)) events[number]
  rw [entries_run, List.filter_map] at hhanded
  exact hhanded

/-- **Every task is handed out once, and never early.** Taking tasks out hands out just those that
are due, in order, and leaves the others in their order. A task that is put into the queue comes last,
or it is refused and the queue is left as it was. So in a run of calls, whatever their delays and the
times on the clock, each call hands out, in order, the arrivals that it is the first after their own
to reach; and the others wait at the end. -/
theorem handed_out_once (events : List Event) :
    (∀ (queue : Queue) now,
      InOrder (queue.entries.filter fun entry => entry.dueAt.isAtMost now) (queue.takeDue now).1 ∧
        (queue.takeDue now).2.entries =
          queue.entries.filter fun entry => !entry.dueAt.isAtMost now) ∧
    (∀ (queue : Queue) task delay now,
      (∃ dueAt, now.later? delay = some dueAt ∧
        queue.enqueueAfter task delay now = .ok ⟨queue.entries ++ [⟨task, dueAt⟩]⟩ ∧
        (Event.enqueue task delay now).arrival? = some ⟨task, dueAt⟩) ∨
      (delay.isLongerThan .longest = true ∨ now.later? delay = none) ∧
        (∃ error, queue.enqueueAfter task delay now = .error error) ∧
        (Event.enqueue task delay now).arrival? = none ∧
        queue.after (.enqueue task delay now) = queue) ∧
    (∀ number event, events[number]? = some event →
      InOrder (((arrivals events).filter fun arrival =>
          arrival.takenAt? events = some number).map Arrival.entry)
        ((empty.run (events.take number)).handed event)) ∧
    (empty.run events).entries =
      ((arrivals events).filter fun arrival => arrival.takenAt? events = none).map
        Arrival.entry :=
  ⟨takeDue_inOrder, enqueue_cases, fun _ _ => handed_run, entries_run events⟩

/-- Tasks are taken out three times, and the clock goes back in between. The first task goes to the
last of these calls and the second to the first; the third task is put off for too long. -/
example :
    let events : List Event :=
      [.enqueue (.closeOrder "A") ⟨10, 0⟩ ⟨5, 0⟩, .enqueue (.closeOrder "B") ⟨0, 500000000⟩ ⟨0, 0⟩,
        .takeDue ⟨1, 0⟩, .takeDue ⟨0, 0⟩, .takeDue ⟨15, 0⟩,
        .enqueue (.closeOrder "C") ⟨60000000000000, 0⟩ ⟨20, 0⟩]
    (arrivals events).map (·.takenAt? events) = [some 4, some 2] := by
  decide +kernel

end OrderDesk.Queue
