import OrderDesk.Fulfillment
import OrderDesk.World

/-!
# Running a program where nothing goes wrong

In a calm world every service answers and nobody else commits, so a call brings back what the
world serves and a program can be followed call by call. A world stays calm whatever is done in
it (`World.Calm.run`).
-/

namespace OrderDesk

namespace World

/-- All services answer, and no writes of others get in. -/
structure Calm (world : World) : Prop where
  outages : world.outages = []
  races : world.races = []

theorem calm_calm (store : Store) (queue : Queue) (now : Instant) : (calm store queue now).Calm :=
  ⟨rfl, rfl⟩

namespace Calm

variable {world : World}

theorem isDown (h : world.Calm) (service : Service) : world.isDown service = false := by
  simp [World.isDown, h.outages]

theorem answer (h : world.Calm) (c : Call) : world.answer c = world.serve c := by
  have halone : world.answerAlone c = world.serve c := by
    rw [answerAlone, h.isDown, if_neg Bool.false_ne_true]
  cases c with
  | commit writes =>
    have hsame : { world with races := [] } = world := by rw [← h.races]
    rw [World.answer, h.races, commitRaces]
    exact hsame.symm ▸ halone
  | _ => exact halone

/-- What a world serves changes neither its services nor what others do. -/
theorem serve (h : world.Calm) (c : Call) : (world.serve c).2.Calm := by
  cases c with
  | enqueue task delay =>
    simp only [World.serve]
    split
    · exact ⟨h.outages, h.races⟩
    · exact h
  | _ => exact ⟨h.outages, h.races⟩

/-- **A world stays calm**, whatever is done in it. -/
theorem run (h : world.Calm) {α : Type} (program : Program α) : (program.run world).2.Calm := by
  induction program generalizing world with
  | done value => exact h
  | fail failure => exact h
  | call c next ih =>
    have hserve := h.serve c
    rw [Program.run, h.answer]
    split
    · rename_i reply after hanswer
      rw [hanswer] at hserve
      exact ih reply hserve
    · rename_i overflow after hanswer
      rwa [hanswer] at hserve

end Calm

end World

namespace Program

variable {α β : Type} {world after : World}

/-- A program goes on with what its first part has brought back. -/
theorem run_bind {program : Program α} {value : α} (h : program.run world = (.ok value, after))
    (next : α → Program β) : (program >>= next).run world = (next value).run after := by
  rw [bind_eq_andThen, run_andThen, h]

/-- A program that fails in its first part does not go on. -/
theorem run_bind_of_error {program : Program α} {failure : Failure}
    (h : program.run world = (.error failure, after)) (next : α → Program β) :
    (program >>= next).run world = (.error failure, after) := by
  rw [bind_eq_andThen, run_andThen, h]

/-- What is made of the outcome of a program changes nothing in the world that it leaves. -/
theorem run_bind_pure (program : Program α) (f : α → β) (world : World) :
    ((program >>= fun value => pure (f value)).run world).2 = (program.run world).2 := by
  rw [bind_eq_andThen, run_andThen]
  cases hrun : program.run world with
  | mk ended after => cases ended <;> rfl

/-- A reading that was answered goes on with its value. -/
theorem read_ok_bind (lookup : Lookup) (value : α) (next : α → Program β) :
    (read lookup (.ok value) >>= next) = next value := rfl

theorem run_perform (hcalm : world.Calm) {c : Call} {reply : c.Reply}
    (h : world.serve c = (.ok reply, after)) : (perform c).run world = (.ok reply, after) := by
  simp only [perform, run, hcalm.answer, h]

variable {context : String} {writes : List Write}

/-- A transaction is done when its commit goes through. -/
theorem run_transaction_of_ok (hcalm : world.Calm) {store : Store}
    (h : world.store.commit writes = .ok store) :
    (transaction context (.ok writes)).run world = (.ok (), { world with store }) := by
  have hserve : world.serve (.commit writes) = (.ok (.ok ()), { world with store }) := by
    simp only [World.serve, World.commitTo, h]
  exact (run_bind (run_perform hcalm hserve) _).trans rfl

/-- A transaction whose commit is refused is refused, and leaves the world as it was. -/
theorem run_transaction_of_refused (hcalm : world.Calm) {error : StoreError}
    (h : world.store.commit writes = .error (.refused error)) :
    (transaction context (.ok writes)).run world =
      (.error (.refused (.insert context error)), world) := by
  have hserve : world.serve (.commit writes) = (.ok (.error error), world) := by
    simp only [World.serve, World.commitTo, h]
  exact (run_bind (run_perform hcalm hserve) _).trans rfl

/-- A transaction in whose commit a number does not fit stops, and leaves the world as it was. -/
theorem run_transaction_of_stopped (hcalm : world.Calm) {overflow : Overflow}
    (h : world.store.commit writes = .error (.stopped overflow)) :
    (transaction context (.ok writes)).run world = (.error (.stopped overflow), world) := by
  simp only [transaction, check, bind_eq_andThen, perform, andThen, run, hcalm.answer,
    World.serve, World.commitTo, h]

/-- A transaction whose commit fails leaves the world as it was. -/
theorem run_transaction_of_error (hcalm : world.Calm) {fault : WriteFault}
    (h : world.store.commit writes = .error fault) :
    ((transaction context (.ok writes)).run world).2 = world := by
  cases fault with
  | refused error => rw [run_transaction_of_refused hcalm h]
  | stopped overflow => rw [run_transaction_of_stopped hcalm h]

end Program

end OrderDesk
