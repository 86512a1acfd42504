import OrderDesk.Proofs.Program.Conduct
import OrderDesk.Proofs.Program.Calm

/-!
# Calls that are not answered, in any pattern

Which calls of a program are answered and which are not may follow any pattern. `Program.runAmid`
runs a program under one: a list with a place for each call, call by call. A call that is not
answered does not reach the store or the queue. Outages are patterns of this kind
(`Program.exists_runAmid`), and so is what an adversary picks.

A program gives up (`Program.GivesUp`) if it is refused at the first call that is not answered and
has changed nothing by then. Such a program does what it does where nothing goes wrong, or it is
refused, leaves the world as it was and has used up one failure (`Program.runAmid_of_givesUp`).
-/

namespace OrderDesk

namespace World

/-- Outages do not matter to a call that is answered. -/
theorem serve_withOutages (world : World) (outages : List Outage) (c : Call) :
    { world with outages }.serve c =
      ((world.serve c).1, { (world.serve c).2 with outages }) := by
  cases c with
  | enqueue task delay =>
    simp only [serve]
    split <;> rfl
  | _ => rfl

/-- Where no others commit, a call is answered as it is alone. -/
theorem answer_of_races {world : World} (h : world.races = []) (c : Call) :
    world.answer c = world.answerAlone c := by
  cases c with
  | commit writes =>
    have hsame : { world with races := [] } = world := by rw [← h]
    rw [answer, h, commitRaces]
    exact congrArg (answerAlone · (.commit writes)) hsame
  | _ => rfl

/-- What a call leaves has no commits of others that were not there before. -/
theorem races_of_answerAlone (world : World) (c : Call) :
    (world.answerAlone c).2.races = world.races := by
  cases hdown : world.isDown c.service with
  | true =>
    rw [answerAlone_of_down hdown]
    rfl
  | false =>
    rw [answerAlone_of_up hdown]
    cases c with
    | enqueue task delay =>
      simp only [serve]
      split <;> rfl
    | _ => rfl

end World

namespace Program

variable {α β : Type}

/-- How a program ends in a world in which some of its calls are not answered, the world that it
leaves, and what is left of the pattern. A pattern has a place for each call, `true` for one that is
not answered; the calls after the last place are answered. -/
def runAmid : Program α → List Bool → World → (Except Failure α × World) × List Bool
  | .done value, faults, world => ((.ok value, world), faults)
  | .fail failure, faults, world => ((.error failure, world), faults)
  | .call c next, faults, world =>
    if faults.headD false then (next (.error c.down)).runAmid faults.tail world
    else
      match world.answer c with
      | (.ok reply, world) => (next reply).runAmid faults.tail world
      | (.error overflow, world) => ((.error (.stopped overflow), world), faults.tail)

variable {c : Call} {next : c.Reply → Program α} {world after : World} {faults rest : List Bool}

theorem runAmid_call_true : (Program.call c next).runAmid (true :: rest) world =
    (next (.error c.down)).runAmid rest world := by
  rw [runAmid]
  rfl

theorem runAmid_call_of_ok {reply : c.Reply} (hfaults : faults.headD false = false)
    (hanswer : world.answer c = (.ok reply, after)) :
    (Program.call c next).runAmid faults world = (next reply).runAmid faults.tail after := by
  rw [runAmid, hfaults, hanswer]
  rfl

theorem runAmid_call_of_error {overflow : Overflow} (hfaults : faults.headD false = false)
    (hanswer : world.answer c = (.error overflow, after)) :
    (Program.call c next).runAmid faults world = ((.error (.stopped overflow), after), faults.tail) := by
  rw [runAmid, hfaults, hanswer]
  rfl

/-- Without failures a program runs as it does in its world. -/
@[simp] theorem runAmid_nil (program : Program α) (world : World) :
    program.runAmid [] world = (program.run world, []) := by
  induction program generalizing world with
  | done value => rfl
  | fail failure => rfl
  | call c next ih =>
    rw [run]
    cases hanswer : world.answer c with
    | mk ended after =>
      cases ended with
      | ok reply => rw [runAmid_call_of_ok rfl hanswer]; exact ih reply after
      | error overflow => rw [runAmid_call_of_error rfl hanswer]; rfl

/-- What comes after a program runs in the world that the program leaves, under what is left of the
pattern. -/
theorem runAmid_bind (program : Program α) (next : α → Program β) (faults : List Bool)
    (world : World) :
    (program >>= next).runAmid faults world =
      match program.runAmid faults world with
      | ((.ok value, world), rest) => (next value).runAmid rest world
      | ((.error failure, world), rest) => ((.error failure, world), rest) := by
  rw [bind_eq_andThen]
  induction program generalizing faults world with
  | done value => rfl
  | fail failure => rfl
  | call c reply ih =>
    simp only [andThen, runAmid]
    split
    · exact ih _ _ _
    · split
      · exact ih _ _ _
      · rfl

theorem runAmid_bind_of_ok {program : Program α} {value : α}
    (h : program.runAmid faults world = ((.ok value, after), rest)) (next : α → Program β) :
    (program >>= next).runAmid faults world = (next value).runAmid rest after := by
  rw [runAmid_bind, h]

theorem runAmid_bind_of_error {program : Program α} {failure : Failure}
    (h : program.runAmid faults world = ((.error failure, after), rest)) (next : α → Program β) :
    (program >>= next).runAmid faults world = ((.error failure, after), rest) := by
  rw [runAmid_bind, h]

/-- What is made of the outcome of a program changes nothing in the world that it leaves. -/
theorem runAmid_bind_pure (program : Program α) (f : α → β) (faults : List Bool) (world : World) :
    ((program >>= fun value => pure (f value)).runAmid faults world).1.2 =
      (program.runAmid faults world).1.2 := by
  rw [runAmid_bind]
  cases hrun : program.runAmid faults world with
  | mk ends rest =>
    obtain ⟨ended, after⟩ := ends
    cases ended <;> rfl

/-- An attempt ends as the program does, with a refusal as a value. -/
theorem runAmid_attempt (program : Program α) (faults : List Bool) (world : World) :
    program.attempt.runAmid faults world =
      match program.runAmid faults world with
      | ((.ok value, world), rest) => ((.ok (.ok value), world), rest)
      | ((.error (.refused error), world), rest) => ((.ok (.error error), world), rest)
      | ((.error (.stopped overflow), world), rest) => ((.error (.stopped overflow), world), rest) := by
  induction program generalizing faults world with
  | done value => rfl
  | fail failure => cases failure <;> rfl
  | call c next ih =>
    simp only [attempt, runAmid]
    split
    · exact ih _ _ _
    · split
      · exact ih _ _ _
      · rfl

/-- **Outages are patterns**: where no others commit, a program ends amid outages as it does under
some pattern of failures without them. -/
theorem exists_runAmid (program : Program α) (hraces : world.races = []) :
    ∃ faults, program.runAmid faults { world with outages := [] } =
      (((program.run world).1, { (program.run world).2 with outages := [] }), []) := by
  induction program generalizing world with
  | done value => exact ⟨[], rfl⟩
  | fail failure => exact ⟨[], rfl⟩
  | call c next ih =>
    have halone : world.answer c = world.answerAlone c := World.answer_of_races hraces c
    have hkept : (world.answerAlone c).2.races = [] := (world.races_of_answerAlone c).trans hraces
    cases hdown : world.isDown c.service with
    | true =>
      rw [World.answerAlone_of_down hdown] at halone hkept
      obtain ⟨faults, hfaults⟩ := ih (.error c.down) hkept
      refine ⟨true :: faults, ?_⟩
      rw [run, halone, runAmid_call_true]
      exact hfaults
    | false =>
      rw [World.answerAlone_of_up hdown] at halone hkept
      have hcalm : World.Calm { world with outages := [] } := ⟨rfl, hraces⟩
      have hanswer := (hcalm.answer c).trans (world.serve_withOutages [] c)
      cases hserve : world.serve c with
      | mk ended after =>
        rw [hserve] at halone hkept hanswer
        cases ended with
        | ok reply =>
          obtain ⟨faults, hfaults⟩ := ih reply hkept
          refine ⟨false :: faults, ?_⟩
          rw [run, halone, runAmid_call_of_ok rfl hanswer]
          exact hfaults
        | error overflow =>
          refine ⟨[], ?_⟩
          rw [run, halone, runAmid_call_of_error rfl hanswer]
          rfl

/-! ### Programs that keep to a conduct -/

/-- A call that is not answered answers as one does of which the service is down. -/
theorem answers_down (c : Call) (store : Store) : c.Answers store (.error c.down) store := by
  let world : World := { World.calm store .empty ⟨0, 0⟩ with outages := [⟨c.service, none⟩] }
  have hdown : world.isDown c.service = true := by
    simp [world, World.isDown, Outage.isOn]
  exact ⟨world, world.afterDown c.service, rfl, World.answerAlone_of_down hdown, rfl⟩

/-- **What holds after a program that keeps to a conduct**, whichever of its calls are not answered,
where no others commit: everything that the calls preserve which the conduct allows. When the
program comes out well, its value meets the condition in the store that it leaves. -/
theorem runAmid_of_conforms {conduct : Conduct} {post : α → Store → Prop} {Q : Store → Prop}
    {program : Program α} (h : program.Conforms conduct post world.store)
    (hcalls : ∀ before c reply after, conduct.Allows before c → c.Answers before reply after →
      Q before → Q after)
    (hraces : world.races = []) (hQ : Q world.store) (faults : List Bool) :
    let ends := (program.runAmid faults world).1
    Q ends.2.store ∧ ends.2.races = [] ∧ ∀ value, ends.1 = .ok value → post value ends.2.store := by
  induction program generalizing faults world with
  | done value =>
    refine ⟨hQ, hraces, ?_⟩
    rintro _ ⟨⟩
    exact h
  | fail failure => exact ⟨hQ, hraces, nofun⟩
  | call c next ih =>
    obtain ⟨hallows, hnext⟩ := h world.store (conduct.rely.refl _)
    cases hfaults : faults.headD false with
    | true =>
      rw [runAmid, hfaults]
      exact ih _ (hnext _ _ (answers_down c world.store)) hraces hQ faults.tail
    | false =>
      have halone := World.answer_of_races hraces c
      have hkept := (world.races_of_answerAlone c).trans hraces
      cases hanswer : world.answerAlone c with
      | mk ended after =>
        rw [hanswer] at halone hkept
        cases ended with
        | ok reply =>
          have hanswers : c.Answers world.store reply after.store :=
            ⟨world, after, rfl, hanswer, rfl⟩
          rw [runAmid_call_of_ok hfaults halone]
          exact ih reply (hnext _ _ hanswers) hkept (hcalls _ _ _ _ hallows hanswers hQ) faults.tail
        | error overflow =>
          rw [runAmid_call_of_error hfaults halone]
          exact ⟨World.store_of_overflow hanswer ▸ hQ, hkept, nofun⟩

/-! ### Programs that give up -/

/-- A program that has made its last call. -/
def IsOver : Program α → Prop
  | .done _ | .fail _ => True
  | .call _ _ => False

/-- A program that is refused at the first call that is not answered, and that changes nothing
before its last call. -/
def GivesUp : Program α → Prop
  | .done _ | .fail _ => True
  | .call c next => (∃ error, next (.error c.down) = .fail (.refused error)) ∧
      (c.isReading = true ∧ (∀ reply, (next reply).GivesUp) ∨ ∀ reply, (next reply).IsOver)

theorem IsOver.runAmid {program : Program α} (h : program.IsOver) (faults : List Bool)
    (world : World) : program.runAmid faults world = (program.run world, faults) := by
  cases program with
  | done value => rfl
  | fail failure => rfl
  | call c next => cases h

/-- How many calls fail in a pattern is not changed by passing over one that does not. -/
theorem count_tail_of_headD {faults : List Bool} (h : faults.headD false = false) :
    faults.tail.count true = faults.count true := by
  cases faults with
  | nil => rfl
  | cons fault rest =>
    obtain rfl : fault = false := h
    exact (List.count_cons_of_ne (by decide)).symm

/-- **A program that gives up** does in a calm world what it does there without failures, or it
meets a failure, is refused and leaves the world as it was. -/
theorem runAmid_of_givesUp {program : Program α} (h : program.GivesUp) (hcalm : world.Calm)
    (faults : List Bool) :
    (∃ rest, program.runAmid faults world = (program.run world, rest) ∧
      rest.count true = faults.count true) ∨
    ∃ error rest, program.runAmid faults world = ((.error (.refused error), world), rest) ∧
      rest.count true + 1 = faults.count true := by
  induction program generalizing faults with
  | done value => exact .inl ⟨faults, rfl, rfl⟩
  | fail failure => exact .inl ⟨faults, rfl, rfl⟩
  | call c next ih =>
    obtain ⟨⟨error, hrefused⟩, hnext⟩ := h
    cases hfaults : faults.headD false with
    | true =>
      cases faults with
      | nil => cases hfaults
      | cons fault rest =>
        obtain rfl : fault = true := hfaults
        refine .inr ⟨error, rest, ?_, List.count_cons_self.symm⟩
        rw [runAmid_call_true, hrefused]
        rfl
    | false =>
      have hcount := count_tail_of_headD hfaults
      rcases hnext with ⟨hread, hgivesUp⟩ | hover
      · obtain ⟨value, hserve⟩ := world.serve_of_isReading hread
        have hanswer := (hcalm.answer c).trans hserve
        rw [runAmid_call_of_ok hfaults hanswer, run, hanswer, ← hcount]
        exact ih _ (hgivesUp _) faults.tail
      · refine .inl ⟨faults.tail, ?_, hcount⟩
        rw [run]
        cases hanswer : world.answer c with
        | mk ended after =>
          cases ended with
          | ok reply =>
            rw [runAmid_call_of_ok hfaults hanswer]
            exact (hover reply).runAmid faults.tail after
          | error overflow => rw [runAmid_call_of_error hfaults hanswer]

end Program

end OrderDesk
