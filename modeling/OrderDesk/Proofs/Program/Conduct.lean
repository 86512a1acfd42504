import OrderDesk.Proofs.Store.Later
import OrderDesk.World

/-!
# What a program may do to a store that others change

A program that reads and later commits does not know the store it commits to: between any two
of its calls others may have made another store of it. What it can rely on is that they all
keep to the same limits (`Rely`): commits only, or plans that are put in as well, or nothing
at all. `Program.Conforms` says what the program keeps to all the same. It is given a store
that the program has last seen, and follows the program call by call: each call is made in a
store that others may have made of that one, has to be allowed there, and may be answered in
any way in which a world with that store answers it.

## What is proved

* `Program.conforms_bind`: what comes after a program may rely on what the program brought
  back, and on the store being one that others may have made of the one before.
* `Program.conforms_bind_seen`: what was read may be used at the end as something that was so.
* `Program.conforms_perform_reading`: a reading tells something of the store with which the
  program goes on.
* `Program.run_of_reading`: a program that only reads leaves the world in which it runs as
  it was, but for outages that wear off.
-/

namespace OrderDesk

/-! ### Calls and their answers -/

/-- A call that is made in one store may bring back a reply and leave another store: there is a
world that answers so. -/
def Call.Answers (c : Call) (before : Store) (reply : c.Reply) (after : Store) : Prop :=
  ∃ world world' : World,
    world.store = before ∧ world.answerAlone c = (.ok reply, world') ∧ world'.store = after

/-- A service that changes neither the store nor the queue. -/
def Service.isReading : Service → Bool
  | .findPlan | .findPayment | .findCoupon | .findUser | .subscriptions | .findSubscription
  | .getOrder | .countByCoupon | .hasPaidOrders | .allOrders => true
  | .storePlan | .storePayment | .storeCoupon | .storeUser | .storeSubscription | .commit
  | .enqueue | .takeDue => false

/-- A call that changes neither the store nor the queue. -/
def Call.isReading (c : Call) : Bool := c.service.isReading

/-- A reading that is answered brings something back and changes nothing. -/
theorem World.serve_of_isReading {c : Call} (world : World) (h : c.isReading) :
    ∃ value, world.serve c = (.ok (.ok value), world) := by
  cases c with
  | findPlan id => exact ⟨_, rfl⟩
  | findPayment id => exact ⟨_, rfl⟩
  | findCoupon code => exact ⟨_, rfl⟩
  | findUser id => exact ⟨_, rfl⟩
  | subscriptions user => exact ⟨_, rfl⟩
  | findSubscription id => exact ⟨_, rfl⟩
  | getOrder orderNo => exact ⟨_, rfl⟩
  | countByCoupon user code => exact ⟨_, rfl⟩
  | hasPaidOrders user => exact ⟨_, rfl⟩
  | allOrders => exact ⟨_, rfl⟩
  | storePlan _ | storePayment _ | storeCoupon _ | storeUser _ | storeSubscription _ | commit _
  | enqueue _ _ | takeDue _ => cases h

theorem World.answerAlone_of_down {world : World} {c : Call} (h : world.isDown c.service = true) :
    world.answerAlone c = (.ok (.error c.down), world.afterDown c.service) := if_pos h

theorem World.answerAlone_of_up {world : World} {c : Call} (h : world.isDown c.service = false) :
    world.answerAlone c = world.serve c := if_neg (by simp [h])

/-- A call at which a number does not fit changes nothing. -/
theorem World.store_of_overflow {world after : World} {c : Call} {overflow : Overflow}
    (h : world.answerAlone c = (.error overflow, after)) : after.store = world.store := by
  cases hdown : world.isDown c.service with
  | true => simp [World.answerAlone_of_down hdown] at h
  | false =>
    rw [World.answerAlone_of_up hdown] at h
    cases c with
    | commit writes =>
      simp only [World.serve, World.commitTo] at h
      split at h
      · simp at h
      · simp at h
      · rw [← (Prod.mk.inj h).2]
    | enqueue task delay =>
      simp only [World.serve] at h
      split at h <;> simp at h
    | _ => simp [World.serve] at h

/-- What a call that is answered brings back, and the store that it leaves. -/
theorem Call.Answers.cases {c : Call} {before after : Store} {reply : c.Reply}
    (h : c.Answers before reply after) :
    (reply = .error c.down ∧ after = before) ∨
      ∃ world world' : World, world.store = before ∧ world.serve c = (.ok reply, world') ∧
        world'.store = after := by
  obtain ⟨world, world', rfl, hanswer, rfl⟩ := h
  cases hdown : world.isDown c.service with
  | true =>
    rw [World.answerAlone_of_down hdown, Prod.mk.injEq, Except.ok.injEq] at hanswer
    obtain ⟨rfl, rfl⟩ := hanswer
    exact .inl ⟨rfl, rfl⟩
  | false =>
    rw [World.answerAlone_of_up hdown] at hanswer
    exact .inr ⟨world, world', rfl, hanswer, rfl⟩

theorem Call.Answers.eq_of_isReading {c : Call} {before after : Store} {reply : c.Reply}
    (h : c.Answers before reply after) (hread : c.isReading) : after = before := by
  obtain ⟨-, hafter⟩ | ⟨world, world', rfl, hserve, rfl⟩ := h.cases
  · exact hafter
  · obtain ⟨value, hvalue⟩ := world.serve_of_isReading hread
    rw [hvalue] at hserve
    rw [← (Prod.mk.inj hserve).2]

/-- A reading brings back what a world with the store that was read from says. -/
theorem Call.Answers.of_isReading {c : Call} {before after : Store} {value : c.Value}
    (h : c.Answers before (.ok value) after) (hread : c.isReading) :
    ∃ world : World, world.store = before ∧ world.serve c = (.ok (.ok value), world) := by
  obtain ⟨hdown, -⟩ | ⟨world, world', rfl, hserve, -⟩ := h.cases
  · cases hdown
  · obtain ⟨found, hfound⟩ := world.serve_of_isReading hread
    rw [hfound, Prod.mk.injEq] at hserve
    exact ⟨world, rfl, by rw [hfound, hserve.1]⟩

/-- How a commit ends: it goes through, it is not answered or refused and leaves the store as it
was, or a number does not fit. -/
theorem World.answerAlone_commit (world : World) (writes : List Write) :
    (∃ store, world.store.commit writes = .ok store ∧
      world.answerAlone (.commit writes) = (.ok (.ok ()), { world with store })) ∨
    (∃ error after, after.store = world.store ∧ after.queue = world.queue ∧
      after.races = world.races ∧
      world.answerAlone (.commit writes) = (.ok (.error error), after)) ∨
    ∃ overflow, world.answerAlone (.commit writes) = (.error overflow, world) := by
  cases hdown : world.isDown .commit with
  | true =>
    exact .inr (.inl ⟨_, world.afterDown .commit, rfl, rfl, rfl, answerAlone_of_down hdown⟩)
  | false =>
    rw [answerAlone_of_up hdown]
    cases hcommit : world.store.commit writes with
    | ok store => exact .inl ⟨store, rfl, by simp only [serve, commitTo, hcommit]⟩
    | error fault =>
      cases fault with
      | refused error =>
        exact .inr (.inl ⟨error, world, rfl, rfl, rfl, by simp only [serve, commitTo, hcommit]⟩)
      | stopped overflow =>
        exact .inr (.inr ⟨overflow, by simp only [serve, commitTo, hcommit]⟩)

/-- A commit that is answered has gone through, or has left the store as it was. -/
theorem Call.Answers.of_commit {writes : List Write} {before after : Store}
    {reply : (Call.commit writes).Reply} (h : (Call.commit writes).Answers before reply after) :
    before.commit writes = .ok after ∨ after = before := by
  obtain ⟨world, world', rfl, hanswer, rfl⟩ := h
  obtain ⟨store, hcommit, hends⟩ | ⟨error, left, hstore, -, -, hends⟩ | ⟨overflow, hends⟩ :=
    world.answerAlone_commit writes <;> rw [hends, Prod.mk.injEq] at hanswer
  · rw [← hanswer.2]
    exact .inl hcommit
  · rw [← hanswer.2]
    exact .inr hstore
  · cases hanswer.1

/-! ### Programs that keep to a conduct -/

/-- What others may make of a store between two calls of a program. -/
structure Rely where
  May : Store → Store → Prop
  refl : ∀ store, May store store
  trans : ∀ {a b c : Store}, May a b → May b c → May a c

namespace Rely

/-- Others make nothing of it. -/
def still : Rely := ⟨Eq, Eq.refl, Eq.trans⟩

/-- Others commit, and put plans in. -/
def updating : Rely := ⟨Store.Updated, .refl, .trans⟩

variable {rely : Rely} {fact : Store → Prop} {store : Store}

/-- Something was so in a store of which others may have made the present one. -/
def Seen (rely : Rely) (fact : Store → Prop) (store : Store) : Prop :=
  ∃ seen, rely.May seen store ∧ fact seen

theorem Seen.later {later : Store} (h : rely.Seen fact store) (hlater : rely.May store later) :
    rely.Seen fact later := by
  obtain ⟨seen, hseen, hfact⟩ := h
  exact ⟨seen, rely.trans hseen hlater, hfact⟩

theorem seen_of_now (h : fact store) : rely.Seen fact store := ⟨store, rely.refl store, h⟩

/-- Where nothing changes, what was so is so. -/
theorem Seen.now (h : still.Seen fact store) : fact store := by
  obtain ⟨seen, heq, hfact⟩ := h
  obtain rfl : seen = store := heq
  exact hfact

end Rely

/-- What a program relies on, and which calls may be made in a store. What the calls make of the
store is what others that keep to the conduct rely on in turn. -/
structure Conduct where
  rely : Rely
  Allows : Store → Call → Prop
  keeps : ∀ {before after : Store} {c : Call} {reply : c.Reply},
    Allows before c → c.Answers before reply after → rely.May before after

/-- Readings only. -/
def Conduct.reading (rely : Rely) : Conduct where
  rely
  Allows _ c := c.isReading
  keeps hread hanswer := hanswer.eq_of_isReading hread ▸ rely.refl _

namespace Program

variable {α β : Type} {conduct : Conduct} {known : Store}

/-- A program that has last seen a store makes only calls that the conduct allows, and ends with
a value that meets a condition, if it ends with one. -/
def Conforms (conduct : Conduct) (post : α → Store → Prop) : Program α → Store → Prop
  | .done value, known => post value known
  | .fail _, _ => True
  | .call c next, known => ∀ store, conduct.rely.May known store →
    conduct.Allows store c ∧ ∀ reply after, c.Answers store reply after →
      (next reply).Conforms conduct post after

/-- **What comes after a program.** It may rely on what the program brought back, and on the
store being one that others may have made of the one before. -/
theorem conforms_bind {program : Program α} {next : α → Program β} {post : α → Store → Prop}
    {post' : β → Store → Prop} (h : program.Conforms conduct post known)
    (hnext : ∀ value store, conduct.rely.May known store → post value store →
      (next value).Conforms conduct post' store) :
    (program >>= next).Conforms conduct post' known := by
  rw [bind_eq_andThen]
  induction program generalizing known with
  | done value => exact hnext value known (conduct.rely.refl known) h
  | fail failure => trivial
  | call c reply ih =>
    intro store hstore
    obtain ⟨hallows, hreply⟩ := h store hstore
    refine ⟨hallows, fun r after hanswer => ih r (hreply r after hanswer) ?_⟩
    intro value last hlast hpost
    have hafter := conduct.rely.trans hstore (conduct.keeps hallows hanswer)
    exact hnext value last (conduct.rely.trans hafter hlast) hpost

/-- What holds of the store that a program has seen, and of every store that others may make of
one of which it holds, may be used of the store in which the program ends. -/
theorem Conforms.frame {program : Program α} {post : α → Store → Prop} {fact : Store → Prop}
    (hfact : fact known)
    (hstable : ∀ {before after : Store}, fact before → conduct.rely.May before after → fact after)
    (h : program.Conforms conduct (fun value store => fact store → post value store) known) :
    program.Conforms conduct post known := by
  induction program generalizing known with
  | done value => exact h hfact
  | fail failure => trivial
  | call c next ih =>
    intro store hstore
    obtain ⟨hallows, hreply⟩ := h store hstore
    refine ⟨hallows, fun reply after hanswer => ih reply ?_ (hreply reply after hanswer)⟩
    exact hstable (hstable hfact hstore) (conduct.keeps hallows hanswer)

/-- **What was read is remembered.** What a program tells of the store in which it ends has been
seen in the store in which the work ends. -/
theorem conforms_bind_seen {program : Program α} {next : α → Program β} {tells : α → Store → Prop}
    {post : β → Store → Prop} (h : program.Conforms conduct tells known)
    (hnext : ∀ value store, (next value).Conforms conduct
      (fun result last => conduct.rely.Seen (tells value) last → post result last) store) :
    (program >>= next).Conforms conduct post known :=
  conforms_bind h fun value store _ htells =>
    (hnext value store).frame (Rely.seen_of_now htells) Rely.Seen.later

/-- A program keeps to a wider conduct with the same rely, and meets a weaker condition as well. -/
theorem Conforms.mono {program : Program α} {conduct' : Conduct} {post post' : α → Store → Prop}
    (h : program.Conforms conduct post known) (hrely : conduct'.rely = conduct.rely)
    (hallows : ∀ store c, conduct.Allows store c → conduct'.Allows store c)
    (hpost : ∀ value store, post value store → post' value store) :
    program.Conforms conduct' post' known := by
  induction program generalizing known with
  | done value => exact hpost value known h
  | fail failure => trivial
  | call c next ih =>
    intro store hstore
    obtain ⟨hc, hnext⟩ := h store (hrely ▸ hstore)
    exact ⟨hallows store c hc, fun reply after hanswer => ih reply (hnext reply after hanswer)⟩

/-- What a program keeps to, it keeps to when others have changed the store in between. -/
theorem Conforms.later {program : Program α} {store : Store} {post : α → Prop}
    (h : program.Conforms conduct (fun value _ => post value) known)
    (hstore : conduct.rely.May known store) :
    program.Conforms conduct (fun value _ => post value) store := by
  cases program with
  | done value => exact h
  | fail failure => trivial
  | call c next => exact fun last hlast => h last (conduct.rely.trans hstore hlast)

/-- An attempt keeps to what the program keeps to. -/
theorem Conforms.attempt {program : Program α} (h : program.Conforms conduct (fun _ _ => True) known) :
    program.attempt.Conforms conduct (fun _ _ => True) known := by
  induction program generalizing known with
  | done value => trivial
  | fail failure => cases failure <;> trivial
  | call c next ih =>
    intro store hstore
    obtain ⟨hc, hnext⟩ := h store hstore
    exact ⟨hc, fun reply after hanswer => ih reply (hnext reply after hanswer)⟩

/-! ### Single steps -/

variable {post : β → Store → Prop} {next : α → Program β}

/-- What comes after a program of which nothing more is known than what it keeps to. -/
theorem conforms_bind_any {program : Program α}
    (h : program.Conforms conduct (fun _ _ => True) known)
    (hnext : ∀ value store, conduct.rely.May known store →
      (next value).Conforms conduct post store) :
    (program >>= next).Conforms conduct post known :=
  conforms_bind h fun value store hstore _ => hnext value store hstore

theorem conforms_check {result : Except OrderError α}
    (h : ∀ value, result = .ok value → (next value).Conforms conduct post known) :
    (check result >>= next).Conforms conduct post known := by
  cases result with
  | error error => trivial
  | ok value => exact h value rfl

theorem conforms_compute {result : Except Failure α}
    (h : ∀ value, result = .ok value → (next value).Conforms conduct post known) :
    (compute result >>= next).Conforms conduct post known := by
  cases result with
  | error failure => trivial
  | ok value => exact h value rfl

theorem conforms_read {lookup : Lookup} {reply : Except StoreError α}
    (h : ∀ value, reply = .ok value → (next value).Conforms conduct post known) :
    (read lookup reply >>= next).Conforms conduct post known := by
  cases reply with
  | error cause => trivial
  | ok value => exact h value rfl

theorem conforms_perform {c : Call} {post : c.Reply → Store → Prop}
    (h : ∀ store, conduct.rely.May known store → conduct.Allows store c ∧
      ∀ reply after, c.Answers store reply after → post reply after) :
    (perform c).Conforms conduct post known := h

/-- A reading tells something of the store that it was answered from. -/
theorem conforms_perform_reading {c : Call} {tells : c.Value → Store → Prop} (hread : c.isReading)
    (hallows : ∀ store, conduct.Allows store c)
    (htells : ∀ (world : World) value, world.serve c = (.ok (.ok value), world) →
      tells value world.store) :
    (perform c).Conforms conduct
      (fun reply store => ∀ value, reply = .ok value → tells value store) known := by
  refine conforms_perform fun before _ => ⟨hallows before, ?_⟩
  rintro _ after hanswer value rfl
  obtain ⟨world, rfl, hserve⟩ := hanswer.of_isReading hread
  rw [hanswer.eq_of_isReading hread]
  exact htells world value hserve

end Program

/-! ### Readings -/

/-- Using up an outage of one service leaves the others up or down as they were. -/
theorem World.isDown_afterDown (world : World) {used service : Service} (h : used ≠ service) :
    (world.afterDown used).isDown service = world.isDown service := by
  unfold isDown afterDown
  rw [List.any_map]
  refine congrArg (world.outages.any ·) (funext fun o => ?_)
  by_cases ho : o.service = used
  · have hother : (used == service) = false := beq_false_of_ne h
    simp [Outage.used, ho, hother]
  · simp [ho]

/-- A world in which a program has only read differs by outages that have worn off, and none of
them of a service that a reading does not use. -/
structure World.Read (world after : World) : Prop where
  store : after.store = world.store
  queue : after.queue = world.queue
  now : after.now = world.now
  races : after.races = world.races
  isDown : ∀ service : Service, service.isReading = false →
    after.isDown service = world.isDown service

theorem World.Read.refl (world : World) : world.Read world := ⟨rfl, rfl, rfl, rfl, fun _ _ => rfl⟩

theorem World.Read.trans {a b c : World} (h : a.Read b) (h' : b.Read c) : a.Read c where
  store := h'.store.trans h.store
  queue := h'.queue.trans h.queue
  now := h'.now.trans h.now
  races := h'.races.trans h.races
  isDown service hservice := (h'.isDown service hservice).trans (h.isDown service hservice)

/-- A reading is always answered, and leaves the world read. -/
theorem World.read_of_answer (world : World) {c : Call} (hread : c.isReading) :
    ∃ reply after, world.answer c = (.ok reply, after) ∧ world.Read after ∧
      c.Answers world.store reply after.store := by
  have halone : world.answer c = world.answerAlone c := by
    cases c with
    | commit writes => cases hread
    | _ => rfl
  rw [halone]
  cases hdown : world.isDown c.service with
  | true =>
    have hanswer := answerAlone_of_down hdown
    refine ⟨_, _, hanswer, ⟨rfl, rfl, rfl, rfl, fun service hservice => ?_⟩,
      world, _, rfl, hanswer, rfl⟩
    refine world.isDown_afterDown fun heq => ?_
    rw [Call.isReading, heq, hservice] at hread
    cases hread
  | false =>
    obtain ⟨value, hvalue⟩ := world.serve_of_isReading hread
    have hanswer := (answerAlone_of_up hdown).trans hvalue
    exact ⟨_, _, hanswer, .refl world, world, _, rfl, hanswer, rfl⟩

/-- **A program that only reads** leaves the world read, and what it brings back meets its
condition in the store of that world. -/
theorem Program.run_of_reading {α : Type} {program : Program α} {post : α → Store → Prop}
    {rely : Rely} {world : World} (h : program.Conforms (.reading rely) post world.store) :
    world.Read (program.run world).2 ∧
      ∀ value, (program.run world).1 = .ok value → post value world.store := by
  induction program generalizing world with
  | done value =>
    refine ⟨.refl world, fun result hresult => ?_⟩
    obtain rfl := Except.ok.inj hresult
    exact h
  | fail failure => exact ⟨.refl world, nofun⟩
  | call c next ih =>
    obtain ⟨hread, hnext⟩ := h world.store (rely.refl world.store)
    obtain ⟨reply, after, hanswer, hafter, hanswers⟩ := world.read_of_answer hread
    obtain ⟨hrest, hpost⟩ := ih reply (hnext reply after.store hanswers)
    simp only [run, hanswer]
    exact ⟨hafter.trans hrest, fun value hvalue => hafter.store ▸ hpost value hvalue⟩

end OrderDesk
