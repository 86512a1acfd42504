import OrderDesk.Proofs.Desk.Conduct

/-!
# Clients at the desk

Any number of clients work at the same store and the same queue. Each has a program to run,
and the desk answers one call of one client at a time, in any order; a client that is not
answered any more has gone away in the middle of its work. Services go down and come up and
the clock is set, at any time. What a client has read may be stale by the time it commits.

A run of the desk is a list of events, so that what is proved for all lists is proved for all
interleavings.

## What is proved

* `Desk.after_tradesIn`: after every event the clients still trade, and the store has changed by
  placing, closing or paying an order, if it has changed at all. An order that is placed meets
  a condition in the store where it is placed.
* `Desk.run_preserves_placingIn`: what these changes preserve holds after every run.
-/

namespace OrderDesk

/-- What a client comes to the desk for. -/
inductive Job
  /-- Buys, renews or recharges. -/
  | submit (config : Config) (stamp : Submission.Stamp) (session : Option UserId) (request : Request)
  | close (orderNo : OrderNo) (now : Instant)
  | pay (orderNo : OrderNo)
  /-- Works off the tasks that are due. -/
  | work (deadline now : Instant)

namespace Job

/-- Pays an order that is pending. -/
def payment (orderNo : OrderNo) : Program Unit :=
  Program.transaction "pay order" (.ok [.move orderNo .pending .paid])

/-- The program that a client runs, of which the outcome does not matter any more. -/
def program : Job → Program Unit
  | .submit config stamp session request => do
    let _ ← OrderDesk.submit config stamp session request
    return ()
  | .close orderNo now => do
    let _ ← Expiry.close orderNo now
    return ()
  | .pay orderNo => payment orderNo
  | .work deadline now => do
    let _ ← Expiry.runDue deadline now
    return ()

/-! ### What is asked of a submission -/

section Submits

variable {p q : Config → Submission.Stamp → Option UserId → Request → Prop}

/-- If the job is a submission, then something is so of it. -/
def Submits (p : Config → Submission.Stamp → Option UserId → Request → Prop) : Job → Prop
  | .submit config stamp session request => p config stamp session request
  | .close _ _ | .pay _ | .work _ _ => True

instance [∀ config stamp session request, Decidable (p config stamp session request)] :
    DecidablePred (Submits p)
  | .submit config stamp session request =>
    inferInstanceAs (Decidable (p config stamp session request))
  | .close _ _ | .pay _ | .work _ _ => .isTrue trivial

theorem submits_of_forall (h : ∀ config stamp session request, p config stamp session request)
    (job : Job) : job.Submits p := by
  cases job with
  | submit config stamp session request => exact h config stamp session request
  | close orderNo now => trivial
  | pay orderNo => trivial
  | work deadline now => trivial

theorem Submits.mono
    (hpq : ∀ config stamp session request, p config stamp session request →
      q config stamp session request)
    {job : Job} (h : job.Submits p) : job.Submits q := by
  cases job with
  | submit config stamp session request => exact hpq config stamp session request h
  | close orderNo now => trivial
  | pay orderNo => trivial
  | work deadline now => trivial

end Submits

variable {P : Order → Prop}

/-- Every order that is prepared for a submission meets a condition. -/
def Places (P : Order → Prop) : Job → Prop :=
  Submits fun config stamp session request => ∀ store f,
    Submission.Prepared .updating config stamp session store request f → P f.order

/-- Every order that is prepared for a submission meets a condition, in the store that it was
prepared from and in what others make of that. -/
def PlacesIn (P : Store → Order → Prop) : Job → Prop :=
  Submits fun config stamp session request => ∀ store f,
    Submission.Prepared .updating config stamp session store request f →
      ∀ later, store.Updated later → P later f.order

theorem Places.placesIn {job : Job} (h : job.Places P) : job.PlacesIn fun _ => P :=
  Submits.mono (fun _ _ _ _ hplaces store f hprepared _ _ => hplaces store f hprepared) h

/-- A condition that every order meets. -/
theorem places_of_forall (h : ∀ order, P order) (job : Job) : job.Places P := by
  refine job.submits_of_forall ?_
  intro config stamp session request store f hprepared
  exact h f.order

theorem program_conforms {P : Store → Order → Prop} (job : Job) (known : Store)
    (h : job.PlacesIn P) : job.program.Conforms (.deskIn P) (fun _ _ => True) known := by
  cases job with
  | submit config stamp session request =>
    exact Program.conforms_bind_any (submit_conforms h) fun _ _ _ => trivial
  | close orderNo now =>
    exact Program.conforms_bind_any (Expiry.close_trades orderNo now).deskIn fun _ _ _ => trivial
  | pay orderNo =>
    refine transaction_conforms fun store after _ hcommit => ?_
    obtain ⟨order, hpaid⟩ := Store.paid_of_commit hcommit
    exact .paid order hpaid
  | work deadline now =>
    exact Program.conforms_bind_any (Expiry.runDue_trades deadline now).deskIn
      fun _ _ _ => trivial

theorem program_trades (job : Job) (known : Store) (h : job.Places P) :
    job.program.Trades P known :=
  job.program_conforms known h.placesIn

end Job

/-- A desk with its clients, each with what is left of its program. -/
structure Desk where
  world : World
  clients : List (Program Unit)

/-- Something that happens at the desk. -/
inductive Event
  /-- A client comes. -/
  | enter (job : Job)
  /-- The next call of a client is answered. -/
  | serve (client : Nat)
  /-- A service goes down for some calls, or for all when there is no number. -/
  | fail (service : Service) (calls : Option Nat)
  /-- All services come up. -/
  | heal
  /-- The clock is set. -/
  | tick (now : Instant)

namespace Event

section Brings

variable {p q : Job → Prop}

/-- If a client comes, then something is so of the job. -/
def Brings (p : Job → Prop) : Event → Prop
  | .enter job => p job
  | .serve _ | .fail _ _ | .heal | .tick _ => True

instance [DecidablePred p] : DecidablePred (Brings p)
  | .enter job => inferInstanceAs (Decidable (p job))
  | .serve _ | .fail _ _ | .heal | .tick _ => .isTrue trivial

theorem brings_of_forall (h : ∀ job, p job) (event : Event) : event.Brings p := by
  cases event with
  | enter job => exact h job
  | serve client => trivial
  | fail service calls => trivial
  | heal => trivial
  | tick now => trivial

theorem Brings.mono (hpq : ∀ job, p job → q job) {event : Event} (h : event.Brings p) :
    event.Brings q := by
  cases event with
  | enter job => exact hpq job h
  | serve client => trivial
  | fail service calls => trivial
  | heal => trivial
  | tick now => trivial

end Brings

/-- The job of a client who comes places orders that meet a condition. -/
def Places (P : Order → Prop) : Event → Prop := Brings (Job.Places P)

/-- The job of a client who comes places orders that meet a condition, which may be one on the store
as well. -/
def PlacesIn (P : Store → Order → Prop) : Event → Prop := Brings (Job.PlacesIn P)

variable {P : Order → Prop} {event : Event}

theorem Places.placesIn (h : event.Places P) : event.PlacesIn fun _ => P :=
  Brings.mono (fun _ => Job.Places.placesIn) h

/-- A condition that every order meets. -/
theorem places_of_forall (h : ∀ order, P order) (event : Event) : event.Places P :=
  event.brings_of_forall (Job.places_of_forall h)

end Event

namespace Desk

/-- A desk without clients. -/
def opened (world : World) : Desk := ⟨world, []⟩

/-- Answers the next call of a client, if the client is there and has one. -/
def serve (desk : Desk) (client : Nat) : Desk :=
  match desk.clients[client]? with
  | some (.call c next) =>
    match desk.world.answerAlone c with
    | (.ok reply, world) => ⟨world, desk.clients.set client (next reply)⟩
    | (.error overflow, world) => ⟨world, desk.clients.set client (.fail (.stopped overflow))⟩
  | _ => desk

/-- The desk after an event. -/
def after (desk : Desk) : Event → Desk
  | .enter job => { desk with clients := desk.clients ++ [job.program] }
  | .serve client => desk.serve client
  | .fail service calls => { desk with world := desk.world.fail service calls }
  | .heal => { desk with world := desk.world.heal }
  | .tick now => { desk with world.now := now }

/-- The desk after some events. -/
def run (desk : Desk) (events : List Event) : Desk := events.foldl after desk

/-! ### What an event changes -/

variable {P : Store → Order → Prop}

/-- Every client goes on as a client of the desk does, whatever the others do, and places orders
that meet a condition in the store where they are placed. -/
def TradesIn (desk : Desk) (P : Store → Order → Prop) : Prop :=
  ∀ program ∈ desk.clients, program.Conforms (.deskIn P) (fun _ _ => True) desk.world.store

/-- Every client goes on as a client of the desk does, whatever the others do. -/
def Trades (desk : Desk) (P : Order → Prop) : Prop :=
  ∀ program ∈ desk.clients, program.Trades P desk.world.store

theorem opened_tradesIn (world : World) : (opened world).TradesIn P := nofun

theorem opened_trades {P : Order → Prop} (world : World) : (opened world).Trades P := nofun

/-- Clients that trade in a store trade in one that others have made of it as well. -/
theorem TradesIn.updated {desk : Desk} {world : World} (h : desk.TradesIn P)
    (hupdated : desk.world.store.Updated world.store) : TradesIn { desk with world } P :=
  fun program hprogram => (h program hprogram).later hupdated

theorem Trades.updated {P : Order → Prop} {desk : Desk} {world : World} (h : desk.Trades P)
    (hupdated : desk.world.store.Updated world.store) : Trades { desk with world } P :=
  TradesIn.updated (P := fun _ => P) h hupdated

theorem TradesIn.set {desk : Desk} (h : desk.TradesIn P) (client : Nat) {program : Program Unit}
    (hprogram : program.Conforms (.deskIn P) (fun _ _ => True) desk.world.store) :
    TradesIn { desk with clients := desk.clients.set client program } P := by
  intro other hother
  obtain hmem | rfl := List.mem_or_eq_of_mem_set hother
  · exact h other hmem
  · exact hprogram

/-- Answering one call of one client. -/
theorem serve_tradesIn {desk : Desk} (h : desk.TradesIn P) (client : Nat) :
    (desk.serve client).TradesIn P ∧ ((desk.serve client).world.store = desk.world.store ∨
      desk.world.store.Later (desk.serve client).world.store ∧
        desk.world.store.Change (P desk.world.store) (desk.serve client).world.store) := by
  unfold serve
  split
  · rename_i c next hclient
    have hmem := List.mem_of_getElem? hclient
    obtain ⟨htrades, hnext⟩ := h _ hmem desk.world.store (Store.Updated.refl _)
    split
    · rename_i reply world hanswer
      have hanswers : c.Answers desk.world.store reply world.store :=
        ⟨desk.world, world, rfl, hanswer, rfl⟩
      have hupdated := (Conduct.deskIn P).keeps htrades hanswers
      exact ⟨(h.updated hupdated).set client (hnext reply _ hanswers), htrades.change hanswers⟩
    · rename_i overflow world hanswer
      have hstore := World.store_of_overflow hanswer
      exact ⟨(h.updated (hstore ▸ .refl _)).set client trivial, .inl hstore⟩
  · exact ⟨h, .inl rfl⟩

/-- **What an event changes.** The clients go on as clients of the desk do, and the store has
changed by placing, closing or paying an order, if it has changed at all. -/
theorem after_tradesIn {desk : Desk} (h : desk.TradesIn P) {event : Event}
    (hevent : event.PlacesIn P) :
    (desk.after event).TradesIn P ∧ ((desk.after event).world.store = desk.world.store ∨
      desk.world.store.Later (desk.after event).world.store ∧
        desk.world.store.Change (P desk.world.store) (desk.after event).world.store) := by
  cases event with
  | enter job =>
    refine ⟨fun program hmem => ?_, .inl rfl⟩
    rcases List.mem_append.1 hmem with hold | hnew
    · exact h program hold
    · rw [List.mem_singleton.1 hnew]
      exact job.program_conforms desk.world.store hevent
  | serve client => exact serve_tradesIn h client
  | fail service calls => exact ⟨h, .inl rfl⟩
  | heal => exact ⟨h, .inl rfl⟩
  | tick now => exact ⟨h, .inl rfl⟩

theorem after_trades {P : Order → Prop} {desk : Desk} (h : desk.Trades P) {event : Event}
    (hevent : event.Places P) :
    (desk.after event).Trades P ∧ ((desk.after event).world.store = desk.world.store ∨
      desk.world.store.Later (desk.after event).world.store ∧
        desk.world.store.Change P (desk.after event).world.store) :=
  after_tradesIn (P := fun _ => P) h hevent.placesIn

/-- **What the changes of a store preserve holds after every run**, in whatever order the calls of
the clients are answered, when the orders that are placed meet a condition in the store where they
are placed. -/
theorem run_preserves_placingIn {Q : Store → Prop}
    (hchange : ∀ before after, Q before → before.Later after → before.Change (P before) after →
      Q after)
    {desk : Desk} (htrades : desk.TradesIn P) (h : Q desk.world.store) (events : List Event)
    (hevents : ∀ event ∈ events, event.PlacesIn P) : Q (desk.run events).world.store := by
  induction events generalizing desk with
  | nil => exact h
  | cons event rest ih =>
    obtain ⟨hevent, hrest⟩ := List.forall_mem_cons.1 hevents
    obtain ⟨htrades', hstore⟩ := after_tradesIn htrades hevent
    refine ih htrades' ?_ hrest
    rcases hstore with hsame | ⟨hlater, hchanged⟩
    · exact hsame ▸ h
    · exact hchange _ _ h hlater hchanged

/-- What the changes of a store preserve holds after every run, when the orders that are placed meet
a condition. -/
theorem run_preserves_placing {P : Order → Prop} {Q : Store → Prop}
    (hchange : ∀ before after, Q before → before.Later after → before.Change P after → Q after)
    {desk : Desk} (htrades : desk.Trades P) (h : Q desk.world.store) (events : List Event)
    (hevents : ∀ event ∈ events, event.Places P) : Q (desk.run events).world.store :=
  run_preserves_placingIn (P := fun _ => P) hchange htrades h events fun event hmem =>
    (hevents event hmem).placesIn

/-- What the changes of a store preserve holds after every run. -/
theorem run_preserves {P : Store → Prop}
    (hchange : ∀ before after, P before → before.Later after →
      before.Change (fun _ => True) after → P after)
    {desk : Desk} (htrades : desk.Trades fun _ => True) (h : P desk.world.store)
    (events : List Event) : P (desk.run events).world.store :=
  run_preserves_placing hchange htrades h events fun event _ =>
    event.places_of_forall fun _ => trivial

/-! ### One run -/

/-- One unit is left of a plan, and a user with some gift balance and a coupon wants it. -/
def lastUnit : World :=
  .calm
    { Store.empty with
      plans := .ofList [⟨7, "basic", 300, .empty, 1, 0, true⟩]
      payments := .ofList [⟨3, "card", .none⟩]
      coupons := .ofList [⟨"TEN", .fixed 10, 0, 2, 5, []⟩]
      users := .ofList [⟨1, 500⟩] }
    .empty ⟨0, 0⟩

/-- Buys one unit with the coupon. -/
def purchase (orderNo : OrderNo) : Job :=
  .submit .standard ⟨orderNo, ⟨0, 0⟩⟩ (some 1) (.purchase ⟨7, 1, some "TEN", 3⟩)

/-- Two purchases find the unit there before either of them commits, and one of the two gets it.
That order is closed, and a third purchase gets the unit. -/
def rush : List Event :=
  .enter (purchase "first") :: .enter (purchase "second") ::
    (List.replicate 9 [.serve 0, .serve 1]).flatten ++
    .enter (.close "first" ⟨900, 0⟩) :: List.replicate 3 (.serve 2) ++
    .enter (purchase "third") :: List.replicate 9 (.serve 3)

end Desk

end OrderDesk
