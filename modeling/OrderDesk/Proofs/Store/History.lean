import OrderDesk.Proofs.Store.Later

/-!
# Nothing that is stored is lost

Anyone may commit any writes, and some of the commits fail. Whatever they write, an order that is
stored stays: its status changes once at most, from pending to paid or to cancelled, and all else
of it stays as it is. No number is given to two orders, and the ledger is only written on.

A run of commits is one commit of the writes that were carried out (`Store.commit_carriedOut`), so
it is enough to follow these write by write (`Store.nodup_inserted`, `Store.nodup_moved`).
-/

namespace OrderDesk

/-- The number of the order that a write adds, if it adds one. -/
def Write.inserted? : Write → Option OrderNo
  | .insert order => some order.orderNo
  | _ => none

/-- The number of the order that a write moves, if it moves one. -/
def Write.moved? : Write → Option OrderNo
  | .move orderNo _ _ => some orderNo
  | _ => none

/-- The entry that a write adds to the ledger, if it adds one. -/
def Write.entry? : Write → Option GiftEntry
  | .appendEntry entry => some entry
  | _ => none

/-- The order is the same but for its status, which is the same too unless the order was pending and
has been paid or cancelled. -/
def Order.Lasts (order later : Order) : Prop :=
  ∃ status, later = { order with status } ∧
    (status = order.status ∨ order.status = .pending ∧ (status = .paid ∨ status = .cancelled))

theorem Order.Evolves.lasts {order later : Order} (h : order.Evolves later) : order.Lasts later := by
  obtain ⟨status, rfl, hsame | hpending⟩ := h
  · exact ⟨status, rfl, .inl hsame⟩
  · refine ⟨status, rfl, ?_⟩
    cases status with
    | pending => exact .inl hpending.symm
    | paid => exact .inr ⟨hpending, .inl rfl⟩
    | cancelled => exact .inr ⟨hpending, .inr rfl⟩

namespace Store

/-! ### Runs of commits -/

/-- The store after some commits, of which those that fail change nothing. -/
def afterCommits (store : Store) (commits : List (List Write)) : Store :=
  commits.foldl (fun store writes => (World.commitTo store writes).2) store

/-- The writes of those commits that go through. -/
def carriedOut (store : Store) : List (List Write) → List Write
  | [] => []
  | writes :: rest =>
    match store.commit writes with
    | .ok after => writes ++ after.carriedOut rest
    | .error _ => store.carriedOut rest

/-- The status of a stored order is not the same in another store. -/
def hasMoved (before after : Store) (orderNo : OrderNo) : Bool :=
  match before.orders.find? orderNo, after.orders.find? orderNo with
  | some order, some later => order.status != later.status
  | _, _ => false

/-- How many of some commits change the status of a stored order. -/
def statusChanges (store : Store) (orderNo : OrderNo) : List (List Write) → Nat
  | [] => 0
  | writes :: rest =>
    let after := (World.commitTo store writes).2
    (if store.hasMoved after orderNo then 1 else 0) + after.statusChanges orderNo rest

variable {store before after : Store}

theorem afterCommits_cons (store : Store) (writes : List Write) (rest : List (List Write)) :
    store.afterCommits (writes :: rest) = (World.commitTo store writes).2.afterCommits rest := rfl

theorem afterCommits_append (store : Store) (earlier later : List (List Write)) :
    store.afterCommits (earlier ++ later) = (store.afterCommits earlier).afterCommits later :=
  List.foldl_append

/-- What a commit leaves, whatever its answer: the store that it makes, or the one before it. -/
theorem commitTo_cases (store : Store) (writes : List Write) :
    (∃ after, store.commit writes = .ok after ∧ (World.commitTo store writes).2 = after) ∨
      ∃ fault, store.commit writes = .error fault ∧ (World.commitTo store writes).2 = store := by
  rw [commitTo_snd, outcome]
  cases store.commit writes with
  | ok after => exact .inl ⟨after, rfl, rfl⟩
  | error fault => exact .inr ⟨fault, rfl, rfl⟩

/-- **A run of commits is one commit of the writes that are carried out.** -/
theorem commit_carriedOut (store : Store) (commits : List (List Write)) :
    store.commit (store.carriedOut commits) = .ok (store.afterCommits commits) := by
  induction commits generalizing store with
  | nil => exact commit_nil store
  | cons writes rest ih =>
    rw [afterCommits_cons, carriedOut]
    rcases store.commitTo_cases writes with ⟨after, hcommit, hleft⟩ | ⟨fault, hcommit, hleft⟩
    · rw [hleft, hcommit]
      exact commit_append_eq_ok_iff.2 ⟨after, hcommit, ih after⟩
    · rw [hleft, hcommit]
      exact ih store

/-- What some commits leave is a later store. -/
theorem later_of_afterCommits (store : Store) (commits : List (List Write)) :
    store.Later (store.afterCommits commits) := later_of_commit (store.commit_carriedOut commits)

/-! ### The ledger -/

theorem ledger_of_write {w : Write} (h : store.write w = .ok after) :
    after.ledger = store.ledger ++ w.entry?.toList := by
  cases w with
  | appendEntry entry =>
    obtain rfl := write_appendEntry_eq_ok_iff.1 h
    rfl
  | setGiftBalance id expected balance =>
    obtain ⟨user, -, -, -, rfl⟩ := write_setGiftBalance_eq_ok_iff.1 h
    exact (List.append_nil _).symm
  | takeUnit id =>
    obtain ⟨plan, -, -, rfl⟩ := write_takeUnit_eq_ok_iff.1 h
    exact (List.append_nil _).symm
  | returnUnit id =>
    obtain ⟨-, rfl⟩ | ⟨plan, -, -, rfl⟩ := write_returnUnit_eq_ok_iff.1 h <;>
      exact (List.append_nil _).symm
  | redeem code =>
    obtain ⟨coupon, -, -, -, rfl⟩ := write_redeem_eq_ok_iff.1 h
    exact (List.append_nil _).symm
  | release code =>
    obtain ⟨-, rfl⟩ | ⟨coupon, -, rfl⟩ := write_release_eq_ok_iff.1 h <;>
      exact (List.append_nil _).symm
  | insert order =>
    obtain ⟨-, rfl⟩ := write_insert_eq_ok_iff.1 h
    exact (List.append_nil _).symm
  | move orderNo current next =>
    obtain ⟨order, -, -, -, rfl⟩ := write_move_eq_ok_iff.1 h
    exact (List.append_nil _).symm

/-- A commit adds the entries of its writes to the ledger. -/
theorem ledger_of_commit {writes : List Write} (h : store.commit writes = .ok after) :
    after.ledger = store.ledger ++ writes.filterMap Write.entry? := by
  induction writes generalizing store with
  | nil =>
    obtain rfl := commit_nil_eq_ok_iff.1 h
    exact (List.append_nil _).symm
  | cons w rest ih =>
    obtain ⟨next, hwrite, hrest⟩ := commit_cons_eq_ok_iff.1 h
    rw [ih hrest, ledger_of_write hwrite, List.append_assoc]
    cases hentry : w.entry? with
    | none => rw [List.filterMap_cons_none hentry, Option.toList_none, List.nil_append]
    | some entry => rw [List.filterMap_cons_some hentry, Option.toList_some, List.singleton_append]

theorem ledger_prefix_of_commit {writes : List Write} (h : store.commit writes = .ok after) :
    store.ledger <+: after.ledger := by
  rw [ledger_of_commit h]
  exact List.prefix_append _ _

/-! ### Numbers that are inserted and moved -/

/-- A number under which nothing is stored later was free before. -/
theorem Later.absent (h : before.Later after) {orderNo : OrderNo}
    (habsent : after.orders.find? orderNo = none) : before.orders.find? orderNo = none := by
  cases hfound : before.orders.find? orderNo with
  | none => rfl
  | some order =>
    obtain ⟨later, hlater, -⟩ := h.orders orderNo order hfound
    simp [habsent] at hlater

/-- An order that is pending later, if it is there, was pending before. -/
theorem Later.pending (h : before.Later after) {orderNo : OrderNo}
    (hpending : ∀ order ∈ after.orders.find? orderNo, order.status = .pending) :
    ∀ order ∈ before.orders.find? orderNo, order.status = .pending := by
  intro order hfound
  obtain ⟨later, hlater, status, rfl, hsame | hbefore⟩ := h.orders orderNo order hfound
  · exact hsame ▸ hpending _ hlater
  · exact hbefore

/-- An order that a write adds was not there, and is there then. -/
theorem insert_of_write {w : Write} {orderNo : OrderNo} (hinserts : w.inserted? = some orderNo)
    (h : store.write w = .ok after) :
    store.orders.find? orderNo = none ∧ after.orders.find? orderNo ≠ none := by
  cases w with
  | insert order =>
    obtain rfl := Option.some.inj hinserts
    obtain ⟨habsent, rfl⟩ := write_insert_eq_ok_iff.1 h
    refine ⟨habsent, ?_⟩
    rw [Table.find?_put_self]
    exact Option.some_ne_none order
  | _ => cases hinserts

/-- An order that a write moves was pending, and is not pending then. -/
theorem move_of_write {w : Write} {orderNo : OrderNo} (hmoves : w.moved? = some orderNo)
    (h : store.write w = .ok after) :
    (∀ order ∈ store.orders.find? orderNo, order.status = .pending) ∧
      ∃ order ∈ after.orders.find? orderNo, order.status ≠ .pending := by
  cases w with
  | move no current next =>
    obtain rfl := Option.some.inj hmoves
    obtain ⟨order, hfound, hstatus, hmove, rfl⟩ := write_move_eq_ok_iff.1 h
    obtain rfl := Table.key_of_find? hfound
    rw [OrderStatus.canMoveTo, Bool.and_eq_true, beq_iff_eq, bne_iff_ne] at hmove
    refine ⟨?_, { order with status := next }, Table.find?_put_self _ _, hmove.2⟩
    intro stored hstored
    obtain rfl := Option.some.inj (hfound.symm.trans hstored)
    exact hstatus.trans hmove.1
  | _ => cases hmoves

/-- **No number is inserted twice** in a commit, nor one that is taken. -/
theorem nodup_inserted {writes : List Write} (h : store.commit writes = .ok after) :
    (writes.filterMap Write.inserted?).Nodup ∧
      ∀ orderNo ∈ writes.filterMap Write.inserted?, store.orders.find? orderNo = none := by
  induction writes generalizing store with
  | nil => exact ⟨List.nodup_nil, nofun⟩
  | cons w rest ih =>
    obtain ⟨next, hwrite, hrest⟩ := commit_cons_eq_ok_iff.1 h
    obtain ⟨hnodup, hfree⟩ := ih hrest
    have hfree' : ∀ orderNo ∈ rest.filterMap Write.inserted?, store.orders.find? orderNo = none :=
      fun orderNo hmem => (later_of_write hwrite).absent (hfree orderNo hmem)
    cases hinserts : w.inserted? with
    | none =>
      rw [List.filterMap_cons_none hinserts]
      exact ⟨hnodup, hfree'⟩
    | some orderNo =>
      obtain ⟨habsent, htaken⟩ := insert_of_write hinserts hwrite
      rw [List.filterMap_cons_some hinserts]
      exact ⟨List.nodup_cons.2 ⟨fun hmem => htaken (hfree orderNo hmem), hnodup⟩,
        List.forall_mem_cons.2 ⟨habsent, hfree'⟩⟩

/-- **No order is moved twice** in a commit, nor one that is not pending. -/
theorem nodup_moved {writes : List Write} (h : store.commit writes = .ok after) :
    (writes.filterMap Write.moved?).Nodup ∧
      ∀ orderNo ∈ writes.filterMap Write.moved?, ∀ order ∈ store.orders.find? orderNo,
        order.status = .pending := by
  induction writes generalizing store with
  | nil => exact ⟨List.nodup_nil, nofun⟩
  | cons w rest ih =>
    obtain ⟨next, hwrite, hrest⟩ := commit_cons_eq_ok_iff.1 h
    obtain ⟨hnodup, hpending⟩ := ih hrest
    have hpending' : ∀ orderNo ∈ rest.filterMap Write.moved?,
        ∀ order ∈ store.orders.find? orderNo, order.status = .pending :=
      fun orderNo hmem => (later_of_write hwrite).pending (hpending orderNo hmem)
    cases hmoves : w.moved? with
    | none =>
      rw [List.filterMap_cons_none hmoves]
      exact ⟨hnodup, hpending'⟩
    | some orderNo =>
      obtain ⟨hbefore, order, hfound, hmoved⟩ := move_of_write hmoves hwrite
      rw [List.filterMap_cons_some hmoves]
      exact ⟨List.nodup_cons.2 ⟨fun hmem => hmoved (hpending orderNo hmem order hfound), hnodup⟩,
        List.forall_mem_cons.2 ⟨hbefore, hpending'⟩⟩

/-! ### Changes of a status -/

theorem hasMoved_iff {orderNo : OrderNo} : before.hasMoved after orderNo = true ↔
    ∃ order later, before.orders.find? orderNo = some order ∧
      after.orders.find? orderNo = some later ∧ order.status ≠ later.status := by
  unfold hasMoved
  split
  · rename_i order later hbefore hafter
    simp [hbefore, hafter]
  · rename_i hnone
    simp only [Bool.false_eq_true, false_iff]
    rintro ⟨order, later, hbefore, hafter, -⟩
    exact hnone order later hbefore hafter

/-- The status of an order that is not pending does not change any more. -/
theorem statusChanges_of_settled {orderNo : OrderNo} {order : Order}
    (hfound : store.orders.find? orderNo = some order) (hsettled : order.status ≠ .pending)
    (commits : List (List Write)) : store.statusChanges orderNo commits = 0 := by
  induction commits generalizing store order with
  | nil => rfl
  | cons writes rest ih =>
    have hlater := store.later_of_afterCommits [writes]
    obtain ⟨later, hlast, status, rfl, hsame | hpending⟩ := hlater.orders orderNo order hfound
    · have hstays : store.hasMoved (store.afterCommits [writes]) orderNo = false := by
        rw [hasMoved, hfound, hlast, hsame]
        exact bne_self_eq_false order.status
      have hrest := ih hlast (hsame ▸ hsettled)
      rw [statusChanges]
      exact Nat.add_eq_zero_iff.2 ⟨if_neg (Bool.eq_false_iff.1 hstays), hrest⟩
    · exact absurd hpending hsettled

/-- **The status of an order changes once at most.** -/
theorem statusChanges_le_one (store : Store) (orderNo : OrderNo) (commits : List (List Write)) :
    store.statusChanges orderNo commits ≤ 1 := by
  induction commits generalizing store with
  | nil => exact Nat.zero_le 1
  | cons writes rest ih =>
    rw [statusChanges]
    split
    · rename_i hmoved
      obtain ⟨order, later, hbefore, hafter, hstatus⟩ := hasMoved_iff.1 hmoved
      obtain ⟨found, hfound, status, rfl, hsame | hpending⟩ :=
        (store.later_of_afterCommits [writes]).orders orderNo order hbefore
      · obtain rfl := Option.some.inj (hafter.symm.trans hfound)
        exact absurd hsame.symm hstatus
      · have hsettled : later.status ≠ .pending := fun hlater => hstatus (hpending.trans hlater.symm)
        have hrest := statusChanges_of_settled hafter hsettled rest
        omega
    · rw [Nat.zero_add]
      exact ih _

/-- **What is stored lasts**, whatever is committed and whichever of the commits fail. Between any
two moments of a run no order goes away and none is changed but in its status, which changes once
at most, from pending to paid or to cancelled; and nothing goes away from the ledger. The writes
that are carried out make up the run: no number is inserted twice by them, nor one that was taken
at the start, and no order is moved twice. -/
theorem history_lasts (store : Store) (earlier later : List (List Write)) :
    (store.afterCommits earlier).orders.Evolves Order.Lasts
        (store.afterCommits (earlier ++ later)).orders ∧
      (store.afterCommits earlier).ledger <+: (store.afterCommits (earlier ++ later)).ledger ∧
      (∀ orderNo, store.statusChanges orderNo (earlier ++ later) ≤ 1) ∧
      store.commit (store.carriedOut (earlier ++ later)) =
        .ok (store.afterCommits (earlier ++ later)) ∧
      ((store.carriedOut (earlier ++ later)).filterMap Write.inserted?).Nodup ∧
      (∀ orderNo ∈ (store.carriedOut (earlier ++ later)).filterMap Write.inserted?,
        store.orders.find? orderNo = none) ∧
      ((store.carriedOut (earlier ++ later)).filterMap Write.moved?).Nodup := by
  have hrun := store.commit_carriedOut (earlier ++ later)
  have hrest := (store.afterCommits earlier).commit_carriedOut later
  rw [← afterCommits_append] at hrest
  obtain ⟨hinserted, hfree⟩ := nodup_inserted hrun
  have horders := (later_of_commit hrest).orders.mono fun _ _ => Order.Evolves.lasts
  exact ⟨horders, ledger_prefix_of_commit hrest,
    fun orderNo => statusChanges_le_one store orderNo _, hrun, hinserted, hfree,
    (nodup_moved hrun).1⟩

end Store

end OrderDesk
