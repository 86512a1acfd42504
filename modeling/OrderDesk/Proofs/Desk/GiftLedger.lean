import OrderDesk.Proofs.Desk.Clients

/-!
# The gift ledger tells the gift balances

The balance in an entry of the ledger was worked out from a balance that was read before the
commit, and others may have moved the balance in between. The commit then is refused, and so
every entry follows on the one before it: read in order from the balance of the start, the
entries of a user lead to the balance that the user has (`Store.Audited`).

There is one entry for what an order took and one for what a cancelled order gave back, and
there are no others.
-/

namespace OrderDesk

/-! ### Reading a ledger -/

/-- Entries lead from one balance to another: each moves the balance that the one before it tells,
by an amount above zero, and tells a balance not below zero. -/
def Replays : Amount → List GiftEntry → Amount → Prop
  | balance, [], last => balance = last
  | balance, entry :: rest, last =>
    0 < entry.amount ∧ 0 ≤ entry.balance ∧
      entry.balance = balance + entry.change.signed entry.amount ∧ Replays entry.balance rest last

theorem Replays.append {first middle : Amount} {entries : List GiftEntry} {entry : GiftEntry}
    (h : Replays first entries middle) (hamount : 0 < entry.amount) (hnonneg : 0 ≤ entry.balance)
    (hbalance : entry.balance = middle + entry.change.signed entry.amount) :
    Replays first (entries ++ [entry]) entry.balance := by
  induction entries generalizing first with
  | nil =>
    obtain rfl : first = middle := h
    exact ⟨hamount, hnonneg, hbalance, rfl⟩
  | cons next rest ih =>
    obtain ⟨hnext, hleft, hmoved, hrest⟩ := h
    exact ⟨hnext, hleft, hmoved, ih hrest⟩

/-- Some entries tell of an order: one if the order moved a balance, and none if it did not. -/
def Order.ToldBy (order : Order) (change : GiftChange) (moved : Prop) (entries : List GiftEntry) :
    Prop :=
  (moved → ∃ entry, entries = [entry] ∧ entry.Tells order change) ∧ (¬moved → entries = [])

/-- What is told of an order does not depend on where it stands. -/
theorem Order.ToldBy.withStatus {order : Order} {change : GiftChange} {moved : Prop}
    {entries : List GiftEntry} (h : order.ToldBy change moved entries) (status : OrderStatus) :
    (order.withStatus status).ToldBy change moved entries := by
  refine ⟨fun hmoved => ?_, h.2⟩
  obtain ⟨entry, hentries, htells⟩ := h.1 hmoved
  exact ⟨entry, hentries, htells.userId, htells.change, htells.orderNo, htells.amount⟩

namespace Store

/-- The entries for an order that raise, or that lower, a balance. -/
def entriesOf (store : Store) (orderNo : OrderNo) (change : GiftChange) : List GiftEntry :=
  store.ledger.filter fun entry => entry.orderNo == orderNo && entry.change == change

/-- The ledger tells how the gift balances have come from those of the start, and the orders tell
how the ledger has come about. -/
structure Audited (seed store : Store) : Prop where
  replays : seed.users.Related
    (fun id seeded user => Replays seeded.giftAmount (store.ledgerOf id) user.giftAmount) store.users
  /-- What an order took from the gift balance is told once. -/
  taken : ∀ orderNo order, store.orders.find? orderNo = some order →
    order.ToldBy .decrease (0 < order.giftAmount) (store.entriesOf orderNo .decrease)
  /-- What a cancelled order gave back is told once. -/
  returned : ∀ orderNo order, store.orders.find? orderNo = some order →
    order.ToldBy .increase (0 < order.giftAmount ∧ order.status = .cancelled)
      (store.entriesOf orderNo .increase)
  /-- There is an order to every entry. -/
  orders : ∀ entry ∈ store.ledger, ∃ order,
    store.orders.find? entry.orderNo = some order ∧ 0 < order.giftAmount

end Store

/-! ### What a move adds to the ledger -/

namespace Order

variable {order : Order} {change : GiftChange} {users : Table User.id} {entries : List GiftEntry}

theorem Recorded.toldBy (h : order.Recorded change users entries) :
    order.ToldBy change (0 < order.giftAmount) entries := by
  refine ⟨fun hpos => ?_, fun hnot => (recorded_iff_of_le (Int.not_lt.1 hnot)).1 h⟩
  obtain ⟨entry, hentries, hrecords⟩ := (recorded_iff_of_pos hpos).1 h
  exact ⟨entry, hentries, hrecords.toTells⟩

/-- An entry that was recorded is for the order and its user, and the order took something. -/
theorem Recorded.of_mem (h : order.Recorded change users entries) {entry : GiftEntry}
    (hmem : entry ∈ entries) : 0 < order.giftAmount ∧ entry.Records order change users := by
  by_cases hpos : 0 < order.giftAmount
  · obtain ⟨only, rfl, hrecords⟩ := (recorded_iff_of_pos hpos).1 h
    exact ⟨hpos, List.mem_singleton.1 hmem ▸ hrecords⟩
  · rw [(recorded_iff_of_le (Int.not_lt.1 hpos)).1 h] at hmem
    cases hmem

end Order

namespace Store

variable {seed before after : Store} {order : Order} {change : GiftChange}
  {entries : List GiftEntry}

/-- A move adds entries of the order and of its own direction. -/
theorem entriesOf_of_append (hledger : after.ledger = before.ledger ++ entries)
    (hrecorded : order.Recorded change after.users entries) (orderNo : OrderNo)
    (direction : GiftChange) :
    after.entriesOf orderNo direction =
      before.entriesOf orderNo direction ++
        if order.orderNo = orderNo ∧ change = direction then entries else [] := by
  unfold entriesOf
  rw [hledger, List.filter_append]
  congr 1
  split
  · rename_i hsame
    refine List.filter_eq_self.2 fun entry hmem => ?_
    have htells := (hrecorded.of_mem hmem).2
    simp [htells.orderNo, htells.change, hsame]
  · rename_i hother
    refine List.filter_eq_nil_iff.2 fun entry hmem hkept => hother ?_
    have htells := (hrecorded.of_mem hmem).2
    simpa [htells.orderNo, htells.change] using hkept

/-- There are no entries for an order that is not there. -/
theorem Audited.entriesOf_of_absent (h : Audited seed before) {orderNo : OrderNo}
    (habsent : before.orders.find? orderNo = none) (direction : GiftChange) :
    before.entriesOf orderNo direction = [] := by
  refine List.filter_eq_nil_iff.2 fun entry hmem hkept => ?_
  obtain ⟨order, hfound, -⟩ := h.orders entry hmem
  simp only [Bool.and_eq_true, beq_iff_eq] at hkept
  rw [hkept.1, habsent] at hfound
  cases hfound

/-- The entries that a user gains are those of the order, if it is the user's. -/
theorem ledgerOf_of_append (hledger : after.ledger = before.ledger ++ entries)
    (hrecorded : order.Recorded change after.users entries) (id : UserId) :
    after.ledgerOf id = before.ledgerOf id ++ if order.userId = id then entries else [] := by
  unfold ledgerOf
  rw [hledger, List.filter_append]
  congr 1
  split
  · rename_i hsame
    refine List.filter_eq_self.2 fun entry hmem => ?_
    simp [(hrecorded.of_mem hmem).2.userId, hsame]
  · rename_i hother
    refine List.filter_eq_nil_iff.2 fun entry hmem hkept => hother ?_
    simpa [(hrecorded.of_mem hmem).2.userId] using hkept

end Store

/-! ### The invariant -/

namespace Store.Audited

variable {seed before after : Store} {order : Order} {change : GiftChange}

/-- A move of a balance is told by the next entry of its user. -/
theorem replays_of_recorded {entries : List GiftEntry} {seeded : Amount} {id : UserId} {user : User}
    (hreplays : Replays seeded (before.ledgerOf id) user.giftAmount)
    (hledger : after.ledger = before.ledger ++ entries)
    (hrecorded : order.Recorded change after.users entries)
    (hafter : after.users.find? id = some (user.credit (change.signed (order.giftOf id)))) :
    Replays seeded (after.ledgerOf id)
      (user.credit (change.signed (order.giftOf id))).giftAmount := by
  rw [ledgerOf_of_append hledger hrecorded]
  by_cases hid : order.userId = id
  · subst hid
    rw [if_pos rfl]
    by_cases hpos : 0 < order.giftAmount
    · obtain ⟨entry, rfl, hrecords⟩ := (Order.recorded_iff_of_pos hpos).1 hrecorded
      obtain ⟨stored, hstored, hbalance, hnonneg⟩ := hrecords.balance
      obtain rfl := Option.some.inj (hafter.symm.trans hstored)
      have hgift : order.giftOf order.userId = entry.amount := by
        rw [Order.giftOf_self, Int.max_eq_left (Int.le_of_lt hpos), hrecords.amount]
      have hmoved : entry.balance = user.giftAmount + entry.change.signed entry.amount := by
        rw [hbalance, hrecords.change, ← hgift]
        rfl
      rw [← hbalance] at hnonneg ⊢
      exact hreplays.append (hrecords.amount ▸ hpos) hnonneg hmoved
    · have hle : order.giftAmount ≤ 0 := Int.not_lt.1 hpos
      rw [(Order.recorded_iff_of_le hle).1 hrecorded, List.append_nil, Order.giftOf_of_le hle,
        GiftChange.signed_zero, User.credit_zero]
      exact hreplays
  · rw [if_neg hid, List.append_nil, Order.giftOf_of_ne hid, GiftChange.signed_zero,
      User.credit_zero]
    exact hreplays

theorem replays_of_moves (h : Audited seed before) (hmoves : order.MovesGift change before after) :
    seed.users.Related
      (fun id seeded user => Replays seeded.giftAmount (after.ledgerOf id) user.giftAmount)
      after.users := by
  obtain ⟨entries, hledger, hrecorded⟩ := hmoves.ledger
  exact h.replays.map hmoves.users fun id seeded user _ hafter hreplays =>
    replays_of_recorded hreplays hledger hrecorded hafter

/-- Where nothing has happened, there is nothing to tell. -/
theorem refl {seed : Store} (horders : seed.orders = .empty) (hledger : seed.ledger = []) :
    Audited seed seed where
  replays := .refl (fun id user => by simp [ledgerOf, hledger, Replays]) _
  taken orderNo order h := by simp [horders] at h
  returned orderNo order h := by simp [horders] at h
  orders entry h := by simp [hledger] at h

/-- An order that has been put in is there with what it took, and so are the others. -/
theorem exists_of_put {moved found : Order} {orderNo : OrderNo}
    (horders : after.orders = before.orders.put moved)
    (hold : ∀ old, before.orders.find? moved.orderNo = some old →
      old.giftAmount = moved.giftAmount)
    (hfound : before.orders.find? orderNo = some found) (hpos : 0 < found.giftAmount) :
    ∃ order, after.orders.find? orderNo = some order ∧ 0 < order.giftAmount := by
  rw [horders, Table.find?_put]
  by_cases hno : moved.orderNo = orderNo
  · subst hno
    exact ⟨moved, if_pos rfl, hold found hfound ▸ hpos⟩
  · exact ⟨found, (if_neg hno).trans hfound, hpos⟩

/-- After a move there is an order to every entry, the ones for the move included. -/
theorem exists_of_recorded (h : Audited seed before) {moved : Order} {entries : List GiftEntry}
    (hledger : after.ledger = before.ledger ++ entries)
    (hrecorded : order.Recorded change after.users entries)
    (horders : after.orders = before.orders.put moved) (hno : moved.orderNo = order.orderNo)
    (hgift : moved.giftAmount = order.giftAmount)
    (hold : ∀ old, before.orders.find? moved.orderNo = some old →
      old.giftAmount = moved.giftAmount)
    (entry : GiftEntry) (hmem : entry ∈ after.ledger) :
    ∃ found, after.orders.find? entry.orderNo = some found ∧ 0 < found.giftAmount := by
  rw [hledger] at hmem
  rcases List.mem_append.1 hmem with hearlier | hnew
  · obtain ⟨found, hfound, hpos⟩ := h.orders entry hearlier
    exact exists_of_put horders hold hfound hpos
  · obtain ⟨hpos, hrecords⟩ := hrecorded.of_mem hnew
    exact ⟨moved, by rw [horders, hrecords.orderNo, ← hno, Table.find?_put_self], hgift ▸ hpos⟩

theorem placed (h : Audited seed before) (hplaced : order.Placed before after) :
    Audited seed after := by
  obtain ⟨entries, hledger, hrecorded⟩ := hplaced.gift.ledger
  have hentries := entriesOf_of_append hledger hrecorded
  have hnone := h.entriesOf_of_absent hplaced.absent
  refine ⟨h.replays_of_moves hplaced.gift, fun orderNo found hfound => ?_,
    fun orderNo found hfound => ?_, ?_⟩
  · rw [hplaced.orders] at hfound
    obtain ⟨rfl, rfl⟩ | ⟨hother, hold⟩ := Table.found_of_put hfound
    · rw [hentries, hnone, if_pos ⟨rfl, rfl⟩, List.nil_append]
      exact hrecorded.toldBy
    · rw [hentries, if_neg (fun hsame => hother hsame.1), List.append_nil]
      exact h.taken orderNo found hold
  · rw [hplaced.orders] at hfound
    rw [hentries, if_neg (fun hsame => nomatch hsame.2), List.append_nil]
    obtain ⟨rfl, rfl⟩ | ⟨hother, hold⟩ := Table.found_of_put hfound
    · rw [hnone]
      exact ⟨fun hmoved => by simp [hplaced.pending] at hmoved, fun _ => rfl⟩
    · exact h.returned orderNo found hold
  · refine h.exists_of_recorded hledger hrecorded hplaced.orders rfl rfl fun old hsome => ?_
    simp [hplaced.absent] at hsome

theorem closed (h : Audited seed before) (hclosed : order.Closed before after) :
    Audited seed after := by
  obtain ⟨entries, hledger, hrecorded⟩ := hclosed.gift.ledger
  have hentries := entriesOf_of_append hledger hrecorded
  have hreturned : before.entriesOf order.orderNo .increase = [] :=
    (h.returned _ order hclosed.found).2 fun hmoved => by simp [hclosed.pending] at hmoved
  refine ⟨h.replays_of_moves hclosed.gift, fun orderNo found hfound => ?_,
    fun orderNo found hfound => ?_, ?_⟩
  · rw [hclosed.orders] at hfound
    rw [hentries, if_neg (fun hsame => nomatch hsame.2), List.append_nil]
    obtain ⟨rfl, rfl⟩ | ⟨hother, hold⟩ := Table.found_of_put hfound
    · exact (h.taken _ order hclosed.found).withStatus .cancelled
    · exact h.taken orderNo found hold
  · rw [hclosed.orders] at hfound
    obtain ⟨rfl, rfl⟩ | ⟨hother, hold⟩ := Table.found_of_put hfound
    · have htold := hrecorded.toldBy.withStatus .cancelled
      have hnow : after.entriesOf order.orderNo .increase = entries := by
        rw [hentries, hreturned, if_pos ⟨rfl, rfl⟩, List.nil_append]
      exact hnow ▸ ⟨fun hmoved => htold.1 hmoved.1, fun hnot => htold.2 fun hpos => hnot ⟨hpos, rfl⟩⟩
    · rw [hentries, if_neg (fun hsame => hother hsame.1), List.append_nil]
      exact h.returned orderNo found hold
  · refine h.exists_of_recorded hledger hrecorded hclosed.orders rfl rfl fun old hsome => ?_
    rw [Option.some.inj (hsome.symm.trans hclosed.found)]
    rfl

theorem paid (h : Audited seed before) (hpaid : order.Paid before after) :
    Audited seed after := by
  obtain ⟨hpending, hput, rfl⟩ : order.status = .pending ∧
      before.orders.find? order.orderNo = some order ∧
      after = { before with orders := before.orders.put (order.withStatus .paid) } :=
    ⟨hpaid.pending, hpaid.found, hpaid.store⟩
  refine ⟨h.replays, fun orderNo found hfound => ?_, fun orderNo found hfound => ?_,
    fun entry hmem => ?_⟩
  · obtain ⟨rfl, rfl⟩ | ⟨hother, hold⟩ := Table.found_of_put hfound
    · exact (h.taken _ order hput).withStatus .paid
    · exact h.taken orderNo found hold
  · obtain ⟨rfl, rfl⟩ | ⟨hother, hold⟩ := Table.found_of_put hfound
    · have htold := (h.returned _ order hput).2 fun hmoved => by simp [hpending] at hmoved
      exact ⟨fun hmoved => by simp [Order.withStatus] at hmoved, fun _ => htold⟩
    · exact h.returned orderNo found hold
  · obtain ⟨old, hold, hpos⟩ := h.orders entry hmem
    have horders : Store.orders { before with orders := before.orders.put (order.withStatus .paid) } =
        before.orders.put (order.withStatus .paid) := rfl
    refine exists_of_put horders (fun other hother => ?_) hold hpos
    rw [Option.some.inj (hother.symm.trans hput)]
    rfl

/-- **Every change of the store is told.** -/
theorem of_change {P : Order → Prop} (h : Audited seed before) (hchange : before.Change P after) :
    Audited seed after := by
  cases hchange with
  | placed order _ hplaced => exact h.placed hplaced
  | closed order hclosed => exact h.closed hclosed
  | paid order hpaid => exact h.paid hpaid

end Store.Audited

/-- **The gift ledger tells the gift balances.** At a desk that opens without orders and with an empty
ledger, this holds after every run: the entries of a user, read in order from the balance at the
start, lead to the balance that the user has; and there is one entry for what each order took and
one for what each cancelled order gave back, and no other. -/
theorem Desk.audited_of_run (world : World) (horders : world.store.orders = .empty)
    (hledger : world.store.ledger = []) (events : List Event) :
    world.store.Audited ((Desk.opened world).run events).world.store :=
  run_preserves (P := world.store.Audited) (fun _ _ h _ hchange => h.of_change hchange)
    (opened_trades world) (.refl horders hledger) events

/-- After a rush for the last unit, the ledger tells of two orders, of which one was closed. -/
theorem Desk.audited_of_rush :
    lastUnit.store.Audited ((Desk.opened lastUnit).run rush).world.store ∧
      (((Desk.opened lastUnit).run rush).world.store.ledgerOf 1).map GiftEntry.balance =
        [210, 500, 210] := by
  refine ⟨audited_of_run lastUnit rfl rfl rush, ?_⟩
  decide +kernel

end OrderDesk
