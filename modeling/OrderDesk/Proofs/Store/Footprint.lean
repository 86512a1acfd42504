import OrderDesk.Proofs.Store.History

/-!
# Commits about different records commute

A write is about one record, and an entry of the ledger is about its user (`Write.record`). Nothing
else matters to the write: in stores that agree on that record it has the same answer
(`Store.matches_write`), and all other records stay as they are (`Store.agreeAt_of_write`), since
all that a write does is to put one piece into the store (`Store.put_of_write`). So a commit that
comes between changes nothing for a commit about other records, whether it goes through or not, and
the two may as well come in the other order (`Store.commits_commute`).
-/

namespace OrderDesk

/-- The record that a write is about. -/
def Write.record : Write → RecordName
  | .setGiftBalance id _ _ => .user id
  | .appendEntry entry => .user entry.userId
  | .takeUnit id | .returnUnit id => .plan id
  | .redeem code | .release code => .coupon code
  | .insert order => .order order.orderNo
  | .move orderNo _ _ => .order orderNo

/-- Two results are errors with the same cause, or values that are related. -/
inductive Result.Matches {ε α : Type} (R : α → α → Prop) : Except ε α → Except ε α → Prop
  | ok {a b : α} (h : R a b) : Matches R (.ok a) (.ok b)
  | error (cause : ε) : Matches R (.error cause) (.error cause)

namespace Store

/-- Two stores have the same record under a name, or none. A user comes with the entries of the
ledger. -/
def AgreeAt (a b : Store) : RecordName → Prop
  | .user id => a.users.find? id = b.users.find? id ∧ a.ledgerOf id = b.ledgerOf id
  | .plan id => a.plans.find? id = b.plans.find? id
  | .coupon code => a.coupons.find? code = b.coupons.find? code
  | .order orderNo => a.orders.find? orderNo = b.orders.find? orderNo
  | .payment id => a.payments.find? id = b.payments.find? id
  | .subscription id => a.subscriptions.find? id = b.subscriptions.find? id

variable {a b c : Store} {name : RecordName} {names : RecordName → Prop}

theorem AgreeAt.refl (store : Store) (name : RecordName) : store.AgreeAt store name := by
  cases name with
  | user id => exact ⟨rfl, rfl⟩
  | _ => exact rfl

theorem AgreeAt.symm (h : a.AgreeAt b name) : b.AgreeAt a name := by
  cases name with
  | user id => exact ⟨h.1.symm, h.2.symm⟩
  | _ => exact Eq.symm h

theorem AgreeAt.trans (h : a.AgreeAt b name) (h' : b.AgreeAt c name) : a.AgreeAt c name := by
  cases name with
  | user id => exact ⟨h.1.trans h'.1, h.2.trans h'.2⟩
  | _ => exact Eq.trans h h'

/-- What a write puts into a store: a record, or an entry of the ledger. -/
inductive Piece
  | user (user : User)
  | plan (plan : Plan)
  | coupon (coupon : Coupon)
  | order (order : Order)
  | entry (entry : GiftEntry)

/-- The record that a piece is, or the user of an entry of the ledger. -/
def Piece.record : Piece → RecordName
  | .user u => .user u.id
  | .plan p => .plan p.id
  | .coupon c => .coupon c.code
  | .order o => .order o.orderNo
  | .entry e => .user e.userId

/-- The store with a piece put in. -/
def put (store : Store) : Piece → Store
  | .user user => { store with users := store.users.put user }
  | .plan plan => { store with plans := store.plans.put plan }
  | .coupon coupon => { store with coupons := store.coupons.put coupon }
  | .order order => { store with orders := store.orders.put order }
  | .entry entry => { store with ledger := store.ledger ++ [entry] }

/-- Two stores agree on some records. -/
def AgreeOn (names : RecordName → Prop) (a b : Store) : Prop := ∀ name, names name → a.AgreeAt b name

/-! ### A write looks at its record only -/

/-- Stores that agree on a record still do when one piece is put into both. -/
theorem AgreeAt.put (h : a.AgreeAt b name) (piece : Piece) :
    (a.put piece).AgreeAt (b.put piece) name := by
  cases piece with
  | user user =>
    cases name with
    | user id => exact ⟨Table.find?_put_congr h.1 user, h.2⟩
    | _ => exact h
  | plan plan =>
    cases name with
    | plan id => exact Table.find?_put_congr h plan
    | _ => exact h
  | coupon coupon =>
    cases name with
    | coupon code => exact Table.find?_put_congr h coupon
    | _ => exact h
  | order order =>
    cases name with
    | order orderNo => exact Table.find?_put_congr h order
    | _ => exact h
  | entry entry =>
    cases name with
    | user id =>
      have hledger : a.ledgerOf id = b.ledgerOf id := h.2
      refine ⟨h.1, ?_⟩
      simp only [ledgerOf, Store.put, List.filter_append] at hledger ⊢
      rw [hledger]
    | _ => exact h

theorem AgreeOn.put (h : AgreeOn names a b) (piece : Piece) :
    AgreeOn names (a.put piece) (b.put piece) :=
  fun name hname => (h name hname).put piece

open Result

/-- **A write has the same answer** in stores that agree on its record, and they agree afterwards
where they did before. -/
theorem matches_write (h : AgreeOn names a b) {w : Write} (hw : names w.record) :
    Matches (AgreeOn names) (a.write w) (b.write w) := by
  have hrecord := h _ hw
  cases w with
  | setGiftBalance id expected balance =>
    have hid : a.users.find? id = b.users.find? id := hrecord.1
    simp only [write, hid]
    cases b.users.find? id with
    | none => exact .error _
    | some user =>
      dsimp only
      cases user.rebalance expected balance with
      | error cause => exact .error _
      | ok user => exact .ok (h.put (.user user))
  | appendEntry entry => exact .ok (h.put (.entry entry))
  | takeUnit id =>
    have hid : a.plans.find? id = b.plans.find? id := hrecord
    simp only [write, hid]
    cases b.plans.find? id with
    | none => exact .error _
    | some plan =>
      dsimp only
      cases plan.takeUnit with
      | error cause => exact .error _
      | ok plan => exact .ok (h.put (.plan plan))
  | returnUnit id =>
    have hid : a.plans.find? id = b.plans.find? id := hrecord
    simp only [write, hid]
    cases b.plans.find? id with
    | none => exact .ok h
    | some plan =>
      dsimp only
      cases plan.returnUnit with
      | error overflow => exact .error _
      | ok plan => exact .ok (h.put (.plan plan))
  | redeem code =>
    have hcode : a.coupons.find? code = b.coupons.find? code := hrecord
    simp only [write, hcode]
    cases b.coupons.find? code with
    | none => exact .error _
    | some coupon =>
      dsimp only
      cases coupon.redeem with
      | error fault => exact .error _
      | ok coupon => exact .ok (h.put (.coupon coupon))
  | release code =>
    have hcode : a.coupons.find? code = b.coupons.find? code := hrecord
    simp only [write, hcode]
    cases b.coupons.find? code with
    | none => exact .ok h
    | some coupon => exact .ok (h.put (.coupon coupon.release))
  | insert order =>
    have hno : a.orders.find? order.orderNo = b.orders.find? order.orderNo := hrecord
    simp only [write, hno]
    cases b.orders.find? order.orderNo with
    | none => exact .ok (h.put (.order order))
    | some stored => exact .error _
  | move orderNo current next =>
    have hno : a.orders.find? orderNo = b.orders.find? orderNo := hrecord
    simp only [write, hno]
    cases b.orders.find? orderNo with
    | none => exact .error _
    | some order =>
      dsimp only
      cases order.move current next with
      | error cause => exact .error _
      | ok order => exact .ok (h.put (.order order))

/-- A commit has the same answer in stores that agree on its records. -/
theorem matches_commit (h : AgreeOn names a b) {writes : List Write}
    (hwrites : ∀ w ∈ writes, names w.record) :
    Matches (AgreeOn names) (a.commit writes) (b.commit writes) := by
  induction writes generalizing a b with
  | nil =>
    rw [commit_nil, commit_nil]
    exact .ok h
  | cons w rest ih =>
    obtain ⟨hw, hrest⟩ := List.forall_mem_cons.1 hwrites
    have hanswer := matches_write h hw
    rw [commit_cons, commit_cons]
    generalize a.write w = first at hanswer
    generalize b.write w = second at hanswer
    cases hanswer with
    | ok hnext => exact ih hnext hrest
    | error cause => exact .error cause

theorem commitTo_of_agreeOn (h : AgreeOn names a b) {writes : List Write}
    (hwrites : ∀ w ∈ writes, names w.record) :
    (World.commitTo a writes).1 = (World.commitTo b writes).1 ∧
      AgreeOn names (World.commitTo a writes).2 (World.commitTo b writes).2 := by
  have hanswer := matches_commit h hwrites
  unfold World.commitTo
  generalize a.commit writes = first at hanswer
  generalize b.commit writes = second at hanswer
  cases hanswer with
  | ok hafter => exact ⟨rfl, hafter⟩
  | error fault => cases fault <;> exact ⟨rfl, h⟩

/-! ### A write leaves all other records alone -/

/-- A piece that is put in leaves all records alone but its own. -/
theorem agreeAt_put (store : Store) (piece : Piece) (h : piece.record ≠ name) :
    store.AgreeAt (store.put piece) name := by
  cases piece with
  | user user =>
    cases name with
    | user id => exact ⟨(Table.find?_put_of_ne _ fun hid => h (congrArg _ hid)).symm, rfl⟩
    | _ => exact rfl
  | plan plan =>
    cases name with
    | plan id => exact (Table.find?_put_of_ne _ fun hid => h (congrArg _ hid)).symm
    | user id => exact ⟨rfl, rfl⟩
    | _ => exact rfl
  | coupon coupon =>
    cases name with
    | coupon code => exact (Table.find?_put_of_ne _ fun hcode => h (congrArg _ hcode)).symm
    | user id => exact ⟨rfl, rfl⟩
    | _ => exact rfl
  | order order =>
    cases name with
    | order orderNo => exact (Table.find?_put_of_ne _ fun hno => h (congrArg _ hno)).symm
    | user id => exact ⟨rfl, rfl⟩
    | _ => exact rfl
  | entry entry =>
    cases name with
    | user id =>
      have hother : (entry.userId == id) = false := beq_false_of_ne fun hid => h (congrArg _ hid)
      refine ⟨rfl, ?_⟩
      simp [ledgerOf, put, List.filter_append, hother]
    | _ => exact rfl

/-- All that a write does to a store is to put its record into it. -/
theorem put_of_write {w : Write} (h : a.write w = .ok b) :
    b = a ∨ ∃ piece : Piece, piece.record = w.record ∧ b = a.put piece := by
  cases w with
  | setGiftBalance id expected balance =>
    obtain ⟨user, hfound, -, -, rfl⟩ := write_setGiftBalance_eq_ok_iff.1 h
    obtain rfl := Table.key_of_find? hfound
    exact .inr ⟨.user { user with giftAmount := balance }, rfl, rfl⟩
  | appendEntry entry =>
    obtain rfl := write_appendEntry_eq_ok_iff.1 h
    exact .inr ⟨.entry entry, rfl, rfl⟩
  | takeUnit id =>
    obtain ⟨plan, hfound, -, rfl⟩ := write_takeUnit_eq_ok_iff.1 h
    obtain rfl := Table.key_of_find? hfound
    exact .inr ⟨.plan (plan.restock (-1)), congrArg _ (plan.id_restock (-1)), rfl⟩
  | returnUnit id =>
    obtain ⟨-, rfl⟩ | ⟨plan, hfound, -, rfl⟩ := write_returnUnit_eq_ok_iff.1 h
    · exact .inl rfl
    · obtain rfl := Table.key_of_find? hfound
      exact .inr ⟨.plan (plan.restock 1), congrArg _ (plan.id_restock 1), rfl⟩
  | redeem code =>
    obtain ⟨coupon, hfound, -, -, rfl⟩ := write_redeem_eq_ok_iff.1 h
    obtain rfl := Table.key_of_find? hfound
    exact .inr ⟨.coupon { coupon with usedCount := coupon.usedCount + 1 }, rfl, rfl⟩
  | release code =>
    obtain ⟨-, rfl⟩ | ⟨coupon, hfound, rfl⟩ := write_release_eq_ok_iff.1 h
    · exact .inl rfl
    · obtain rfl := Table.key_of_find? hfound
      exact .inr ⟨.coupon coupon.release, congrArg _ coupon.code_release, rfl⟩
  | insert order =>
    obtain ⟨-, rfl⟩ := write_insert_eq_ok_iff.1 h
    exact .inr ⟨.order order, rfl, rfl⟩
  | move orderNo current next =>
    obtain ⟨order, hfound, -, -, rfl⟩ := write_move_eq_ok_iff.1 h
    obtain rfl := Table.key_of_find? hfound
    exact .inr ⟨.order { order with status := next }, rfl, rfl⟩

/-- **A write leaves every other record as it is.** -/
theorem agreeAt_of_write {w : Write} (h : a.write w = .ok b) (hother : w.record ≠ name) :
    a.AgreeAt b name := by
  obtain rfl | ⟨piece, hrecord, rfl⟩ := put_of_write h
  · exact .refl b name
  · apply a.agreeAt_put piece
    rwa [hrecord]

theorem agreeAt_of_commit {writes : List Write} (h : a.commit writes = .ok b)
    (hother : ∀ w ∈ writes, w.record ≠ name) : a.AgreeAt b name := by
  induction writes generalizing a with
  | nil =>
    obtain rfl := commit_nil_eq_ok_iff.1 h
    exact .refl _ name
  | cons w rest ih =>
    obtain ⟨hw, hrest⟩ := List.forall_mem_cons.1 hother
    obtain ⟨next, hwrite, hcommit⟩ := commit_cons_eq_ok_iff.1 h
    exact (agreeAt_of_write hwrite hw).trans (ih hcommit hrest)

theorem agreeAt_commitTo (store : Store) {writes : List Write}
    (hother : ∀ w ∈ writes, w.record ≠ name) :
    store.AgreeAt (World.commitTo store writes).2 name := by
  rcases store.commitTo_cases writes with ⟨after, hcommit, hleft⟩ | ⟨fault, -, hleft⟩
  · rw [hleft]
    exact agreeAt_of_commit hcommit hother
  · rw [hleft]
    exact .refl store name

/-! ### Two commits -/

/-- A commit about other records that comes between changes nothing for a commit: it has the same
answer, and what it does not leave to the other commit comes out the same. -/
theorem commitTo_after (store : Store) {writes others : List Write}
    (hapart : ∀ w ∈ writes, ∀ other ∈ others, w.record ≠ other.record) :
    (World.commitTo (World.commitTo store others).2 writes).1 = (World.commitTo store writes).1 ∧
      ∀ name, (∀ other ∈ others, other.record ≠ name) →
        (World.commitTo (World.commitTo store writes).2 others).2.AgreeAt
          (World.commitTo (World.commitTo store others).2 writes).2 name := by
  -- The other commit keeps all records that it is not about, and these are all that matters here.
  have hkept : AgreeOn (fun name => ∀ other ∈ others, other.record ≠ name) store
      (World.commitTo store others).2 := fun _ hname => store.agreeAt_commitTo hname
  have hwrites : ∀ w ∈ writes, ∀ other ∈ others, other.record ≠ w.record :=
    fun w hw other hother => (hapart w hw other hother).symm
  obtain ⟨hanswer, hleft⟩ := commitTo_of_agreeOn hkept hwrites
  refine ⟨hanswer.symm, fun name hname => ?_⟩
  exact ((World.commitTo store writes).2.agreeAt_commitTo hname).symm.trans (hleft name hname)

/-- **Commits about different records commute.** Two lists of writes of which no two are about one
record, the entries of the ledger counted with their users, may be committed in either order: each
list has the same answer, whether it goes through or is refused, and in the end there are the same
records, and each user has the same entries in the ledger. -/
theorem commits_commute (store : Store) (first second : List Write)
    (hapart : ∀ w ∈ first, ∀ other ∈ second, w.record ≠ other.record) :
    let afterFirst := (World.commitTo store first).2
    let afterSecond := (World.commitTo store second).2
    (World.commitTo afterSecond first).1 = (World.commitTo store first).1 ∧
      (World.commitTo afterFirst second).1 = (World.commitTo store second).1 ∧
      ∀ name, (World.commitTo afterFirst second).2.AgreeAt (World.commitTo afterSecond first).2
        name := by
  have hswapped : ∀ w ∈ second, ∀ other ∈ first, w.record ≠ other.record :=
    fun w hw other hother => (hapart other hother w hw).symm
  obtain ⟨hfirst, hnotSecond⟩ := store.commitTo_after hapart
  obtain ⟨hsecond, hnotFirst⟩ := store.commitTo_after hswapped
  refine ⟨hfirst, hsecond, fun name => ?_⟩
  by_cases hname : ∃ other ∈ second, other.record = name
  · obtain ⟨other, hother, rfl⟩ := hname
    exact (hnotFirst _ fun w hw => hapart w hw other hother).symm
  · exact hnotSecond name fun other hother heq => hname ⟨other, hother, heq⟩

/-- Two users with gift balances, and a plan with one unit left. -/
def twoUsers : Store :=
  { Store.empty with
    plans := .ofList [⟨7, "basic", 300, .empty, 1, 0, true⟩]
    users := .ofList [⟨1, 500⟩, ⟨2, 40⟩] }

/-- The first user pays from the balance. -/
def firstPays : List Write :=
  [.setGiftBalance 1 500 200,
    .appendEntry ⟨1, .decrease, "A", 300, 200, "renewal", ⟨0, 0⟩⟩]

/-- The second user pays from the balance for two units. -/
def secondTakesTwo : List Write :=
  [.setGiftBalance 2 40 0,
    .appendEntry ⟨2, .decrease, "B", 40, 0, "purchase", ⟨0, 0⟩⟩, .takeUnit 7,
    .takeUnit 7]

/-- The first user has paid and the second has not, in whatever order they come. -/
theorem commits_commute_of_twoUsers :
    (∀ w ∈ firstPays, ∀ other ∈ secondTakesTwo, w.record ≠ other.record) ∧
      (World.commitTo (World.commitTo twoUsers secondTakesTwo).2 firstPays).1 = .ok (.ok ()) ∧
      (World.commitTo (World.commitTo twoUsers firstPays).2 secondTakesTwo).1 =
        .ok (.error (.outOfStock 7)) ∧
      ((World.commitTo (World.commitTo twoUsers firstPays).2 secondTakesTwo).2.ledgerOf 1).length =
        1 ∧
      ∀ name, (World.commitTo (World.commitTo twoUsers firstPays).2 secondTakesTwo).2.AgreeAt
        (World.commitTo (World.commitTo twoUsers secondTakesTwo).2 firstPays).2 name := by
  have hapart : ∀ w ∈ firstPays, ∀ other ∈ secondTakesTwo, w.record ≠ other.record := by decide
  obtain ⟨hfirst, hsecond, hagree⟩ := commits_commute twoUsers firstPays secondTakesTwo hapart
  exact ⟨hapart, hfirst.trans rfl, hsecond.trans rfl, rfl, hagree⟩

end Store

end OrderDesk
