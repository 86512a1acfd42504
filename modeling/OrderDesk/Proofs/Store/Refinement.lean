import OrderDesk.Store.Sequential
import OrderDesk.World

/-!
# Commits write in place

A commit carries out its writes on an overlay and publishes the overlay at the end.
`Store.execute` changes the store itself, write by write, and goes back to the store before
the first write when one fails. The two are the same.

## What is proved

* `Overlay.write_publish` — a write on an overlay is the write on the published store: the
  relation between overlay and store is that the store is what the overlay publishes.
* `Store.commit_eq_foldlM` — so a commit is its writes one after the other, each on the
  store that the earlier ones left (`Store.commit_cons`, `Store.commit_append`).
* `Store.commit_refines_execute` — the answer of a commit and the store that it leaves are
  those of writing in place, and commits can be cut in two.
-/

namespace OrderDesk

/-- A result that is computed from a value may be changed before or after. -/
private theorem map_bind_pure {ε α β γ : Type} (x : Except ε α) {f : α → β} {g : β → γ}
    {h : α → γ} (hgf : ∀ a, h a = g (f a)) :
    (x >>= fun a => pure (h a)) = (x >>= fun a => pure (f a)).map g := by
  cases x with
  | error e => rfl
  | ok a => exact congrArg Except.ok (hgf a)

namespace Overlay

/-- **Overlay and store go together**: a write on an overlay does to the published store
what the write does to a store in place, and fails for the same reason. -/
theorem write_publish (overlay : Overlay) (store : Store) (w : Write) :
    (overlay.publish store).write w = (overlay.write w).map fun o => o.publish store := by
  cases w with
  | setGiftBalance id expected balance =>
    simp only [Store.write, write, publish, Layer.find?_publish]
    cases overlay.users.find? id with
    | none => rfl
    | some user => exact map_bind_pure _ fun user => by rw [Layer.publish_put]
  | appendEntry entry => simp [Store.write, write, publish, Except.map]
  | takeUnit id =>
    simp only [Store.write, write, publish, Layer.find?_publish]
    cases overlay.plans.find? id with
    | none => rfl
    | some plan => exact map_bind_pure _ fun plan => by rw [Layer.publish_put]
  | returnUnit id =>
    simp only [Store.write, write, publish, Layer.find?_publish]
    cases overlay.plans.find? id with
    | none => rfl
    | some plan => exact map_bind_pure _ fun plan => by rw [Layer.publish_put]
  | redeem code =>
    simp only [Store.write, write, publish, Layer.find?_publish]
    cases overlay.coupons.find? code with
    | none => rfl
    | some coupon => exact map_bind_pure _ fun coupon => by rw [Layer.publish_put]
  | release code =>
    simp only [Store.write, write, publish, Layer.find?_publish]
    cases overlay.coupons.find? code with
    | none => rfl
    | some coupon => simp [Except.map, Layer.publish_put]
  | insert order =>
    simp only [Store.write, write, publish, Layer.find?_publish]
    cases overlay.orders.find? order.orderNo with
    | none => simp [Except.map, Layer.publish_put]
    | some _ => rfl
  | move orderNo current next =>
    simp only [Store.write, write, publish, Layer.find?_publish]
    cases overlay.orders.find? orderNo with
    | none => rfl
    | some order => exact map_bind_pure _ fun order => by rw [Layer.publish_put]

/-- Some writes on an overlay are these writes on the published store. -/
theorem writeAll_publish (overlay : Overlay) (store : Store) (writes : List Write) :
    writes.foldlM Store.write (overlay.publish store) =
      (overlay.writeAll writes).map fun o => o.publish store := by
  induction writes generalizing overlay with
  | nil => rfl
  | cons w rest ih =>
    rw [List.foldlM_cons, write_publish, writeAll]
    cases overlay.write w with
    | error fault => rfl
    | ok overlay => exact ih overlay

@[simp] theorem publish_ofStore (store : Store) : (ofStore store).publish store = store := by
  simp [publish, ofStore]

end Overlay

namespace Store

/-! ### Commits as writes one after the other -/

/-- A commit is its writes one after the other, each on the store that the earlier ones left. -/
theorem commit_eq_foldlM (store : Store) (writes : List Write) :
    store.commit writes = writes.foldlM Store.write store := by
  have h := Overlay.writeAll_publish (Overlay.ofStore store) store writes
  rw [Overlay.publish_ofStore] at h
  rw [h, commit]
  cases (Overlay.ofStore store).writeAll writes <;> rfl

@[simp] theorem commit_nil (store : Store) : store.commit [] = .ok store := by
  simp [commit_eq_foldlM, pure, Except.pure]

theorem commit_nil_eq_ok_iff {store after : Store} : store.commit [] = .ok after ↔ after = store := by
  rw [commit_nil, Except.ok.injEq, eq_comm]

theorem commit_cons (store : Store) (w : Write) (rest : List Write) :
    store.commit (w :: rest) = (store.write w).bind fun next => next.commit rest := by
  simp only [commit_eq_foldlM, List.foldlM_cons]
  rfl

/-- Two lists of writes in one commit are two commits, the second after the first. -/
theorem commit_append (store : Store) (first second : List Write) :
    store.commit (first ++ second) =
      (store.commit first).bind fun middle => middle.commit second := by
  simp only [commit_eq_foldlM, List.foldlM_append]
  rfl

theorem commit_cons_eq_ok_iff {store after : Store} {w : Write} {rest : List Write} :
    store.commit (w :: rest) = .ok after ↔
      ∃ next, store.write w = .ok next ∧ next.commit rest = .ok after := by
  rw [commit_cons]
  cases store.write w <;> simp [Except.bind]

theorem commit_singleton_eq_ok_iff {store after : Store} {w : Write} :
    store.commit [w] = .ok after ↔ store.write w = .ok after := by
  rw [commit_cons_eq_ok_iff]
  constructor
  · rintro ⟨next, hwrite, hnil⟩
    rwa [commit_nil_eq_ok_iff.1 hnil]
  · intro hwrite
    exact ⟨after, hwrite, commit_nil after⟩

theorem commit_append_eq_ok_iff {store after : Store} {first second : List Write} :
    store.commit (first ++ second) = .ok after ↔
      ∃ middle, store.commit first = .ok middle ∧ middle.commit second = .ok after := by
  rw [commit_append]
  cases store.commit first <;> simp [Except.bind]

/-! ### The refinement -/

/-- The answer of a commit, and the store that it leaves. -/
def outcome (store : Store) (writes : List Write) : Except WriteFault Unit × Store :=
  match store.commit writes with
  | .ok after => (.ok (), after)
  | .error fault => (.error fault, store)

/-- A commit in a world leaves the same store. -/
theorem commitTo_snd (store : Store) (writes : List Write) :
    (World.commitTo store writes).2 = (store.outcome writes).2 := by
  unfold World.commitTo outcome
  split <;> simp_all

/-- Writing in place, from a store to go back to, ends as the writes one after the other. -/
theorem executeFrom_eq (before store : Store) (writes : List Write) :
    executeFrom before store writes =
      match store.commit writes with
      | .ok after => (.ok (), after)
      | .error fault => (.error fault, before) := by
  induction writes generalizing store with
  | nil => simp [executeFrom]
  | cons w rest ih =>
    rw [executeFrom, commit_cons]
    cases store.write w with
    | error fault => rfl
    | ok next => exact ih next

/-- A commit leaves the tables alone that the desk only reads. -/
theorem untouched_of_commit {store after : Store} {writes : List Write}
    (h : store.commit writes = .ok after) :
    after.payments = store.payments ∧ after.subscriptions = store.subscriptions := by
  induction writes generalizing store with
  | nil =>
    obtain rfl := commit_nil_eq_ok_iff.1 h
    exact ⟨rfl, rfl⟩
  | cons w rest ih =>
    obtain ⟨next, hwrite, hrest⟩ := commit_cons_eq_ok_iff.1 h
    obtain ⟨hpayments, hsubscriptions⟩ := untouched_of_write hwrite
    obtain ⟨hpayments', hsubscriptions'⟩ := ih hrest
    exact ⟨hpayments'.trans hpayments, hsubscriptions'.trans hsubscriptions⟩

theorem untouched_of_outcome (store : Store) (writes : List Write) :
    (store.outcome writes).2.payments = store.payments ∧
      (store.outcome writes).2.subscriptions = store.subscriptions := by
  unfold outcome
  cases h : store.commit writes with
  | error fault => exact ⟨rfl, rfl⟩
  | ok after => exact untouched_of_commit h

/-- **A commit is writing in place with a way back.** For all writes, the answer of a commit
and the store that it leaves are those of carrying the writes out one after the other on the
store itself and putting the store back when one of them fails; payment methods and
subscriptions stay as they are. So one commit of two lists of writes goes through just when
the commit of the first does and then that of the second, with the same store in the end,
and when it fails the store is the one before the first. -/
theorem commit_refines_execute (store : Store) :
    (∀ writes, store.outcome writes = store.execute writes ∧
      (World.commitTo store writes).2 = (store.execute writes).2 ∧
      (store.execute writes).2.payments = store.payments ∧
      (store.execute writes).2.subscriptions = store.subscriptions) ∧
    ∀ first second,
      (∀ after, store.commit (first ++ second) = .ok after ↔
        ∃ middle, store.commit first = .ok middle ∧ middle.commit second = .ok after) ∧
      (∀ fault, store.commit (first ++ second) = .error fault →
        (World.commitTo store (first ++ second)).2 = store) := by
  have houtcome : ∀ writes, store.outcome writes = store.execute writes := fun writes =>
    (executeFrom_eq store store writes).symm
  refine ⟨fun writes => ?_, fun first second => ⟨fun after => commit_append_eq_ok_iff, ?_⟩⟩
  · rw [← houtcome writes]
    exact ⟨rfl, commitTo_snd store writes, untouched_of_outcome store writes⟩
  · intro fault h
    rw [commitTo_snd, outcome, h]

end Store

end OrderDesk
