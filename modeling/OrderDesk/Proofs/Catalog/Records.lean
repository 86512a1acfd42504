import Mathlib.Data.List.Dedup
import OrderDesk.Proofs.Catalog.Seeding

/-!
# Which records of a catalog the store keeps

Records are put into a table one after the other, and one that comes later takes the place of the one
under its key. So a table that is made of a list of records holds the last record listed with each key
(`Table.holdsLast_ofList`), and it holds all of them just when no key is listed twice
(`Table.holdsAll_ofList_iff`).

A catalog is looked through for keys that are listed twice before it is accepted, but only its plans
and its coupons are. Of these the store keeps every record; of payment methods, users and
subscriptions it keeps the last one listed with each number (`Catalog.records_of_ofText`), and the
others are lost (`Catalog.records_lost`).
-/

namespace OrderDesk

namespace Table

variable {α κ : Type} {key : α → κ} [DecidableEq κ]

/-- All the records are in the table, and nothing else is. -/
structure HoldsAll (table : Table key) (records : List α) : Prop where
  found : ∀ record ∈ records, table.find? (key record) = some record
  size : table.size = records.length

/-- The last of the records with each key is in the table, and nothing else is. -/
structure HoldsLast (table : Table key) (records : List α) : Prop where
  found : ∀ k, table.find? k = records.reverse.find? fun record => key record = k
  size : table.size = (records.map key).dedup.length

theorem find?_foldl_put_eq (records : List α) (table : Table key) (k : κ) :
    (records.foldl put table).find? k =
      (records.reverse.find? fun record => key record = k).or (table.find? k) := by
  induction records generalizing table with
  | nil => rfl
  | cons record rest ih =>
    rw [List.foldl_cons, ih, find?_put, List.reverse_cons, List.find?_append, Option.or_assoc]
    congr 1
    by_cases hk : key record = k <;> simp [hk]

/-- **A table of records holds the last one with each key.** -/
theorem holdsLast_ofList (records : List α) : (ofList records : Table key).HoldsLast records where
  found k := by
    rw [ofList, find?_foldl_put_eq, find?_empty, Option.or_none]
  size := by
    have hmem : ∀ k, k ∈ (ofList records : Table key).rows.map key ↔ k ∈ (records.map key).dedup := by
      intro k
      rw [List.mem_dedup, ← contains_iff, contains_ofList, decide_eq_true_eq]
    have hperm := (List.perm_ext_iff_of_nodup (ofList records : Table key).nodup
      (List.nodup_dedup _)).2 hmem
    rw [size, ← hperm.length_eq, List.length_map]

/-- **A table of records holds all of them just when no key is there twice.** -/
theorem holdsAll_ofList_iff (records : List α) :
    (ofList records : Table key).HoldsAll records ↔ (records.map key).Nodup := by
  constructor
  · intro h
    have hsize := h.size
    rw [(holdsLast_ofList records).size, ← List.length_map key] at hsize
    rw [← List.dedup_eq_self]
    exact (List.dedup_sublist _).eq_of_length hsize
  · intro hnodup
    refine ⟨fun record hmem => ?_, ?_⟩
    · have hcontains : (ofList records : Table key).contains (key record) = true := by
        rw [contains_ofList]
        exact decide_eq_true (List.mem_map_of_mem hmem)
      obtain ⟨found, hfound⟩ := Option.isSome_iff_exists.1 hcontains
      have hlisted := mem_of_mem_ofList (mem_of_find? hfound)
      rw [hfound, List.inj_on_of_nodup_map hnodup hlisted hmem (key_of_find? hfound)]
    · rw [(holdsLast_ofList records).size, hnodup.dedup, List.length_map]

end Table

namespace Catalog

/-! ### What is looked for before a catalog is accepted -/

/-- No record is found to be repeated when all keys are different from each other and from those that
have been seen. -/
theorem repeated?_eq_none_iff {α κ : Type} [DecidableEq κ] {key : α → κ} {seen : List κ}
    {records : List α} : repeated? key seen records = none ↔
      (records.map key).Nodup ∧ ∀ record ∈ records, key record ∉ seen := by
  induction records generalizing seen with
  | nil => simp [repeated?]
  | cons record rest ih =>
    rw [repeated?]
    split
    · rename_i hseen
      simp [hseen]
    · rename_i hnew
      rw [ih, List.map_cons, List.nodup_cons]
      simp only [List.mem_cons, not_or, forall_eq_or_imp, List.mem_map, not_exists, not_and]
      grind

/-- What is not found in a catalog that is accepted: a plan or a coupon that is repeated, and a
subscription without its user. -/
theorem fault?_eq_none_iff {catalog : Catalog} : catalog.fault? = none ↔
    (catalog.plans.map Plan.id).Nodup ∧ (catalog.coupons.map Coupon.code).Nodup ∧
      ∀ s ∈ catalog.subscriptions, s.userId ∈ catalog.users.map User.id := by
  simp [fault?, repeated?_eq_none_iff]

/-- A catalog that is read of a value as it is written. -/
theorem ofText_text_eq_ok_iff {value : Json} {catalog : Catalog} :
    ofText value.text = .ok catalog ↔
      (Json.ofChars? value.chars).bind ofJson? = some catalog ∧ catalog.fault? = none := by
  rw [ofText_eq_ok_iff, Json.ofText?, Json.text, String.toList_ofList]

/-! ### What the store keeps -/

/-- **What an accepted catalog leaves in the store.** Seeding an empty store goes through. All plans
and coupons are there. Of the payment methods, the users and the subscriptions the last one listed
with each number is there, so all of them are just when no number is listed twice. The user of every
stored subscription is stored. -/
theorem records_of_ofText {s : String} {catalog : Catalog} (h : ofText s = .ok catalog)
    (queue : Queue) (now : Instant) :
    ∃ store, catalog.seed.run (.calm .empty queue now) = (.ok (), .calm store queue now) ∧
      store.plans.HoldsAll catalog.plans ∧ store.coupons.HoldsAll catalog.coupons ∧
      store.payments.HoldsLast catalog.paymentMethods ∧
      (store.payments.HoldsAll catalog.paymentMethods ↔
        (catalog.paymentMethods.map PaymentMethod.id).Nodup) ∧
      store.users.HoldsLast catalog.users ∧
      (store.users.HoldsAll catalog.users ↔ (catalog.users.map User.id).Nodup) ∧
      store.subscriptions.HoldsLast catalog.subscriptions ∧
      (store.subscriptions.HoldsAll catalog.subscriptions ↔
        (catalog.subscriptions.map Subscription.id).Nodup) ∧
      ∀ s ∈ store.subscriptions.rows, store.users.contains s.userId = true := by
  obtain ⟨hplans, hcoupons, husers⟩ := fault?_eq_none_iff.1 (ofText_eq_ok_iff.1 h).2
  refine ⟨catalog.store, catalog.run_seed queue now, (Table.holdsAll_ofList_iff _).2 hplans,
    (Table.holdsAll_ofList_iff _).2 hcoupons, Table.holdsLast_ofList _, Table.holdsAll_ofList_iff _,
    Table.holdsLast_ofList _, Table.holdsAll_ofList_iff _, Table.holdsLast_ofList _,
    Table.holdsAll_ofList_iff _, ?_⟩
  intro s hmem
  have hlisted : s.userId ∈ catalog.users.map User.id := husers s (Table.mem_of_mem_ofList hmem)
  exact (Table.contains_ofList catalog.users s.userId).trans (decide_eq_true hlisted)

/-- A user with a subscription, a plan, a coupon and two ways to pay. -/
def booth : Catalog :=
  ⟨[⟨7, "basic", 300, .empty, -1, 0, true⟩], [⟨"TEN", .fixed 10, 0, 0, 1, []⟩],
    [⟨3, "card", .none⟩, ⟨4, "cash", .none⟩], [⟨1, 500⟩],
    [⟨5, 1, 7, none, "token", .active, none⟩]⟩

/-- The catalog of the booth as a text. -/
def boothText : String :=
  (Json.obj [("plans", .arr (booth.plans.map Plan.toJson)),
    ("coupons", .arr (booth.coupons.map Coupon.toJson)),
    ("payment_methods", .arr (booth.paymentMethods.map PaymentMethod.toJson)),
    ("users", .arr (booth.users.map User.toJson)),
    ("subscriptions", .arr (booth.subscriptions.map Subscription.toJson))]).text

/-- Nothing is listed twice for the booth, so all of it is kept. -/
theorem records_of_boothText :
    ofText boothText = .ok booth ∧
      ∃ store, booth.seed.run (.calm .empty .empty ⟨0, 0⟩) = (.ok (), .calm store .empty ⟨0, 0⟩) ∧
        store.plans.HoldsAll booth.plans ∧ store.coupons.HoldsAll booth.coupons ∧
        store.payments.HoldsAll booth.paymentMethods ∧ store.users.HoldsAll booth.users ∧
        store.subscriptions.HoldsAll booth.subscriptions := by
  have htext : ofText boothText = .ok booth := ofText_text_eq_ok_iff.2 (by decide +kernel)
  obtain ⟨store, hrun, hplans, hcoupons, -, hpayments, -, husers, -, hsubscriptions, -⟩ :=
    records_of_ofText htext .empty ⟨0, 0⟩
  exact ⟨htext, store, hrun, hplans, hcoupons, hpayments.2 (by decide), husers.2 (by decide),
    hsubscriptions.2 (by decide)⟩

/-- Two ways to pay, two users and two subscriptions of different users, each pair with one number. -/
def doubled : Catalog :=
  ⟨[], [], [⟨3, "card", .none⟩, ⟨3, "cash", .none⟩], [⟨1, 100⟩, ⟨1, 0⟩, ⟨2, 0⟩],
    [⟨5, 1, 7, none, "first", .active, none⟩, ⟨5, 2, 7, none, "second", .active, none⟩]⟩

/-- The doubled catalog as a text. -/
def doubledText : String :=
  (Json.obj [("payment_methods", .arr (doubled.paymentMethods.map PaymentMethod.toJson)),
    ("users", .arr (doubled.users.map User.toJson)),
    ("subscriptions", .arr (doubled.subscriptions.map Subscription.toJson))]).text

/-- **An accepted catalog may lose records.** The first record of each pair is overwritten by the
second: the card and the gift balance of the first user are gone, and so is the subscription of that
user. -/
theorem records_lost :
    ofText doubledText = .ok doubled ∧
      ∃ store, doubled.seed.run (.calm .empty .empty ⟨0, 0⟩) = (.ok (), .calm store .empty ⟨0, 0⟩) ∧
        store.payments.find? 3 = some ⟨3, "cash", .none⟩ ∧ store.payments.size = 1 ∧
        store.users.find? 1 = some ⟨1, 0⟩ ∧ store.users.size = 2 ∧
        store.subscriptionsOf 1 = [] ∧ store.subscriptions.size = 1 ∧
        ¬store.payments.HoldsAll doubled.paymentMethods ∧ ¬store.users.HoldsAll doubled.users ∧
        ¬store.subscriptions.HoldsAll doubled.subscriptions := by
  have htext : ofText doubledText = .ok doubled := ofText_text_eq_ok_iff.2 (by decide +kernel)
  refine ⟨htext, doubled.store, doubled.run_seed .empty ⟨0, 0⟩, by decide, by decide, by decide,
    by decide, ?_, by decide, ?_, ?_, ?_⟩
  · have hnone : (doubled.store.subscriptions.rows.filter fun s => s.userId == 1) = [] := by decide
    rw [Store.subscriptionsOf, hnone, List.mergeSort_nil]
  · exact fun h => absurd ((Table.holdsAll_ofList_iff _).1 h) (by decide)
  · exact fun h => absurd ((Table.holdsAll_ofList_iff _).1 h) (by decide)
  · exact fun h => absurd ((Table.holdsAll_ofList_iff _).1 h) (by decide)

end Catalog

end OrderDesk
