import OrderDesk.Catalog
import OrderDesk.Proofs.Desk.Solvency
import OrderDesk.Proofs.Program.Calm

/-!
# What a catalog puts into the store

Where nothing goes wrong, seeding puts all records of a catalog into the store, and does nothing
else (`Catalog.run_seed`). The store that it leaves has no orders. Every amount in it was read from
a text and fits in 64 bits (`Catalog.fits_store`), which is what giving back to it needs.
-/

namespace OrderDesk

/-! ### Tables of records -/

namespace Table

variable {α κ : Type} {key : α → κ} [DecidableEq κ]

theorem mem_of_mem_put {table : Table key} {record found : α}
    (h : found ∈ (table.put record).rows) : found = record ∨ found ∈ table.rows := by
  have hfound := find?_of_mem h
  obtain ⟨-, rfl⟩ | ⟨-, hold⟩ := found_of_put hfound
  · exact .inl rfl
  · exact .inr (mem_of_find? hold)

theorem mem_foldl_put {records : List α} {table : Table key} {found : α}
    (h : found ∈ (records.foldl put table).rows) : found ∈ records ∨ found ∈ table.rows := by
  induction records generalizing table with
  | nil => exact .inr h
  | cons record rest ih =>
    rcases ih h with hrest | htable
    · exact .inl (List.mem_cons_of_mem _ hrest)
    · rcases mem_of_mem_put htable with rfl | hold
      · exact .inl List.mem_cons_self
      · exact .inr hold

/-- A table of records holds nothing else. -/
theorem mem_of_mem_ofList {records : List α} {found : α}
    (h : found ∈ (ofList records : Table key).rows) : found ∈ records :=
  (mem_foldl_put h).resolve_right List.not_mem_nil

theorem contains_foldl_put (records : List α) (table : Table key) (k : κ) :
    (records.foldl put table).contains k = (decide (k ∈ records.map key) || table.contains k) := by
  induction records generalizing table with
  | nil => simp
  | cons record rest ih =>
    rw [List.foldl_cons, ih, contains_put]
    by_cases hk : key record = k <;> simp [hk, eq_comm (a := k)]

/-- A table of records has their keys. -/
theorem contains_ofList (records : List α) (k : κ) :
    (ofList records : Table key).contains k = decide (k ∈ records.map key) := by
  rw [ofList, contains_foldl_put]
  exact Bool.or_false _

end Table

namespace Catalog

open Program

/-! ### Seeding -/

/-- The store that a catalog fills. -/
def store (catalog : Catalog) : Store :=
  { Store.empty with
    plans := .ofList catalog.plans
    payments := .ofList catalog.paymentMethods
    coupons := .ofList catalog.coupons
    users := .ofList catalog.users
    subscriptions := .ofList catalog.subscriptions }

/-- Records that are put into one table, one after the other. -/
theorem run_storeEach {α κ : Type} {key : α → κ} [DecidableEq κ] (context : String)
    (call : α → Program (Except StoreError Unit)) (worldOf : Table key → World)
    (hcall : ∀ table record,
      (call record).run (worldOf table) = (.ok (.ok ()), worldOf (table.put record)))
    (records : List α) (table : Table key) :
    (storeEach context call records).run (worldOf table) =
      (.ok (), worldOf (records.foldl .put table)) := by
  induction records generalizing table with
  | nil => rfl
  | cons record rest ih =>
    rw [storeEach, run_bind (hcall table record)]
    exact ih (table.put record)

/-- **Seeding fills the store with the records of the catalog.** -/
theorem run_seed (catalog : Catalog) (queue : Queue) (now : Instant) :
    catalog.seed.run (.calm .empty queue now) = (.ok (), .calm catalog.store queue now) := by
  let world (store : Store) : World := .calm store queue now
  have hcalm : ∀ store, (world store).Calm := fun store => World.calm_calm store queue now
  let plans : Table Plan.id := .ofList catalog.plans
  let coupons : Table Coupon.code := .ofList catalog.coupons
  let payments : Table PaymentMethod.id := .ofList catalog.paymentMethods
  let users : Table User.id := .ofList catalog.users
  have hplans := run_storeEach "seed plan" (fun plan => perform (.storePlan plan))
    (fun plans => world { Store.empty with plans })
    (fun _ _ => run_perform (hcalm _) rfl) catalog.plans .empty
  have hcoupons := run_storeEach "seed coupon" (fun coupon => perform (.storeCoupon coupon))
    (fun coupons => world { Store.empty with plans, coupons })
    (fun _ _ => run_perform (hcalm _) rfl) catalog.coupons .empty
  have hpayments := run_storeEach "seed payment method"
    (fun method => perform (.storePayment method))
    (fun payments => world { Store.empty with plans, coupons, payments })
    (fun _ _ => run_perform (hcalm _) rfl) catalog.paymentMethods .empty
  have husers := run_storeEach "seed user" (fun user => perform (.storeUser user))
    (fun users => world { Store.empty with plans, coupons, payments, users })
    (fun _ _ => run_perform (hcalm _) rfl) catalog.users .empty
  have hsubscriptions := run_storeEach "seed user subscription"
    (fun s => perform (.storeSubscription s))
    (fun subscriptions => world { Store.empty with plans, coupons, payments, users, subscriptions })
    (fun _ _ => run_perform (hcalm _) rfl) catalog.subscriptions .empty
  refine (run_bind hplans _).trans ((run_bind hcoupons _).trans ?_)
  exact (run_bind hpayments _).trans ((run_bind husers _).trans hsubscriptions)

/-! ### Reading -/

/-- What a catalog that is read was written as, and that nothing speaks against it. -/
theorem ofText_eq_ok_iff {s : String} {catalog : Catalog} : ofText s = .ok catalog ↔
    (Json.ofText? s).bind ofJson? = some catalog ∧ catalog.fault? = none := by
  unfold ofText
  cases (Json.ofText? s).bind ofJson? with
  | none => exact ⟨nofun, fun h => nomatch h.1⟩
  | some read =>
    constructor
    · intro h
      cases hfault : read.fault? with
      | none =>
        simp only [hfault] at h
        obtain rfl := Except.ok.inj h
        exact ⟨rfl, hfault⟩
      | some error =>
        simp only [hfault] at h
        cases h
    · rintro ⟨hread, hfault⟩
      obtain rfl := Option.some.inj hread
      simp only [hfault]

/-! ### Amounts -/

/-- What is read of a list is read of one of its items. -/
theorem exists_of_mem_list {α : Type} {read : Json → Option α} {value : Json} {records : List α}
    (h : Json.list? read value = some records) {record : α} (hmem : record ∈ records) :
    ∃ item, read item = some record := by
  cases value with
  | arr items =>
    rw [Json.list?] at h
    induction items generalizing records with
    | nil =>
      rw [List.mapM_nil] at h
      rw [← Option.some.inj h] at hmem
      cases hmem
    | cons item items ih =>
      simp only [List.mapM_cons, Option.bind_eq_bind, Option.pure_def,
        Option.bind_eq_some_iff, Option.some.injEq] at h
      obtain ⟨first, hfirst, rest, hrest, rfl⟩ := h
      rcases List.mem_cons.1 hmem with rfl | hlater
      · exact ⟨item, hfirst⟩
      · exact ih hlater hrest
  | _ => cases h

/-- A field that may be missing is read, or it is empty. -/
theorem exists_of_mem_orElse {α : Type} {fields : Json.Fields} {name : String}
    {read : Json → Option α} {records : List α}
    (h : fields.orElse name (Json.list? read) [] = some records) {record : α}
    (hmem : record ∈ records) : ∃ item, read item = some record := by
  unfold Json.Fields.orElse at h
  split at h
  · rw [← Option.some.inj h] at hmem
    cases hmem
  · exact exists_of_mem_list h hmem

theorem fits_of_amount {value : Json} {amount : Amount} (h : value.amount? = some amount) :
    Amount.Fits amount := by
  cases value with
  | int n =>
    rw [Json.amount?] at h
    split at h
    · rename_i hfits
      rw [← Option.some.inj h]
      exact hfits
    · cases h
  | _ => cases h

theorem fits_giftAmount {value : Json} {user : User} (h : User.ofJson? value = some user) :
    Amount.Fits user.giftAmount := by
  simp only [User.ofJson?, Option.bind_eq_bind, Option.pure_def, Option.bind_eq_some_iff,
    Option.some.injEq] at h
  obtain ⟨fields, -, id, -, gift, hgift, rfl⟩ := h
  unfold Json.Fields.orElse at hgift
  split at hgift
  · have hzero : Amount.Fits 0 := by decide
    rwa [← Option.some.inj hgift]
  · exact fits_of_amount hgift

theorem fits_inventory {value : Json} {plan : Plan} (h : Plan.ofJson? value = some plan) :
    Amount.Fits plan.inventory := by
  simp only [Plan.ofJson?, Option.bind_eq_bind, Option.pure_def, Option.bind_eq_some_iff,
    Option.some.injEq] at h
  obtain ⟨fields, -, id, -, name, -, price, -, discount, -, inventory, hinventory, quota, -, sell,
    -, rfl⟩ := h
  obtain ⟨item, -, hread⟩ := Option.bind_eq_some_iff.1 hinventory
  exact fits_of_amount hread

/-- **The amounts that are read from a text fit.** -/
theorem fits_store {s : String} {catalog : Catalog} (h : ofText s = .ok catalog) :
    catalog.store.Fits := by
  obtain ⟨value, -, hvalue⟩ := Option.bind_eq_some_iff.1 (ofText_eq_ok_iff.1 h).1
  simp only [ofJson?, Option.bind_eq_bind, Option.pure_def, Option.bind_eq_some_iff,
    Option.some.injEq] at hvalue
  obtain ⟨fields, -, plans, hplans, coupons, -, methods, -, users, husers, subscriptions, -, rfl⟩ :=
    hvalue
  constructor
  · intro user hmem
    obtain ⟨item, hitem⟩ := exists_of_mem_orElse husers (Table.mem_of_mem_ofList hmem)
    exact fits_giftAmount hitem
  · intro plan hmem
    obtain ⟨item, hitem⟩ := exists_of_mem_orElse hplans (Table.mem_of_mem_ofList hmem)
    exact fits_inventory hitem

end Catalog

end OrderDesk
