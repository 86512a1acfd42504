import Mathlib.Data.List.Forall2
import Mathlib.Data.List.Nodup
import OrderDesk.Amount
import OrderDesk.Json.Fields
import OrderDesk.Proofs.Json.ReadBack
import OrderDesk.Proofs.Number.DecimalText

/-!
# Fields are restored from what they are written to

A reader restores what it reads (`Restores`) when everything that it makes of a JSON value is
written to a value that can be stored, and read from that again. This is stated for numbers, texts
and truth values first, and then carried over to lists, to values that may be missing, and to the
fields of a record (`Restores.required`, `Restores.orElse`). A record is written to an object that
has each of its keys once, so its fields are found again one after the other (`Keeps.required`,
`Keeps.orElse`) and make the record (`keeps_record`), under a tag as well (`keeps_tagged`).

What is read again may differ from what was written in the minus of a zero. So a reader comes with
a function for what becomes of a value; mostly it is the identity.
-/

namespace OrderDesk.Json

variable {α β : Type} {depth : Nat} {read : Json → Option α} {write : α → Json} {plain : α → α}

/-- The value is written to one that can be stored, from which `back` is read. -/
structure Keeps (depth : Nat) (read : Json → Option α) (write : α → Json) (a back : α) : Prop where
  storable : Storable depth (write a)
  read_write : read (write a) = some back

/-- What is read is written so that it is read again, as `plain` makes it. -/
def Restores (depth : Nat) (read : Json → Option α) (write : α → Json) (plain : α → α) : Prop :=
  ∀ (value : Json) (a : α), read value = some a → Keeps depth read write a (plain a)

/-- What is read from a text is written to a text from which the same is read. -/
def ReadsBack (read : Json → Option α) (write : α → Json) (same : α → α → Prop) : Prop :=
  ∀ (s : String) (a : α), (ofText? s).bind read = some a →
    ∃ back, (ofText? (write a).text).bind read = some back ∧ same back a

/-- A reader that restores values within the levels of a document reads back from its texts. -/
theorem Restores.readsBack {same : α → α → Prop} (h : Restores maxDepth read write plain)
    (hsame : ∀ a, same (plain a) a) : ReadsBack read write same := by
  intro s a hread
  obtain ⟨value, -, hvalue⟩ := Option.bind_eq_some_iff.1 hread
  have hkeeps := h value a hvalue
  refine ⟨plain a, ?_, hsame a⟩
  rw [ofText?_text hkeeps.storable, Option.bind_some, hkeeps.read_write]

/-! ### Values without parts -/

theorem keeps_amount (depth : Nat) {n : Int} (h : Amount.Fits n) :
    Keeps depth amount? .int n n where
  storable := .int h.1 (Int.lt_of_le_of_lt h.2 (by decide))
  read_write := if_pos h

theorem keeps_id (depth : Nat) {n : Nat} (h : n < idLimit) :
    Keeps depth id? (fun n : Nat => .int n) n n where
  storable := by
    have hlimit : n < 18446744073709551616 := h
    exact .int (by omega) (by omega)
  read_write := by
    have hrange : 0 ≤ (n : Int) ∧ (n : Int) < 18446744073709551616 := by
      have hlimit : n < 18446744073709551616 := h
      omega
    simp only [id?, if_pos hrange, Int.toNat_natCast]

theorem fits_of_amount? {value : Json} {n : Int} (h : amount? value = some n) : Amount.Fits n := by
  unfold amount? at h
  split at h
  · split at h
    · rename_i hfits
      rw [← Option.some.inj h]
      exact hfits
    · cases h
  · cases h

theorem lt_of_id? {value : Json} {n : Nat} (h : id? value = some n) : n < idLimit := by
  unfold id? at h
  split at h
  · split at h
    · rename_i m hrange
      have hm : m.toNat < 18446744073709551616 := by omega
      rw [← Option.some.inj h]
      exact hm
    · cases h
  · cases h

theorem restores_amount (depth : Nat) : Restores depth amount? .int id :=
  fun _ _ h => keeps_amount depth (fits_of_amount? h)

theorem restores_id (depth : Nat) : Restores depth id? (fun n : Nat => .int n) id :=
  fun _ _ h => keeps_id depth (lt_of_id? h)

theorem restores_bool (depth : Nat) : Restores depth bool? .bool id :=
  fun _ b _ => ⟨.bool b, rfl⟩

theorem restores_str (depth : Nat) : Restores depth str? .str id :=
  fun _ s _ => ⟨.str s, rfl⟩

/-- A decimal number is written as its text, whatever it was read from. -/
theorem restores_decimal (depth : Nat) :
    Restores depth decimal? (fun d => .str d.text) Decimal.plain :=
  fun _ d _ => ⟨.str d.text, Decimal.ofText?_text d⟩

/-! ### Values that may be missing, and lists -/

theorem nullable?_of_ne_null {value : Json} (h : value ≠ .null) :
    nullable? read value = (read value).map some := by
  cases value with
  | null => exact absurd rfl h
  | _ => rfl

theorem Restores.nullable (h : Restores depth read write id) (hwrite : ∀ a, write a ≠ .null) :
    Restores depth (nullable? read) (ofOption write) id := by
  intro value held hread
  cases held with
  | none => exact ⟨.null, rfl⟩
  | some a =>
    have hvalue : value ≠ .null := by
      rintro rfl
      cases hread
    rw [nullable?_of_ne_null hvalue] at hread
    obtain ⟨a', ha, hsome⟩ := Option.map_eq_some_iff.1 hread
    obtain rfl := Option.some.inj hsome
    have hkeeps := h value a' ha
    refine ⟨hkeeps.storable, ?_⟩
    show nullable? read (write a') = some (some a')
    rw [nullable?_of_ne_null (hwrite a'), hkeeps.read_write]
    rfl

/-- A list is read when each of its items is. -/
theorem mapM_eq_some_iff {items : List Json} {as : List α} :
    items.mapM read = some as ↔ List.Forall₂ (fun item a => read item = some a) items as := by
  induction items generalizing as with
  | nil =>
    rw [List.mapM_nil, List.forall₂_nil_left_iff]
    exact ⟨fun h => (Option.some.inj h).symm, fun h => congrArg some h.symm⟩
  | cons item items ih =>
    simp only [List.mapM_cons, Option.bind_eq_bind, Option.pure_def, Option.bind_eq_some_iff,
      Option.some.injEq, List.forall₂_cons_left_iff, ih]
    constructor
    · rintro ⟨a, ha, rest, hrest, rfl⟩
      exact ⟨a, rest, ha, hrest, rfl⟩
    · rintro ⟨a, rest, ha, hrest, rfl⟩
      exact ⟨a, ha, rest, hrest, rfl⟩

theorem mapM_map_eq_some {as : List α} (h : ∀ a ∈ as, read (write a) = some a) :
    (as.map write).mapM read = some as := by
  rw [mapM_eq_some_iff, List.forall₂_map_left_iff, List.forall₂_same]
  exact h

/-- What holds of everything that is read from an item holds of a list that was read. -/
theorem forall_mem_of_mapM {p : α → Prop} {items : List Json} {as : List α}
    (h : items.mapM read = some as) (hread : ∀ item a, read item = some a → p a) :
    ∀ a ∈ as, p a := by
  have hflip : List.Forall₂ (fun a item => read item = some a) as items :=
    (mapM_eq_some_iff.1 h).flip
  have hboth := hflip.imp fun a item ha => And.intro (hread item a ha) ha
  exact ((List.forall₂_and_left as items).1 hboth).1

/-- The items of a list are each restored. -/
theorem Restores.list (h : Restores depth read write id) :
    Restores (depth + 1) (list? read) (fun as => .arr (as.map write)) id := by
  intro value as hread
  cases value with
  | arr items =>
    have hkeeps : ∀ a ∈ as, Keeps depth read write a a := forall_mem_of_mapM hread h
    refine ⟨.arr fun item hitem => ?_, mapM_map_eq_some fun a ha => (hkeeps a ha).read_write⟩
    obtain ⟨a, ha, rfl⟩ := List.mem_map.1 hitem
    exact (hkeeps a ha).storable
  | _ => cases hread

theorem keeps_nil (depth : Nat) :
    Keeps (depth + 1) (list? read) (fun as => .arr (as.map write)) [] [] :=
  ⟨.arr (List.forall_mem_nil _), rfl⟩

/-! ### Fields -/

namespace Fields

/-- An object that has each of the known keys once has their fields. -/
theorem of?_obj {known : List String} {entries : List (String × Json)}
    (hkeys : entries.map Prod.fst = known) (hnodup : known.Nodup) :
    of? known (.obj entries) = some ⟨entries⟩ := by
  have hcount : ∀ key, count entries key = known.count key := by
    intro key
    rw [count, ← List.countP_eq_length_filter, ← hkeys, List.count, List.countP_map]
    rfl
  refine if_pos (List.all_eq_true.2 fun key _ => ?_)
  rw [hcount]
  exact decide_eq_true (List.nodup_iff_count_le_one.1 hnodup key)

end Fields

/-- A field that has to be there was read from some value, which is restored. -/
theorem Restores.required (h : Restores depth read write plain) {fields : Fields} {key : String}
    {next : α → Option β} {b : β} (hread : (fields.required key read).bind next = some b) :
    ∃ a, Keeps depth read write a (plain a) ∧ next a = some b := by
  obtain ⟨a, ha, hnext⟩ := Option.bind_eq_some_iff.1 hread
  obtain ⟨value, -, hvalue⟩ := Option.bind_eq_some_iff.1 ha
  exact ⟨a, h value a hvalue, hnext⟩

/-- A field that may be missing was read from some value, or has the value for that case. -/
theorem Restores.orElse (h : Restores depth read write plain) {fields : Fields} {key : String}
    {next : α → Option β} {b : β} {other : α} (hother : Keeps depth read write other (plain other))
    (hread : (fields.orElse key read other).bind next = some b) :
    ∃ a, Keeps depth read write a (plain a) ∧ next a = some b := by
  obtain ⟨a, ha, hnext⟩ := Option.bind_eq_some_iff.1 hread
  refine ⟨a, ?_, hnext⟩
  unfold Fields.orElse at ha
  split at ha
  · rw [← Option.some.inj ha]
    exact hother
  · exact h _ _ ha

/-- The entries can be stored, and a record is made. -/
structure KeepsFields (depth : Nat) (entries : List (String × Json)) (made : Option α) (back : α) :
    Prop where
  storable : ∀ entry ∈ entries, Storable depth entry.2
  made_eq : made = some back

theorem keepsFields_nil (back : α) : KeepsFields depth [] (some back) back := ⟨nofun, rfl⟩

theorem Keeps.required {a back : α} (h : Keeps depth read write a back) {fields : Fields}
    {key : String} {next : α → Option β} {b : β} {entries : List (String × Json)}
    (hfind : fields.find? key = some (write a)) (hrest : KeepsFields depth entries (next back) b) :
    KeepsFields depth ((key, write a) :: entries) ((fields.required key read).bind next) b where
  storable := List.forall_mem_cons.2 ⟨h.storable, hrest.storable⟩
  made_eq := by
    rw [Fields.required, hfind, Option.bind_some, h.read_write, Option.bind_some, hrest.made_eq]

theorem Keeps.orElse {a back other : α} (h : Keeps depth read write a back) {fields : Fields}
    {key : String} {next : α → Option β} {b : β} {entries : List (String × Json)}
    (hfind : fields.find? key = some (write a)) (hrest : KeepsFields depth entries (next back) b) :
    KeepsFields depth ((key, write a) :: entries) ((fields.orElse key read other).bind next) b where
  storable := List.forall_mem_cons.2 ⟨h.storable, hrest.storable⟩
  made_eq := by
    simp only [Fields.orElse, hfind, h.read_write, Option.bind_some, hrest.made_eq]

/-- A record is kept when its entries are, and `build` makes it of them. -/
theorem keeps_record {known : List String} {entries : List (String × Json)}
    {build : Fields → Option α} {a back : α}
    (hread : ∀ value, read value = (Fields.of? known value).bind build)
    (hwrite : write a = .obj entries) (hkeys : entries.map Prod.fst = known) (hnodup : known.Nodup)
    (hfields : KeepsFields depth entries (build ⟨entries⟩) back) :
    Keeps (depth + 1) read write a back where
  storable := by
    rw [hwrite]
    exact .obj hfields.storable
  read_write := by
    rw [hwrite, hread, Fields.of?_obj hkeys hnodup, Option.bind_some, hfields.made_eq]

/-! ### Tagged values -/

theorem usableItems_of_forall {items : List Json} (h : ∀ item ∈ items, item.usable = true) :
    usableItems items = true := by
  induction items with
  | nil => rfl
  | cons item items ih =>
    obtain ⟨hitem, hitems⟩ := List.forall_mem_cons.1 h
    rw [usableItems, hitem, ih hitems]
    rfl

theorem usableEntries_of_forall {entries : List (String × Json)}
    (h : ∀ entry ∈ entries, entry.2.usable = true) : usableEntries entries = true := by
  induction entries with
  | nil => rfl
  | cons entry entries ih =>
    obtain ⟨hentry, hentries⟩ := List.forall_mem_cons.1 h
    rw [usableEntries, hentry, ih hentries]
    rfl

/-- No part of a value that can be stored is unusable. -/
theorem Storable.usable {value : Json} (h : Storable depth value) : value.usable = true := by
  induction h with
  | null | bool | int | str => rfl
  | arr _ ih => exact usableItems_of_forall ih
  | obj _ ih => exact usableEntries_of_forall ih

/-- The tag is found again, and under the other keys the fields of its case. -/
theorem tagged?_obj {tag name : String} {entries : List (String × Json)}
    (htag : ∀ entry ∈ entries, entry.1 ≠ tag) (husable : ∀ entry ∈ entries, entry.2.usable = true) :
    tagged? tag (.obj ((tag, .str name) :: entries)) =
      some (name, fun known => Fields.of? known (.obj entries)) := by
  have hother : entries.filter (fun e => e.1 == tag) = [] :=
    List.filter_eq_nil_iff.2 fun entry hentry => by simp [htag entry hentry]
  have hkept : entries.filter (fun e => e.1 != tag) = entries :=
    List.filter_eq_self.2 fun entry hentry => by simp [htag entry hentry]
  have hcount : Fields.count ((tag, .str name) :: entries) tag = 1 := by
    simp [Fields.count, hother]
  have hsound : usableEntries ((tag, .str name) :: entries) = true :=
    usableEntries_of_forall (List.forall_mem_cons.2 ⟨rfl, husable⟩)
  simp [tagged?, hcount, hsound, hkept, Fields.of?]

/-- A case of a tagged value is kept when its entries are, and `build` makes it of them. -/
theorem keeps_tagged (tag name : String) (known : List String) {entries : List (String × Json)}
    {build : Fields → Option α} {a back : α}
    (hread : ∀ value fieldsWith, tagged? tag value = some (name, fieldsWith) →
      read value = (fieldsWith known).bind build)
    (hwrite : write a = .obj ((tag, .str name) :: entries))
    (hkeys : entries.map Prod.fst = known) (hnodup : (tag :: known).Nodup)
    (hfields : KeepsFields depth entries (build ⟨entries⟩) back) :
    Keeps (depth + 1) read write a back where
  storable := by
    rw [hwrite]
    exact .obj (List.forall_mem_cons.2 ⟨.str name, hfields.storable⟩)
  read_write := by
    obtain ⟨htag, hknown⟩ := List.nodup_cons.1 hnodup
    have hothers : ∀ entry ∈ entries, entry.1 ≠ tag := by
      rintro entry hentry rfl
      exact htag (hkeys ▸ List.mem_map_of_mem hentry)
    have htagged : tagged? tag (.obj ((tag, .str name) :: entries)) =
        some (name, fun known => Fields.of? known (.obj entries)) :=
      tagged?_obj hothers fun entry hentry => (hfields.storable entry hentry).usable
    rw [hwrite, hread _ _ htagged, Fields.of?_obj hkeys hknown, Option.bind_some, hfields.made_eq]

end OrderDesk.Json
