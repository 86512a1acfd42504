/-!
# Tables

A table keeps records in the order in which they came, each under a key of its own.
What a table holds is told by `find?`; `put` changes it at one key only
(`find?_put`), in place when the key is there and at the end when it is not.
-/

namespace OrderDesk

/-- Records of which no two have the same key. -/
structure Table {α κ : Type} (key : α → κ) where
  rows : List α
  nodup : (rows.map key).Nodup

namespace Table

variable {α κ : Type} {key : α → κ}

instance [DecidableEq α] : DecidableEq (Table key) := fun a b =>
  if h : a.rows = b.rows then isTrue (by cases a; cases b; cases h; rfl)
  else isFalse fun hab => h (congrArg rows hab)

theorem eq_of_rows_eq {a b : Table key} (h : a.rows = b.rows) : a = b := by
  cases a; cases b; cases h; rfl

/-- The table without records. -/
def empty : Table key := ⟨[], List.Pairwise.nil⟩

/-- How many records there are. -/
def size (table : Table key) : Nat := table.rows.length

variable [DecidableEq κ]

/-- The record under a key. -/
def find? (table : Table key) (k : κ) : Option α := table.rows.find? fun a => key a = k

/-- There is a record under the key. -/
def contains (table : Table key) (k : κ) : Bool := (table.find? k).isSome

/-- The rows with a record instead of the one under its key. -/
def replaceRows (key : α → κ) (rows : List α) (record : α) : List α :=
  rows.map fun a => if key a = key record then record else a

private theorem key_replaced (key : α → κ) (record a : α) :
    key (if key a = key record then record else a) = key a := by
  split <;> simp_all

theorem keys_replaceRows (key : α → κ) (rows : List α) (record : α) :
    (replaceRows key rows record).map key = rows.map key := by
  simp only [replaceRows, List.map_map]
  exact List.map_congr_left fun a _ => key_replaced key record a

/-- Nothing is replaced where no record has the key. -/
theorem replaceRows_of_not_mem {key : α → κ} {rows : List α} {record : α}
    (h : key record ∉ rows.map key) : replaceRows key rows record = rows := by
  refine (List.map_congr_left fun a ha => ?_).trans (List.map_id _)
  have hne : key a ≠ key record := fun hkey => h (hkey ▸ List.mem_map_of_mem ha)
  simp [hne]

theorem contains_iff {table : Table key} {k : κ} :
    table.contains k = true ↔ k ∈ table.rows.map key := by
  simp [contains, find?, List.find?_isSome]

/-- The rows with a record under its key. -/
def putRows (table : Table key) (record : α) : List α :=
  if table.contains (key record) then replaceRows key table.rows record
  else table.rows ++ [record]

theorem nodup_putRows (table : Table key) (record : α) :
    ((table.putRows record).map key).Nodup := by
  unfold putRows
  split
  · rw [keys_replaceRows]; exact table.nodup
  · rename_i h
    rw [contains_iff] at h
    rw [List.map_append, List.nodup_append]
    refine ⟨table.nodup, by simp, ?_⟩
    intro a ha b hb hab
    simp only [List.map_cons, List.map_nil, List.mem_singleton] at hb
    exact h (hb ▸ hab ▸ ha)

/-- The table with a record under its key. -/
def put (table : Table key) (record : α) : Table key :=
  ⟨table.putRows record, nodup_putRows table record⟩

/-- The table of the records, later ones instead of earlier ones under the same key. -/
def ofList (records : List α) : Table key := records.foldl put empty

@[simp] theorem find?_empty (k : κ) : (empty : Table key).find? k = none := rfl

/-- A record is found under its own key. -/
theorem key_of_find? {table : Table key} {k : κ} {record : α} (h : table.find? k = some record) :
    key record = k := by
  simpa using List.find?_some h

theorem mem_of_find? {table : Table key} {k : κ} {record : α} (h : table.find? k = some record) :
    record ∈ table.rows := List.mem_of_find?_eq_some h

private theorem find?_replaceRows {rows : List α} {record : α} (k : κ)
    (h : key record ∈ rows.map key) :
    (replaceRows key rows record).find? (fun a => key a = k) =
      if key record = k then some record else rows.find? fun a => key a = k := by
  induction rows with
  | nil => simp at h
  | cons a rest ih =>
    simp only [replaceRows, List.map_cons, List.find?_cons] at ih ⊢
    rw [key_replaced key]
    by_cases hak : key a = k
    · by_cases har : key a = key record
      · simp [hak, har ▸ hak]
      · have hrk : key record ≠ k := fun hrk => har (hak.trans hrk.symm)
        simp [hak, hrk, Ne.symm hrk]
    · simp only [hak, decide_false]
      by_cases hmem : key record ∈ rest.map key
      · exact ih hmem
      · have har : key record = key a := by simpa [hmem] using h
        have hrk : key record ≠ k := har ▸ hak
        have hrest := replaceRows_of_not_mem hmem
        simp only [replaceRows] at hrest
        rw [hrest]; simp [hrk]

/-- **What `put` changes.** The record is found under its key, and all else as before. -/
theorem find?_put (table : Table key) (record : α) (k : κ) :
    (table.put record).find? k = if key record = k then some record else table.find? k := by
  unfold put find? putRows
  by_cases h : table.contains (key record) = true
  · simp only [h, if_true]
    exact find?_replaceRows k (contains_iff.1 h)
  · simp only [h, Bool.false_eq_true, if_false, List.find?_append, List.find?_singleton]
    by_cases hk : key record = k
    · have hnone : table.find? k = none := by
        simpa [contains, hk] using h
      unfold find? at hnone
      simp [hk, hnone]
    · simp [hk]

@[simp] theorem find?_put_self (table : Table key) (record : α) :
    (table.put record).find? (key record) = some record := by
  simp [find?_put]

theorem find?_put_of_ne (table : Table key) {record : α} {k : κ} (h : key record ≠ k) :
    (table.put record).find? k = table.find? k := by
  simp [find?_put, h]

/-- Tables that have the same record under a key still do when one record is put into both. -/
theorem find?_put_congr {a b : Table key} {k : κ} (h : a.find? k = b.find? k) (record : α) :
    (a.put record).find? k = (b.put record).find? k := by
  rw [find?_put, find?_put, h]

/-- What is found after a record was put in. -/
theorem found_of_put {table : Table key} {record found : α} {k : κ}
    (h : (table.put record).find? k = some found) :
    (key record = k ∧ record = found) ∨ (key record ≠ k ∧ table.find? k = some found) := by
  rw [find?_put] at h
  by_cases hk : key record = k
  · exact .inl ⟨hk, Option.some.inj ((if_pos hk).symm.trans h)⟩
  · exact .inr ⟨hk, (if_neg hk).symm.trans h⟩

@[simp] theorem contains_put (table : Table key) (record : α) (k : κ) :
    (table.put record).contains k = (decide (key record = k) || table.contains k) := by
  unfold contains
  rw [find?_put]
  split <;> simp_all

theorem rows_put_of_contains {table : Table key} {record : α}
    (h : table.contains (key record) = true) :
    (table.put record).rows = replaceRows key table.rows record := if_pos h

theorem rows_put_of_not_contains {table : Table key} {record : α}
    (h : table.contains (key record) = false) :
    (table.put record).rows = table.rows ++ [record] := by
  simp [put, putRows, h]

theorem rows_put_of_absent {table : Table key} {record : α}
    (h : table.find? (key record) = none) : (table.put record).rows = table.rows ++ [record] := by
  apply rows_put_of_not_contains
  rw [contains, h]
  rfl

/-- The later of two records under one key stays. -/
theorem put_put (table : Table key) {a b : α} (h : key a = key b) :
    (table.put a).put b = table.put b := by
  apply eq_of_rows_eq
  rw [rows_put_of_contains (by simp [h])]
  cases hb : table.contains (key b) with
  | true =>
    rw [rows_put_of_contains (h ▸ hb), rows_put_of_contains hb]
    simp only [replaceRows, List.map_map]
    refine List.map_congr_left fun x _ => ?_
    by_cases hx : key x = key b <;> simp [h, hx]
  | false =>
    have hmem : key b ∉ table.rows.map key := by simp [← contains_iff, hb]
    rw [rows_put_of_not_contains (h ▸ hb), rows_put_of_not_contains hb]
    have hrows := replaceRows_of_not_mem hmem
    simp only [replaceRows] at hrows ⊢
    simp [hrows, h]

/-- A record that is there already may be put in before or after another one. -/
theorem put_comm (table : Table key) {a b : α} (hab : key a ≠ key b)
    (hb : table.contains (key b) = true) : (table.put a).put b = (table.put b).put a := by
  apply eq_of_rows_eq
  rw [rows_put_of_contains (by simp [hb])]
  cases ha : table.contains (key a) with
  | true =>
    rw [rows_put_of_contains ha, rows_put_of_contains (by simp [ha]), rows_put_of_contains hb]
    simp only [replaceRows, List.map_map]
    refine List.map_congr_left fun x _ => ?_
    by_cases hxa : key x = key a
    · simp [hxa, hab]
    · by_cases hxb : key x = key b <;> simp [hxa, hxb, Ne.symm hab]
  | false =>
    rw [rows_put_of_not_contains ha, rows_put_of_not_contains (by simp [ha, Ne.symm hab]),
      rows_put_of_contains hb]
    simp [replaceRows, hab]

/-- A record of the table is the one found under its key. -/
theorem find?_of_mem {table : Table key} {record : α} (h : record ∈ table.rows) :
    table.find? (key record) = some record := by
  obtain ⟨rows, hnodup⟩ := table
  simp only [find?] at h ⊢
  induction rows with
  | nil => simp at h
  | cons a rest ih =>
    simp only [List.map_cons, List.nodup_cons] at hnodup
    rw [List.find?_cons]
    by_cases hkey : key a = key record
    · rcases List.mem_cons.1 h with rfl | hrest
      · simp
      · exact absurd (hkey ▸ List.mem_map_of_mem hrest) hnodup.1
    · rcases List.mem_cons.1 h with rfl | hrest
      · exact absurd rfl hkey
      · simp only [hkey, decide_false]
        exact ih hnodup.2 hrest

/-- A key has no other record than the one that is found under it. -/
theorem eq_of_find? {table : Table key} {k : κ} {record other : α}
    (h : table.find? k = some record) (hmem : other ∈ table.rows) (hkey : key other = k) :
    other = record := by
  have hfound := find?_of_mem hmem
  rw [hkey, h] at hfound
  exact (Option.some.inj hfound).symm

/-! ### Tables record by record -/

/-- A record put in for one that is there changes what is found under its key only. -/
theorem find?_put_eq_map {table : Table key} {record old : α} {f : κ → α → α}
    (hold : table.find? (key record) = some old) (hrecord : f (key record) old = record)
    (hother : ∀ k a, key record ≠ k → f k a = a) (k : κ) :
    (table.put record).find? k = (table.find? k).map (f k) := by
  by_cases hk : key record = k
  · subst hk
    rw [find?_put_self, hold, Option.map_some, hrecord]
  · rw [find?_put_of_ne table hk]
    cases table.find? k with
    | none => rfl
    | some a => rw [Option.map_some, hother k a hk]

/-- A change that leaves every record of a table as it is. -/
theorem find?_eq_map {table : Table key} {f : κ → α → α}
    (h : ∀ k a, table.find? k = some a → f k a = a) (k : κ) :
    table.find? k = (table.find? k).map (f k) := by
  cases hfound : table.find? k with
  | none => rfl
  | some a => rw [Option.map_some, h k a hfound]

/-- Two tables have records under the same keys, and those under one key are related. -/
def Related (R : κ → α → α → Prop) (first second : Table key) : Prop :=
  ∀ k, Option.Rel (R k) (first.find? k) (second.find? k)

variable {R S : κ → α → α → Prop} {first second third : Table key} {f : κ → α → α}

theorem Related.refl (h : ∀ k a, R k a a) (table : Table key) : table.Related R table := by
  intro k
  cases table.find? k with
  | none => exact .none
  | some a => exact .some (h k a)

/-- Changing every record of the second table. -/
theorem Related.map (h : first.Related R second)
    (hmap : ∀ k, third.find? k = (second.find? k).map (f k))
    (hf : ∀ k a b, first.find? k = some a → third.find? k = some (f k b) → R k a b →
      S k a (f k b)) :
    first.Related S third := by
  intro k
  have hrel := h k
  have hthird := hmap k
  cases hfirst : first.find? k with
  | none =>
    cases hsecond : second.find? k with
    | none =>
      rw [hthird, hsecond]
      exact .none
    | some b =>
      rw [hfirst, hsecond] at hrel
      cases hrel
  | some a =>
    cases hsecond : second.find? k with
    | none =>
      rw [hfirst, hsecond] at hrel
      cases hrel
    | some b =>
      rw [hfirst, hsecond] at hrel
      rw [hsecond, Option.map_some] at hthird
      cases hrel with
      | some hab =>
        rw [hthird]
        exact .some (hf k a b hfirst hthird hab)

/-- A table that comes from another one by changing its records. -/
theorem Related.of_map (hmap : ∀ k, second.find? k = (first.find? k).map (f k))
    (hf : ∀ k a, first.find? k = some a → R k a (f k a)) : first.Related R second := by
  refine (Related.refl (R := fun _ a b => a = b) (fun _ _ => rfl) first).map hmap ?_
  rintro k a _ ha - rfl
  exact hf k a ha

end Table

end OrderDesk
