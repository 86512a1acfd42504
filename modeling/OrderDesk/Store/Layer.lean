import OrderDesk.Store.Table

/-!
# Layers

A layer lies over a table and takes up the records that are changed or added, so that
the table stays as it is until the layer is published. A record is looked for in the
layer first (`find?_publish`: publishing shows the same records), and a change may as
well be made after publishing (`publish_put`).
-/

namespace OrderDesk

/-- A table and the records that were changed or added since. -/
structure Layer {α κ : Type} (key : α → κ) where
  base : Table key
  changed : Table key

namespace Layer

variable {α κ : Type} {key : α → κ} [DecidableEq κ]

/-- A layer without changes. -/
def ofTable (base : Table key) : Layer key := ⟨base, .empty⟩

/-- The record under a key. -/
def find? (layer : Layer key) (k : κ) : Option α := (layer.changed.find? k).or (layer.base.find? k)

/-- Changes or adds a record. -/
def put (layer : Layer key) (record : α) : Layer key :=
  { layer with changed := layer.changed.put record }

/-- The table with all changes. -/
def publish (layer : Layer key) : Table key := layer.changed.rows.foldl Table.put layer.base

@[simp] theorem find?_ofTable (base : Table key) (k : κ) :
    (ofTable base).find? k = base.find? k := by
  simp [ofTable, find?]

theorem find?_put (layer : Layer key) (record : α) (k : κ) :
    (layer.put record).find? k = if key record = k then some record else layer.find? k := by
  simp only [put, find?, Table.find?_put]
  split <;> rfl

private theorem find?_foldl_put (records : List α) (table : Table key) (k : κ)
    (h : (records.map key).Nodup) :
    (records.foldl Table.put table).find? k =
      (records.find? fun a => key a = k).or (table.find? k) := by
  induction records generalizing table with
  | nil => rfl
  | cons a rest ih =>
    simp only [List.map_cons, List.nodup_cons] at h
    rw [List.foldl_cons, ih _ h.2, Table.find?_put, List.find?_cons]
    by_cases hak : key a = k
    · have hnone : rest.find? (fun b => key b = k) = none := by
        rw [List.find?_eq_none]
        intro b hb hbk
        simp only [decide_eq_true_eq] at hbk
        exact h.1 (hak ▸ hbk ▸ List.mem_map_of_mem hb)
      simp [hak, hnone]
    · simp [hak]

/-- **Publishing shows the same records.** -/
theorem find?_publish (layer : Layer key) (k : κ) : layer.publish.find? k = layer.find? k :=
  find?_foldl_put layer.changed.rows layer.base k layer.changed.nodup

/-- A record that is there already may be put in before or after others. -/
private theorem foldl_put_comm (records : List α) (table : Table key) {record : α}
    (h : key record ∉ records.map key) (hc : table.contains (key record) = true) :
    (records.foldl Table.put table).put record = records.foldl Table.put (table.put record) := by
  induction records generalizing table with
  | nil => rfl
  | cons a rest ih =>
    simp only [List.map_cons, List.mem_cons, not_or] at h
    rw [List.foldl_cons, ih _ h.2 (by simp [hc]), Table.put_comm table (Ne.symm h.1) hc]
    rfl

private theorem foldl_put_replaceRows (records : List α) (table : Table key) {record : α}
    (hnodup : (records.map key).Nodup) (h : key record ∈ records.map key) :
    (Table.replaceRows key records record).foldl Table.put table =
      (records.foldl Table.put table).put record := by
  induction records generalizing table with
  | nil => simp at h
  | cons a rest ih =>
    simp only [List.map_cons, List.nodup_cons] at hnodup
    simp only [Table.replaceRows, List.map_cons, List.foldl_cons]
    by_cases hkey : key a = key record
    · have hrest := Table.replaceRows_of_not_mem (hkey ▸ hnodup.1)
      simp only [Table.replaceRows] at hrest
      rw [if_pos hkey, hrest, foldl_put_comm rest _ (hkey ▸ hnodup.1) (by simp [hkey]),
        Table.put_put table hkey]
    · rw [if_neg hkey]
      refine ih _ hnodup.2 ?_
      simpa [Ne.symm hkey] using h

/-- **Publishing commutes with a change.** A change made in the layer and then published is
the change made in the published table. -/
theorem publish_put (layer : Layer key) (record : α) :
    (layer.put record).publish = layer.publish.put record := by
  unfold publish put
  cases h : layer.changed.contains (key record) with
  | true =>
    rw [Table.rows_put_of_contains h]
    exact foldl_put_replaceRows _ _ layer.changed.nodup (Table.contains_iff.1 h)
  | false =>
    rw [Table.rows_put_of_not_contains h, List.foldl_append]
    rfl

@[simp] theorem publish_ofTable (base : Table key) : (ofTable base).publish = base := rfl

end Layer

end OrderDesk
