import Mathlib.Algebra.Order.BigOperators.Group.List
import Mathlib.Algebra.Order.Group.Int
import Mathlib.Algebra.Ring.Int.Defs
import OrderDesk.Store.Table

/-!
# Sums over tables

The sum of a quantity over those records of a table that meet a condition, and how many
there are. Putting a record into a table takes the share of the record under its key out of
the sum, if there is one, and adds the share of the new record (`sumOver_put`).
-/

namespace OrderDesk.Table

variable {α κ : Type} {key : α → κ}

/-- The sum of a quantity over the records that meet a condition. -/
def sumOver (table : Table key) (p : α → Bool) (f : α → Int) : Int :=
  ((table.rows.filter p).map f).sum

/-- How many records meet a condition. -/
def count (table : Table key) (p : α → Bool) : Nat := (table.rows.filter p).length

/-- What a record adds to a sum. -/
def share (p : α → Bool) (f : α → Int) (record : α) : Int := if p record then f record else 0

private theorem sum_filter (rows : List α) (p : α → Bool) (f : α → Int) :
    ((rows.filter p).map f).sum = (rows.map (share p f)).sum := by
  induction rows with
  | nil => rfl
  | cons a rest ih =>
    rw [List.filter_cons, List.map_cons, List.sum_cons, ← ih, share]
    split <;> simp

/-- A count is a sum of ones. -/
theorem count_eq_sumOver (table : Table key) (p : α → Bool) :
    (table.count p : Int) = table.sumOver p fun _ => 1 := by
  unfold count sumOver
  induction table.rows.filter p with
  | nil => rfl
  | cons a rest ih => simp; omega

/-- Where no record has a negative share, none has more than the sum. -/
theorem share_le_sumOver {table : Table key} {p : α → Bool} {f : α → Int} {record : α}
    (hnonneg : ∀ a ∈ table.rows, 0 ≤ share p f a) (h : record ∈ table.rows) :
    share p f record ≤ table.sumOver p f := by
  rw [sumOver, sum_filter]
  refine List.single_le_sum (fun n hn => ?_) _ (List.mem_map_of_mem h)
  obtain ⟨a, ha, rfl⟩ := List.mem_map.1 hn
  exact hnonneg a ha

@[simp] theorem sumOver_empty (p : α → Bool) (f : α → Int) :
    (empty : Table key).sumOver p f = 0 := rfl

@[simp] theorem count_empty (p : α → Bool) : (empty : Table key).count p = 0 := rfl

variable [DecidableEq κ]

private theorem sum_replaceRows {rows : List α} {record : α} (g : α → Int)
    (hnodup : (rows.map key).Nodup) (h : key record ∈ rows.map key) :
    ((replaceRows key rows record).map g).sum +
        ((rows.find? fun a => key a = key record).map g).getD 0 =
      (rows.map g).sum + g record := by
  induction rows with
  | nil => simp at h
  | cons a rest ih =>
    simp only [List.map_cons, List.nodup_cons] at hnodup
    by_cases hkey : key a = key record
    · have hrest := replaceRows_of_not_mem (hkey ▸ hnodup.1)
      simp only [replaceRows] at hrest
      simp only [replaceRows, List.map_cons, hkey, if_true, hrest, List.sum_cons, List.find?_cons,
        decide_true, Option.map_some, Option.getD_some]
      omega
    · have hmem : key record ∈ rest.map key := by simpa [Ne.symm hkey] using h
      have hrest := ih hnodup.2 hmem
      simp only [replaceRows] at hrest
      simp only [replaceRows, List.map_cons, hkey, if_false, List.sum_cons, List.find?_cons,
        decide_false]
      omega

/-- **What `put` does to a sum.** The share of the record that was there goes, the share of
the new one comes. -/
theorem sumOver_put (table : Table key) (record : α) (p : α → Bool) (f : α → Int) :
    (table.put record).sumOver p f + ((table.find? (key record)).map (share p f)).getD 0 =
      table.sumOver p f + share p f record := by
  unfold sumOver
  rw [sum_filter, sum_filter]
  cases h : table.contains (key record) with
  | true =>
    rw [rows_put_of_contains h]
    exact sum_replaceRows _ table.nodup (contains_iff.1 h)
  | false =>
    have hnone : table.find? (key record) = none := by simpa [contains] using h
    rw [rows_put_of_not_contains h, hnone]
    simp

theorem sumOver_put_of_none {table : Table key} {record : α}
    (h : table.find? (key record) = none) (p : α → Bool) (f : α → Int) :
    (table.put record).sumOver p f = table.sumOver p f + share p f record := by
  simpa [h] using sumOver_put table record p f

theorem sumOver_put_of_some {table : Table key} {record old : α}
    (h : table.find? (key record) = some old) (p : α → Bool) (f : α → Int) :
    (table.put record).sumOver p f = table.sumOver p f - share p f old + share p f record := by
  have hput := sumOver_put table record p f
  rw [h, Option.map_some, Option.getD_some] at hput
  omega

end OrderDesk.Table
