import OrderDesk.OrderSheet

/-!
# Rows are read as they were written

A field is written as it stands, or in quotes when it has a comma, a quote or a line break in it.
Either way the reader comes out behind the field with its characters (`readFrom_fieldChars`), at
a place where a comma ends the field and a line break ends the row. So rows of at least two
fields are read back field by field, whatever is in them (`readRows_flatMap`). A row with one
empty field would be an empty line, which is skipped.

A sheet of orders is such a text: its header and one row for each order (`OrderSheet.read_text`).
-/

namespace OrderDesk

namespace Delimited

open Place Mark OrderDesk.Delimited.Action

/-! ### One field -/

theorem action_plain (place : Place) :
    action place .plain = .keep (if place = .quoted then .quoted else .bare) := by
  cases place <;> rfl

/-- Symbols that are no marks are read as they stand. -/
theorem readFrom_plain {σ : Type} {code : σ → Nat} {place : Place} {cs : List σ}
    (hplain : ∀ c ∈ cs, markOf (code c) = .plain) (hcs : cs ≠ []) (field : List σ)
    (fields : List (List σ)) (rest : List σ) :
    readFrom code place field fields (cs ++ rest) =
      readFrom code (if place = .quoted then .quoted else .bare) (cs.reverse ++ field) fields
        rest := by
  induction cs generalizing place field with
  | nil => exact absurd rfl hcs
  | cons c cs ih =>
    obtain ⟨hc, hplain⟩ := List.forall_mem_cons.1 hplain
    have happend : (c :: cs).reverse ++ field = cs.reverse ++ c :: field := by simp
    rw [List.cons_append, readFrom, hc, action_plain, happend]
    simp only
    cases cs with
    | nil => rfl
    | cons next cs =>
      rw [ih hplain (List.cons_ne_nil _ _)]
      cases place <;> rfl

/-- In quotes, a text with its quotes doubled is read up to the closing quote. -/
theorem readFrom_doubled (cs : List Char) (field : List Char) (fields : List (List Char))
    (rest : List Char) :
    readFrom Char.toNat .quoted field fields
        (cs.flatMap (fun c => if c = '"' then ['"', '"'] else [c]) ++ '"' :: rest) =
      readFrom Char.toNat .closing (cs.reverse ++ field) fields rest := by
  induction cs generalizing field with
  | nil => rfl
  | cons c cs ih =>
    rw [List.flatMap_cons, List.reverse_cons, List.append_assoc, List.append_assoc]
    by_cases hquote : c = '"'
    · subst hquote
      exact ih ('"' :: field)
    · have haction : action .quoted (markOf c.toNat) = .keep .quoted := by
        have hcode : c.toNat ≠ 34 := fun hcode => hquote (Char.toNat_inj.1 hcode)
        unfold markOf
        rw [if_neg hcode]
        split
        · rfl
        · split <;> rfl
      rw [if_neg hquote, List.cons_append, readFrom, haction]
      exact ih (c :: field)

/-- A field in quotes is read up to the closing quote. -/
theorem readFrom_quotedChars {place : Place} (hplace : place = .lineStart ∨ place = .fieldStart)
    (field : List Char) (fields : List (List Char)) (rest : List Char) :
    readFrom Char.toNat place [] fields (quotedChars field ++ rest) =
      readFrom Char.toNat .closing field.reverse fields rest := by
  have hopen : action place (markOf '"'.toNat) = .skip .quoted := by
    rcases hplace with rfl | rfl <;> rfl
  rw [quotedChars, List.cons_append, List.cons_append, List.append_assoc, readFrom, hopen]
  exact (readFrom_doubled field [] fields rest).trans (by rw [List.append_nil])

/-- **A field is read as it was written.** The reader is at a place then where a comma ends the
field. -/
theorem readFrom_fieldChars {place : Place} (hplace : place = .lineStart ∨ place = .fieldStart)
    (field : List Char) (fields : List (List Char)) (rest : List Char) :
    ∃ behind, behind ≠ .quoted ∧ (behind = .lineStart → place = .lineStart) ∧
      readFrom Char.toNat place [] fields (fieldChars field ++ rest) =
        readFrom Char.toNat behind field.reverse fields rest := by
  unfold fieldChars
  cases hneeds : needsQuotes field with
  | true => exact ⟨.closing, nofun, nofun, readFrom_quotedChars hplace field fields rest⟩
  | false =>
    rw [if_neg Bool.false_ne_true]
    by_cases hempty : field = []
    · subst hempty
      exact ⟨place, by rcases hplace with rfl | rfl <;> nofun, id, rfl⟩
    · have hplain : ∀ c ∈ field, markOf c.toNat = .plain := by
        simpa [needsQuotes] using hneeds
      have hbare : (if place = .quoted then Place.quoted else .bare) = .bare := by
        rcases hplace with rfl | rfl <;> rfl
      refine ⟨.bare, nofun, nofun, ?_⟩
      rw [readFrom_plain hplain hempty, hbare, List.append_nil]

/-! ### Rows -/

theorem action_comma {place : Place} (h : place ≠ .quoted) : action place .comma = .endField := by
  cases place with
  | quoted => exact absurd rfl h
  | _ => rfl

theorem action_lineEnd {place : Place} (h : place ≠ .quoted) (hstart : place ≠ .lineStart) :
    action place .lineEnd = .endRow := by
  cases place with
  | quoted => exact absurd rfl h
  | lineStart => exact absurd rfl hstart
  | _ => rfl

/-- A field before a comma. -/
theorem readFrom_field_comma {place : Place} (hplace : place = .lineStart ∨ place = .fieldStart)
    (field : List Char) (fields : List (List Char)) (rest : List Char) :
    readFrom Char.toNat place [] fields (fieldChars field ++ ',' :: rest) =
      readFrom Char.toNat .fieldStart [] (field :: fields) rest := by
  obtain ⟨behind, hquoted, -, hread⟩ := readFrom_fieldChars hplace field fields (',' :: rest)
  rw [hread, readFrom, show markOf ','.toNat = .comma from rfl, action_comma hquoted]
  simp only [List.reverse_reverse]

/-- The last field of a row, which is not the only one. -/
theorem readFrom_field_lineEnd (field : List Char) (fields : List (List Char))
    (rest : List Char) :
    readFrom Char.toNat .fieldStart [] fields (fieldChars field ++ '\n' :: rest) =
      (field :: fields).reverse :: readRows Char.toNat rest := by
  obtain ⟨behind, hquoted, hstart, hread⟩ :=
    readFrom_fieldChars (.inr rfl) field fields ('\n' :: rest)
  rw [hread, readFrom, show markOf '\n'.toNat = .lineEnd from rfl,
    action_lineEnd hquoted fun h => absurd (hstart h) nofun]
  simp only [List.reverse_reverse]
  rfl

theorem readFrom_fieldsChars {fields : List (List Char)} (hfields : fields ≠ [])
    (before : List (List Char)) (rest : List Char) :
    readFrom Char.toNat .fieldStart [] before (fieldsChars fields ++ '\n' :: rest) =
      (before.reverse ++ fields) :: readRows Char.toNat rest := by
  induction fields generalizing before with
  | nil => exact absurd rfl hfields
  | cons field others ih =>
    cases others with
    | nil =>
      rw [fieldsChars, readFrom_field_lineEnd, List.reverse_cons]
    | cons next others =>
      rw [fieldsChars, List.append_assoc, List.cons_append,
        readFrom_field_comma (.inr rfl), ih (List.cons_ne_nil _ _), List.reverse_cons,
        List.append_assoc]
      · rfl
      · exact List.cons_ne_nil _ _

/-- **A row is read as it was written**, if it has more than one field. -/
theorem readRows_rowChars {fields : List (List Char)} (h : 2 ≤ fields.length) (rest : List Char) :
    readRows Char.toNat (rowChars fields ++ rest) = fields :: readRows Char.toNat rest := by
  obtain ⟨first, second, others, rfl⟩ : ∃ first second others,
      fields = first :: second :: others := by
    match fields, h with
    | first :: second :: others, _ => exact ⟨first, second, others, rfl⟩
  have hchars : rowChars (first :: second :: others) ++ rest =
      fieldChars first ++ ',' :: (fieldsChars (second :: others) ++ '\n' :: rest) := by
    simp [rowChars, fieldsChars]
  rw [hchars, readRows, readFrom_field_comma (.inl rfl),
    readFrom_fieldsChars (List.cons_ne_nil _ _)]
  rfl

/-- **Rows are read as they were written**, if each has more than one field. -/
theorem readRows_flatMap {rows : List (List (List Char))} (h : ∀ row ∈ rows, 2 ≤ row.length) :
    readRows Char.toNat (rows.flatMap rowChars) = rows := by
  induction rows with
  | nil => rfl
  | cons row rest ih =>
    obtain ⟨hrow, hrest⟩ := List.forall_mem_cons.1 h
    rw [List.flatMap_cons, readRows_rowChars hrow, ih hrest]

end Delimited

/-! ### Sheets -/

namespace OrderSheet

/-- The rows of a sheet, its header among them. -/
def read (sheet : String) : List (List String) :=
  (Delimited.readRows Char.toNat sheet.toList).map fun row => row.map String.ofList

/-- The characters of rows. -/
def rowsChars (rows : List (List String)) : List Char :=
  (rows.map fun row => row.map String.toList).flatMap Delimited.rowChars

theorem toList_write (writer : Writer) (orders : List Order) :
    (writer.write orders).text.toList = writer.text.toList ++
      (if writer.started ∨ orders = [] then [] else rowsChars [columns]) ++
        rowsChars (orders.map fields) := by
  induction orders generalizing writer with
  | nil => simp [Writer.write, rowsChars]
  | cons order rest ih =>
    have hrest : (writer.write (order :: rest)) = (writer.writeOrder order).write rest := rfl
    rw [hrest, ih]
    cases hstarted : writer.started <;>
      simp [Writer.writeOrder, hstarted, rowText, rowsChars]

/-- A sheet is its header and a row for each order, if there are orders. -/
theorem toList_text (orders : List Order) :
    (text orders).toList =
      rowsChars (if orders = [] then [] else columns :: orders.map fields) := by
  rw [text, toList_write]
  by_cases hnone : orders = []
  · subst hnone
    rfl
  · simp [Writer.new, hnone, rowsChars]

/-- **A sheet is read as it was written.** -/
theorem read_text (orders : List Order) :
    read (text orders) = if orders = [] then [] else columns :: orders.map fields := by
  have hlength : ∀ row ∈ (if orders = [] then [] else columns :: orders.map fields),
      2 ≤ row.length := by
    intro row hrow
    split at hrow
    · cases hrow
    · rcases List.mem_cons.1 hrow with rfl | hmem
      · decide
      · obtain ⟨order, -, rfl⟩ := List.mem_map.1 hmem
        exact Nat.le_add_left 2 15
  rw [read, toList_text, rowsChars, Delimited.readRows_flatMap, List.map_map]
  · exact (List.map_congr_left fun row _ => by simp).trans (List.map_id _)
  · intro row hrow
    obtain ⟨strings, hmem, rfl⟩ := List.mem_map.1 hrow
    rw [List.length_map]
    exact hlength strings hmem

/-- The rows behind the header are those of the orders. -/
theorem tail_read_text (orders : List Order) : (read (text orders)).tail = orders.map fields := by
  rw [read_text]
  split
  · rename_i hnone
    subst hnone
    rfl
  · rfl

/-- The status of an order is found in its row, in the column of that name. -/
theorem lookup_status (order : Order) :
    (columns.zip (fields order)).lookup "status" = some order.status.name := rfl

end OrderSheet

end OrderDesk
