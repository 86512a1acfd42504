import Mathlib.Data.List.Forall2
import Mathlib.Data.List.TakeWhile
import OrderDesk.Proofs.Delimited.ReadBack
import OrderDesk.Proofs.RequestFile.Bytes
import OrderDesk.Proofs.Text.Digits

/-!
# Requests are recovered from the file that they are written to

A request is written as the row of its record: a value for each column, and an empty one where the
record has none. The columns stand in any order, with other columns among them, and each field is
in quotes, with blanks around its text (`Cell`). Reading drops the quotes and the blanks
(`readRows_render`), finds the values by the names of the columns (`lookup_cellsUnder`) and makes up
the record again (`recordOfCells?_of_shown`).

A row is spoiled by a kind that is none, by a number that is none, or by a column that its kind needs
and that is missing or empty (`Spoiled`). It is answered by an error, and the rows around it are read
as they would be without it (`ofBytes_render`).
-/

namespace OrderDesk

open OrderDesk.Text

namespace Text

/-- Blanks around a text do not count. -/
theorem trimChars_padded {before behind : List Char} (hbefore : ∀ c ∈ before, isBlank c = true)
    (hbehind : ∀ c ∈ behind, isBlank c = true) (cs : List Char) :
    trimChars (before ++ cs ++ behind) = trimChars cs := by
  have hreverse : ∀ c ∈ behind.reverse, isBlank c = true := by simpa using hbehind
  have hstart : trimStart (before ++ cs ++ behind) = trimStart (cs ++ behind) := by
    rw [List.append_assoc, trimStart, List.dropWhile_append_of_pos hbefore, trimStart]
  have hend : trimStart (cs ++ behind) =
      if (trimStart cs).isEmpty then [] else trimStart cs ++ behind := by
    rw [trimStart, List.dropWhile_append, List.dropWhile_eq_nil_iff.2 hbehind, trimStart]
  rw [trimChars, hstart, hend]
  split
  · rename_i hempty
    rw [trimChars, List.isEmpty_iff.1 hempty]
  · rw [List.reverse_append, trimStart, List.dropWhile_append_of_pos hreverse, ← trimStart, trimChars]

end Text

namespace Delimited

/-- The characters of fields that are all in quotes, with commas between them. -/
def quotedFieldsChars (fields : List (List Char)) : List Char :=
  [','].intercalate (fields.map quotedChars)

/-- A row of fields in quotes is read as it was written, also when it has one field only. -/
theorem readFrom_quotedFieldsChars {place : Place}
    (hplace : place = .lineStart ∨ place = .fieldStart) {fields : List (List Char)}
    (hfields : fields ≠ []) (before : List (List Char)) (rest : List Char) :
    readFrom Char.toNat place [] before (quotedFieldsChars fields ++ '\n' :: rest) =
      (before.reverse ++ fields) :: readRows Char.toNat rest := by
  induction fields generalizing place before with
  | nil => exact absurd rfl hfields
  | cons field others ih =>
    cases others with
    | nil =>
      have hend : action .closing (markOf '\n'.toNat) = .endRow := rfl
      rw [quotedFieldsChars, List.map_singleton, List.intercalate_singleton,
        readFrom_quotedChars hplace, readFrom, hend]
      simp only [List.reverse_reverse, List.reverse_cons]
      rfl
    | cons next others =>
      have hcomma : action .closing (markOf ','.toNat) = .endField := rfl
      have hmore := ih (.inr rfl) (List.cons_ne_nil _ _) (field :: before)
      rw [List.reverse_cons, List.append_assoc] at hmore
      rw [quotedFieldsChars, List.map_cons, List.map_cons, List.intercalate_cons_cons,
        List.append_assoc, List.append_assoc, readFrom_quotedChars hplace, List.singleton_append,
        readFrom, hcomma]
      simp only [List.reverse_reverse]
      exact hmore

/-- The characters of rows of fields that are all in quotes. -/
def quotedRowsChars (rows : List (List (List Char))) : List Char :=
  rows.flatMap fun fields => quotedFieldsChars fields ++ ['\n']

theorem readRows_quotedRowsChars {rows : List (List (List Char))} (h : ∀ row ∈ rows, row ≠ []) :
    readRows Char.toNat (quotedRowsChars rows) = rows := by
  induction rows with
  | nil => rfl
  | cons row rest ih =>
    obtain ⟨hrow, hrest⟩ := List.forall_mem_cons.1 h
    rw [quotedRowsChars, List.flatMap_cons, List.append_assoc, List.singleton_append, readRows,
      readFrom_quotedFieldsChars (.inl rfl) hrow]
    exact congrArg _ (ih hrest)

end Delimited

namespace RequestFile

/-! ### What is written -/

/-- A field of a file: a text, and the blanks around it. -/
structure Cell where
  text : String
  before : List Char
  behind : List Char
  trimmed : trim text = text
  blank_before : ∀ c ∈ before, isBlank c = true
  blank_behind : ∀ c ∈ behind, isBlank c = true

/-- The characters of a field between its quotes. -/
def Cell.chars (cell : Cell) : List Char := cell.before ++ cell.text.toList ++ cell.behind

/-- A file of a header and some rows, each field in quotes. -/
def render (header : List Cell) (rows : List (List Cell)) : String :=
  String.ofList (Delimited.quotedRowsChars ((header :: rows).map fun row => row.map Cell.chars))

/-- The header names each column once. Other columns may stand among them. -/
def Names (header : List Cell) : Prop :=
  ((header.map Cell.text).filter fun name => name ∈ columns).Perm columns

/-- The text of a row in a column. -/
def value? (header row : List Cell) (column : String) : Option String :=
  ((header.map Cell.text).zip (row.map Cell.text)).lookup column

end RequestFile

namespace RequestRecord

/-- What is written for a record in a column. -/
def text (record : RequestRecord) : String → String
  | "kind" => record.kind.name
  | "user" => natText record.user
  | "target" => (record.target.map natText).getD ""
  | "quantity" => (record.quantity.map intText).getD ""
  | "coupon" => record.coupon.getD ""
  | "payment" => natText record.payment
  | "amount" => (record.amount.map intText).getD ""
  | _ => ""

/-- The record of a request: a recharge has no target, and only a recharge has an amount. -/
def ofRequest (user : UserId) : Request → RequestRecord
  | .purchase request =>
    ⟨.purchase, user, some request.planId, some request.quantity, request.coupon, request.paymentId,
      none⟩
  | .renewal request =>
    ⟨.renewal, user, some request.subscriptionId, some request.quantity, request.coupon,
      request.paymentId, none⟩
  | .recharge request => ⟨.recharge, user, none, none, none, request.paymentId, some request.amount⟩

/-- The numbers have 64 bits, and a coupon has a text without blanks around it. -/
structure Writable (record : RequestRecord) : Prop where
  user : record.user < idLimit
  target : ∀ id ∈ record.target, id < idLimit
  quantity : ∀ quantity ∈ record.quantity, Amount.Fits quantity
  coupon : ∀ code ∈ record.coupon, code ≠ "" ∧ trim code = code
  payment : record.payment < idLimit
  amount : ∀ amount ∈ record.amount, Amount.Fits amount

/-- The record of a request says what is asked for, and by whom. -/
theorem toRequest_ofRequest (user : UserId) (request : Request) :
    (ofRequest user request).toRequest = .ok (user, request) := by
  cases request <;> rfl

end RequestRecord

namespace RequestFile

variable {header row : List Cell} {cells : Cells} {record : RequestRecord} {column : String}

/-! ### Fields without their blanks -/

theorem ofList_trimChars_chars (cell : Cell) :
    String.ofList (trimChars cell.chars) = cell.text := by
  rw [Cell.chars, trimChars_padded cell.blank_before cell.blank_behind]
  exact cell.trimmed

theorem rowOfChars_chars (row : List Cell) :
    rowOfChars (row.map Cell.chars) = some (row.map Cell.text) := by
  rw [rowOfChars, List.map_map]
  exact congrArg some (List.map_congr_left fun cell _ => ofList_trimChars_chars cell)

/-- A text that begins with a quote has no mark of the byte order. -/
theorem ofText_of_quote {cs rest : List Char} (h : cs = '"' :: rest) :
    ofText (String.ofList cs) = records ((Delimited.readRows Char.toNat cs).map rowOfChars) := by
  rw [ofText, String.toList_ofList, h]
  rfl

/-- **A file is read row by row**, and the fields are without quotes and blanks. -/
theorem ofBytes_render_eq {rows : List (List Cell)} (hheader : header ≠ [])
    (hrows : ∀ row ∈ rows, row ≠ []) :
    ofBytes (render header rows).toByteArray = rows.map fun row =>
      RequestFile.record (some (header.map Cell.text)) (some (row.map Cell.text)) := by
  have hnonempty : ∀ fields ∈ (header :: rows).map (fun row => row.map Cell.chars), fields ≠ [] := by
    simpa using ⟨hheader, hrows⟩
  obtain ⟨first, others, rfl⟩ := List.exists_cons_of_ne_nil hheader
  have hquote : ∃ rest, Delimited.quotedRowsChars
      (((first :: others) :: rows).map fun row => row.map Cell.chars) = '"' :: rest := by
    cases others <;> exact ⟨_, rfl⟩
  obtain ⟨rest, hrest⟩ := hquote
  rw [ofBytes_toByteArray, render, ofText_of_quote hrest,
    Delimited.readRows_quotedRowsChars hnonempty, List.map_map, List.map_cons, records,
    List.map_map]
  simp only [Function.comp_def, rowOfChars_chars]

/-! ### Values by the names of their columns -/

/-- The value of a column is the one that stands under its name. -/
theorem lookup_cellsUnder {header row : List String} (h : cellsUnder header row = some cells)
    (column : String) : (cells.lookup column).join = (header.zip row).lookup column := by
  fun_induction cellsUnder header row generalizing cells with
  | case1 =>
    obtain rfl := Option.some.inj h
    rfl
  | case2 name header value row ih =>
    obtain ⟨others, hothers, rfl⟩ := Option.map_eq_some_iff.1 h
    rw [List.lookup_cons, List.zip_cons_cons, List.lookup_cons]
    split
    · rfl
    · exact ih hothers
  | case3 name header _ ih =>
    obtain ⟨others, hothers, rfl⟩ := Option.map_eq_some_iff.1 h
    rw [List.lookup_cons]
    split
    · rfl
    · rw [ih hothers, List.zip_nil_right, List.zip_nil_right]
  | case4 => cases h

/-- A row that is as long as the header has values. -/
theorem exists_cellsUnder {header row : List String} (h : header.length ≤ row.length) :
    ∃ cells, cellsUnder header row = some cells := by
  induction header generalizing row with
  | nil => exact ⟨[], by cases row <;> rfl⟩
  | cons column header ih =>
    cases row with
    | nil => simp at h
    | cons value row =>
      obtain ⟨cells, hcells⟩ := ih (Nat.le_of_succ_le_succ h)
      exact ⟨(column, some value) :: cells, by rw [cellsUnder, hcells]; rfl⟩

/-- No column is named twice. -/
theorem Names.count_le (h : Names header) (hcolumn : column ∈ columns) :
    (header.map Cell.text).count column ≤ 1 := by
  have honce : ∀ column ∈ columns, columns.count column ≤ 1 := by decide
  rw [← List.count_filter (p := (· ∈ columns)) (by simpa using hcolumn), h.count_eq]
  exact honce column hcolumn

theorem Names.mem (h : Names header) (hcolumn : column ∈ columns) : column ∈ header.map Cell.text :=
  (List.mem_filter.1 (h.mem_iff.2 hcolumn)).1

theorem Names.cells?_eq (h : Names header) (row : List Cell) :
    cells? (some (header.map Cell.text)) (row.map Cell.text) =
      cellsUnder (header.map Cell.text) (row.map Cell.text) := by
  have honce : (columns.all fun column => (header.map Cell.text).count column ≤ 1) = true := by
    simpa using fun column => h.count_le
  exact if_pos honce

/-! ### Records -/

/-- A record is read when each of its values is. -/
theorem recordOfCells?_eq_some_iff :
    recordOfCells? cells = some record ↔
      required cells "kind" OrderKind.ofName? = some record.kind ∧
      required cells "user" readId = some record.user ∧
      optional cells "target" readId = some record.target ∧
      optional cells "quantity" readAmount = some record.quantity ∧
      optional cells "coupon" some = some record.coupon ∧
      required cells "payment" readId = some record.payment ∧
      optional cells "amount" readAmount = some record.amount := by
  obtain ⟨kind, user, target, quantity, coupon, payment, amount⟩ := record
  simp [recordOfCells?, Option.bind_eq_some_iff]

theorem required_eq {α : Type} (cells : Cells) (column : String) (read : String → Option α) :
    required cells column read = (cells.lookup column).join.bind read := by
  unfold required
  split
  · rename_i value hvalue
    rw [hvalue]
    rfl
  · rename_i hnone
    cases hvalue : cells.lookup column with
    | none => rfl
    | some held =>
      cases held with
      | none => rfl
      | some value => exact absurd hvalue (hnone value)

/-- A value that is there has to be read. -/
theorem optional_of_some {α : Type} {read : String → Option α} {text : String}
    (h : (cells.lookup column).join = some text) (hne : text ≠ "") :
    optional cells column read = (read text).map some := by
  have hvalue : cells.lookup column = some (some text) := Option.join_eq_some_iff.1 h
  simp [optional, hvalue, hne]

/-- A value that is there and is not read leaves no record. -/
theorem optional_of_unread {α : Type} {read : String → Option α} {text : String}
    (h : (cells.lookup column).join = some text) (hne : text ≠ "") (hread : read text = none) :
    optional cells column read = none := by
  rw [optional_of_some h hne, hread]
  rfl

/-- A value that is missing or empty is none. -/
theorem optional_of_empty {α : Type} (read : String → Option α)
    (h : (cells.lookup column).join.getD "" = "") : optional cells column read = some none := by
  unfold optional
  split
  · rename_i value hvalue
    rw [hvalue] at h
    have hempty : value.isEmpty = true := String.isEmpty_iff.2 h
    rw [if_pos hempty]
  · rfl

theorem eq_none_of_optional {α : Type} {read : String → Option α} {held : Option α}
    (hheld : optional cells column read = some held)
    (h : (cells.lookup column).join.getD "" = "") : held = none := by
  rw [optional_of_empty read h] at hheld
  exact (Option.some.inj hheld).symm

/-- What is written where there is a value, and else an empty text, is read as it was. -/
theorem optional_of_written {α : Type} {read : String → Option α} {write : α → String}
    {held : Option α} (hread : ∀ value ∈ held, write value ≠ "" ∧ read (write value) = some value)
    (h : (cells.lookup column).join = some ((held.map write).getD "")) :
    optional cells column read = some held := by
  cases held with
  | none => exact optional_of_empty read (by rw [h]; rfl)
  | some value =>
    obtain ⟨hne, hvalue⟩ := hread value rfl
    rw [optional_of_some h hne]
    exact congrArg (Option.map some) hvalue

theorem readId_natText {n : Nat} (h : n < idLimit) : readId (natText n) = some n := by
  rw [readId, natText, String.toList_ofList, fieldNat?_digitsOfNat]
  exact if_pos h

theorem readAmount_intText {n : Int} (h : Amount.Fits n) : readAmount (intText n) = some n := by
  rw [readAmount, intText, String.toList_ofList, fieldInt?_charsOfInt]
  exact if_pos h

/-- **A record is read from the texts that are written for it.** -/
theorem recordOfCells?_of_shown (hwritable : record.Writable)
    (h : ∀ column ∈ columns, (cells.lookup column).join = some (record.text column)) :
    recordOfCells? cells = some record := by
  have hid : ∀ held : Option Nat, (∀ id ∈ held, id < idLimit) →
      ∀ id ∈ held, natText id ≠ "" ∧ readId (natText id) = some id :=
    fun held hheld id hmem => ⟨natText_ne_empty id, readId_natText (hheld id hmem)⟩
  have hamount : ∀ held : Option Amount, (∀ n ∈ held, Amount.Fits n) →
      ∀ n ∈ held, intText n ≠ "" ∧ readAmount (intText n) = some n :=
    fun held hheld n hmem => ⟨intText_ne_empty n, readAmount_intText (hheld n hmem)⟩
  refine recordOfCells?_eq_some_iff.2 ⟨?_, ?_, ?_, ?_, ?_, ?_, ?_⟩
  · rw [required_eq, h "kind" (by decide)]
    show OrderKind.ofName? record.kind.name = some record.kind
    cases record.kind <;> rfl
  · rw [required_eq, h "user" (by decide)]
    exact readId_natText hwritable.user
  · exact optional_of_written (hid _ hwritable.target) (h "target" (by decide))
  · exact optional_of_written (hamount _ hwritable.quantity) (h "quantity" (by decide))
  · have hcode : ∀ code ∈ record.coupon, id code ≠ "" ∧ some (id code) = some code :=
      fun code hmem => ⟨(hwritable.coupon code hmem).1, rfl⟩
    refine optional_of_written hcode ?_
    rw [h "coupon" (by decide), Option.map_id]
    rfl
  · rw [required_eq, h "payment" (by decide)]
    exact readId_natText hwritable.payment
  · exact optional_of_written (hamount _ hwritable.amount) (h "amount" (by decide))

/-! ### Rows -/

/-- The row is written for a record: in each column that is known stands its text. In the other ones
stands anything. -/
def Writes (header row : List Cell) (record : RequestRecord) : Prop :=
  List.Forall₂ (fun name cell => name.text ∈ columns → cell.text = record.text name.text) header row

/-- The values of a row, by their columns, make up no request. -/
inductive Spoiled (value? : String → Option String) : Prop
  /-- The kind is none of the three. -/
  | kind (h : ∀ kind : OrderKind, value? "kind" ≠ some kind.name)
  /-- The user or the payment is missing or no number. -/
  | id {column : String} (hcolumn : column = "user" ∨ column = "payment")
      (h : (value? column).bind readId = none)
  /-- The target is there, and no number. -/
  | target {text : String} (h : value? "target" = some text) (hne : text ≠ "")
      (hread : readId text = none)
  /-- The quantity or the amount is there, and no number. -/
  | amount {column text : String} (hcolumn : column = "quantity" ∨ column = "amount")
      (h : value? column = some text) (hne : text ≠ "") (hread : readAmount text = none)
  /-- A purchase or a renewal has no target. -/
  | noTarget {kind : OrderKind} (hkind : value? "kind" = some kind.name) (hneeds : kind ≠ .recharge)
      (h : (value? "target").getD "" = "")
  /-- A recharge has no amount. -/
  | noAmount (hkind : value? "kind" = some OrderKind.recharge.name)
      (h : (value? "amount").getD "" = "")

theorem lookup_zip_of_forall₂ {names texts : List String} {text : String → String}
    (h : List.Forall₂ (fun name value => name ∈ columns → value = text name) names texts)
    (hcolumn : column ∈ columns) (hmem : column ∈ names) :
    (names.zip texts).lookup column = some (text column) := by
  induction h with
  | nil => cases hmem
  | cons hvalue _ ih =>
    rename_i name value names texts _
    rw [List.zip_cons_cons, List.lookup_cons]
    cases hname : column == name with
    | true =>
      obtain rfl := eq_of_beq hname
      rw [hvalue hcolumn]
    | false =>
      have hmore : column ∈ names := by
        rcases List.mem_cons.1 hmem with rfl | hmore
        · simp at hname
        · exact hmore
      exact ih hmore

/-- **The row of a record is read as the record.** -/
theorem record_of_writes (hheader : Names header) (hwritable : record.Writable)
    (hrow : Writes header row record) :
    RequestFile.record (some (header.map Cell.text)) (some (row.map Cell.text)) = .ok record := by
  have hlength : (header.map Cell.text).length ≤ (row.map Cell.text).length := by
    rw [List.length_map, List.length_map, hrow.length_eq]
  have htexts : List.Forall₂ (fun name value => name ∈ columns → value = record.text name)
      (header.map Cell.text) (row.map Cell.text) := by
    rw [List.forall₂_map_left_iff, List.forall₂_map_right_iff]
    exact hrow
  obtain ⟨cells, hcells⟩ := exists_cellsUnder hlength
  have hrecord : recordOfCells? cells = some record := by
    refine recordOfCells?_of_shown hwritable fun column hcolumn => ?_
    rw [lookup_cellsUnder hcells]
    exact lookup_zip_of_forall₂ htexts hcolumn (hheader.mem hcolumn)
  simp only [RequestFile.record, Option.bind_some, hheader.cells?_eq, hcells, hrecord]

/-- The values that a record was read from. -/
theorem exists_cells_of_record (hheader : Names header)
    (h : RequestFile.record (some (header.map Cell.text)) (some (row.map Cell.text)) = .ok record) :
    ∃ cells : Cells, (∀ column, (cells.lookup column).join = value? header row column) ∧
      recordOfCells? cells = some record := by
  rw [RequestFile.record, Option.bind_some, hheader.cells?_eq] at h
  cases hcells : cellsUnder (header.map Cell.text) (row.map Cell.text) with
  | none =>
    rw [hcells] at h
    cases h
  | some cells =>
    rw [hcells, Option.bind_some] at h
    refine ⟨cells, lookup_cellsUnder hcells, ?_⟩
    cases hrecord : recordOfCells? cells with
    | none =>
      rw [hrecord] at h
      cases h
    | some read =>
      rw [hrecord] at h
      rw [Except.ok.inj h]

theorem name_of_ofName? {name : String} {kind : OrderKind}
    (h : OrderKind.ofName? name = some kind) : name = kind.name := by
  have hname := List.find?_some h
  exact (eq_of_beq hname).symm

theorem name_injective {kind other : OrderKind} (h : kind.name = other.name) : kind = other := by
  revert h
  cases kind <;> cases other <;> decide

/-- A record without what its kind needs makes up no request. -/
theorem error_of_missing
    (h : record.kind ≠ .recharge ∧ record.target = none ∨
      record.kind = .recharge ∧ record.amount = none) :
    ∃ error, record.toRequest = .error error := by
  obtain ⟨kind, user, target, quantity, coupon, payment, amount⟩ := record
  rcases h with ⟨hkind, rfl⟩ | ⟨rfl, rfl⟩
  · cases kind with
    | recharge => exact absurd rfl hkind
    | _ => exact ⟨_, rfl⟩
  · exact ⟨_, rfl⟩

/-- **A spoiled row makes up no request.** -/
theorem error_of_spoiled (hheader : Names header) (hspoiled : Spoiled (value? header row)) :
    ∃ error, (RequestFile.record (some (header.map Cell.text)) (some (row.map Cell.text))).bind
      RequestRecord.toRequest = .error error := by
  cases hrecord : RequestFile.record (some (header.map Cell.text)) (some (row.map Cell.text)) with
  | error error => exact ⟨error, rfl⟩
  | ok record =>
    obtain ⟨cells, hvalue, hread⟩ := exists_cells_of_record hheader hrecord
    obtain ⟨hkind, huser, htarget, hquantity, -, hpayment, hamount⟩ :=
      recordOfCells?_eq_some_iff.1 hread
    rw [required_eq, hvalue] at hkind huser hpayment
    obtain ⟨name, hname, hofName⟩ := Option.bind_eq_some_iff.1 hkind
    rw [name_of_ofName? hofName] at hname
    have hsame : ∀ kind : OrderKind, value? header row "kind" = some kind.name →
        record.kind = kind :=
      fun kind hvalue => name_injective (Option.some.inj (hname.symm.trans hvalue))
    cases hspoiled with
    | kind h => exact absurd hname (h record.kind)
    | id hcolumn h =>
      rcases hcolumn with rfl | rfl
      · rw [h] at huser
        cases huser
      · rw [h] at hpayment
        cases hpayment
    | target h hne hnone =>
      rw [optional_of_unread ((hvalue _).trans h) hne hnone] at htarget
      cases htarget
    | amount hcolumn h hne hnone =>
      rcases hcolumn with rfl | rfl
      · rw [optional_of_unread ((hvalue _).trans h) hne hnone] at hquantity
        cases hquantity
      · rw [optional_of_unread ((hvalue _).trans h) hne hnone] at hamount
        cases hamount
    | noTarget hkind hneeds h =>
      rw [← hvalue] at h
      exact error_of_missing (.inl ⟨hsame _ hkind ▸ hneeds, eq_none_of_optional htarget h⟩)
    | noAmount hkind h =>
      rw [← hvalue] at h
      exact error_of_missing (.inr ⟨hsame _ hkind, eq_none_of_optional hamount h⟩)

/-! ### Files -/

/-- What a row stands for: a user and a request, or nothing when it is spoiled. -/
def Means (header row : List Cell) : Option (UserId × Request) → Prop
  | some (user, request) =>
    (RequestRecord.ofRequest user request).Writable ∧
      Writes header row (RequestRecord.ofRequest user request)
  | none => row ≠ [] ∧ Spoiled (value? header row)

/-- The answer to a row that stands for something. -/
def Answers (meaning : Option (UserId × Request))
    (answer : Except OrderError (UserId × Request)) : Prop :=
  match meaning with
  | some (user, request) => answer = .ok (user, request)
  | none => ∃ error, answer = .error error

theorem Names.ne_nil (h : Names header) : header ≠ [] := by
  have hkind : "kind" ∈ header.map Cell.text := h.mem (by decide)
  rintro rfl
  cases hkind

/-- No row is an empty line, which would be skipped. -/
theorem ne_nil_of_means (hheader : Names header) {meaning : Option (UserId × Request)}
    (h : Means header row meaning) : row ≠ [] := by
  cases meaning with
  | none => exact h.1
  | some pair =>
    have hlength : header.length = row.length := h.2.length_eq
    rintro rfl
    exact hheader.ne_nil (List.length_eq_zero_iff.1 hlength)

/-- Each row is answered by itself. -/
theorem answers_of_means (hheader : Names header) {meaning : Option (UserId × Request)}
    (h : Means header row meaning) :
    Answers meaning ((RequestFile.record (some (header.map Cell.text))
      (some (row.map Cell.text))).bind RequestRecord.toRequest) := by
  cases meaning with
  | none => exact error_of_spoiled hheader h.2
  | some pair =>
    obtain ⟨user, request⟩ := pair
    obtain ⟨hwritable, hwrites⟩ := h
    rw [record_of_writes hheader hwritable hwrites]
    exact RequestRecord.toRequest_ofRequest user request

/-- **Every request is recovered, and a spoiled row spoils nothing else.** The columns stand in any
order, with others among them, and each field is in quotes and has blanks around its text. The rows
are answered one by one: a row that is written for a request with this request and its user, and a
spoiled one with an error. -/
theorem ofBytes_render {header : List Cell} {rows : List (List Cell)}
    {meanings : List (Option (UserId × Request))} (hheader : Names header)
    (hrows : List.Forall₂ (Means header) rows meanings) :
    List.Forall₂ Answers meanings
      ((ofBytes (render header rows).toByteArray).map fun record =>
        record.bind RequestRecord.toRequest) := by
  have hnonempty : ∀ row ∈ rows, row ≠ [] :=
    ((List.forall₂_and_left rows meanings).1
      (hrows.imp fun row meaning h => ⟨ne_nil_of_means hheader h, h⟩)).1
  rw [ofBytes_render_eq hheader.ne_nil hnonempty, List.map_map, List.forall₂_map_right_iff]
  exact hrows.flip.imp fun meaning row hmeans => answers_of_means hheader hmeans

/-- A text between a blank and a line break. -/
def padded (text : String) (h : trim text = text := by decide +kernel) : Cell where
  text := text
  before := [' ']
  behind := ['\n']
  trimmed := h
  blank_before := List.forall_mem_singleton.2 rfl
  blank_behind := List.forall_mem_singleton.2 rfl

/-- The columns in another order, with a further one. -/
def shuffled : List Cell :=
  [padded "coupon", padded "note", padded "amount", padded "kind", padded "target",
    padded "payment", padded "quantity", padded "user"]

/-- A purchase, a row of a kind that is none, and a recharge. -/
def mixed : List (List Cell) :=
  [[padded "a,\"b\"", padded "kind", padded "", padded "purchase", padded "3", padded "7",
      padded "-5", padded "18446744073709551615"],
    [padded "", padded "", padded "", padded "refund"],
    [padded "", padded "x, y", padded "100", padded "recharge", padded "", padded "7", padded "",
      padded "1"]]

/-- The row in between is refused, and the requests around it are recovered with all that is in their
texts. -/
theorem ofBytes_render_of_mixed :
    Names shuffled ∧
    List.Forall₂ Answers
      [some (18446744073709551615, .purchase ⟨3, -5, some "a,\"b\"", 7⟩), none,
        some (1, .recharge ⟨100, 7⟩)]
      ((ofBytes (render shuffled mixed).toByteArray).map fun record =>
        record.bind RequestRecord.toRequest) := by
  have hnames : Names shuffled := by
    show List.Perm _ _
    decide +kernel
  have hpurchase : Means shuffled (mixed[0])
      (some (18446744073709551615, .purchase ⟨3, -5, some "a,\"b\"", 7⟩)) := by
    refine ⟨⟨by decide, by decide, by decide, by decide +kernel, by decide, by decide⟩, ?_⟩
    unfold Writes
    decide +kernel
  have hrefund : Means shuffled (mixed[1]) none := by
    refine ⟨by decide, .kind fun kind => ?_⟩
    cases kind <;> decide +kernel
  have hrecharge : Means shuffled (mixed[2]) (some (1, .recharge ⟨100, 7⟩)) := by
    refine ⟨⟨by decide, by decide, by decide, by decide, by decide, by decide⟩, ?_⟩
    unfold Writes
    decide +kernel
  exact ⟨hnames, ofBytes_render hnames (.cons hpurchase (.cons hrefund (.cons hrecharge .nil)))⟩

end RequestFile

end OrderDesk
