import OrderDesk.Proofs.Delimited.Cutting
import OrderDesk.Proofs.Delimited.ReadBack
import OrderDesk.RequestFile

/-!
# Request files as bytes

A request file that is a text as a whole is read character by character, and any other one byte
by byte, so that a field which is no text spoils its own row only. Both readings agree: commas,
quotes and line breaks are single bytes in UTF-8, and no byte of another character looks like one
of them (`readRows_utf8`). So every file can be taken as one that is read byte by byte
(`ofBytes_eq`).

From that follows what deleting rows of a file does, whichever rows are no text: the requests of
the other rows are read as before (`ofBytes_without`).
-/

namespace OrderDesk

open Delimited

/-! ### Characters in UTF-8 -/

namespace Text

/-- The bytes of characters. -/
def utf8 (cs : List Char) : List UInt8 := cs.flatMap String.utf8EncodeChar

theorem utf8_cons (c : Char) (cs : List Char) :
    utf8 (c :: cs) = String.utf8EncodeChar c ++ utf8 cs := List.flatMap_cons

theorem utf8_append (cs ds : List Char) : utf8 (cs ++ ds) = utf8 cs ++ utf8 ds :=
  List.flatMap_append

/-- A character of ASCII is one byte. -/
theorem utf8EncodeChar_of_le {c : Char} (h : c.toNat ≤ 127) :
    String.utf8EncodeChar c = [UInt8.ofNat c.toNat] := if_pos h

/-- Any other character has no byte of ASCII. -/
theorem le_of_mem_utf8EncodeChar {c : Char} (h : 127 < c.toNat) {byte : UInt8}
    (hbyte : byte ∈ String.utf8EncodeChar c) : 128 ≤ byte.toNat := by
  have hlow : ¬c.val.toNat ≤ 127 := Nat.not_le.2 h
  simp only [String.utf8EncodeChar, if_neg hlow] at hbyte
  split at hbyte
  · simp only [List.mem_cons, List.not_mem_nil, or_false] at hbyte
    rcases hbyte with rfl | rfl <;> rw [UInt8.toNat_ofNat'] <;> omega
  · split at hbyte
    · simp only [List.mem_cons, List.not_mem_nil, or_false] at hbyte
      rcases hbyte with rfl | rfl | rfl <;> rw [UInt8.toNat_ofNat'] <;> omega
    · simp only [List.mem_cons, List.not_mem_nil, or_false] at hbyte
      rcases hbyte with rfl | rfl | rfl | rfl <;> rw [UInt8.toNat_ofNat'] <;> omega

theorem toList_loop (bytes : ByteArray) (i : Nat) (done : List UInt8) :
    ByteArray.toList.loop bytes i done = done.reverse ++ bytes.data.toList.drop i := by
  induction hleft : bytes.size - i generalizing i done with
  | zero =>
    have hend : ¬i < bytes.size := by omega
    rw [ByteArray.toList.loop, if_neg hend, List.drop_of_length_le, List.append_nil]
    exact Nat.not_lt.1 hend
  | succ n ih =>
    have hmore : i < bytes.size := by omega
    have hlength : i < bytes.data.toList.length := hmore
    have hget : bytes.get! i = bytes.data.toList[i] := getElem!_pos bytes.data i hmore
    rw [ByteArray.toList.loop, if_pos hmore, ih (i + 1) _ (by omega), hget,
      List.drop_eq_getElem_cons hlength, List.reverse_cons, List.append_assoc]
    rfl

theorem toList_bytes (bytes : ByteArray) : bytes.toList = bytes.data.toList := by
  rw [ByteArray.toList, toList_loop]
  rfl

theorem toByteArray_eq (bytes : List UInt8) : bytes.toByteArray = ⟨bytes.toArray⟩ := by
  apply ByteArray.ext
  apply Array.toList_inj.1
  rw [List.toList_data_toByteArray]

/-- The bytes of a text are those of its characters. -/
theorem toList_toByteArray (s : String) : s.toByteArray.toList = utf8 s.toList := by
  rw [toList_bytes, ← String.utf8Encode_toList, List.utf8Encode, List.toList_data_toByteArray]
  rfl

/-- Bytes are read as the text whose bytes they are. -/
theorem toByteArray_of_fromUTF8? {bytes : ByteArray} {s : String}
    (h : String.fromUTF8? bytes = some s) : s.toByteArray = bytes := by
  unfold String.fromUTF8? at h
  split at h
  · rw [← Option.some.inj h]
    rfl
  · cases h

theorem fromUTF8?_toByteArray (s : String) : String.fromUTF8? s.toByteArray = some s := by
  unfold String.fromUTF8?
  rw [dif_pos s.isValidUTF8]
  rfl

end Text

namespace RequestFile

open Text

theorem textOfBytes_utf8 (cs : List Char) : textOfBytes (utf8 cs) = some (String.ofList cs) := by
  have hbytes : (⟨(utf8 cs).toArray⟩ : ByteArray) = (String.ofList cs).toByteArray := by
    rw [String.toByteArray_ofList, List.utf8Encode, toByteArray_eq]
    rfl
  rw [textOfBytes, hbytes, fromUTF8?_toByteArray]

/-! ### Rows -/

/-- The bytes of a character which is not of ASCII are read as they stand. -/
theorem markOf_of_mem_utf8EncodeChar {c : Char} (h : 127 < c.toNat) {byte : UInt8}
    (hbyte : byte ∈ String.utf8EncodeChar c) : markOf byte.toNat = .plain := by
  have hle := le_of_mem_utf8EncodeChar h hbyte
  unfold markOf
  rw [if_neg (by omega), if_neg (by omega), if_neg (by omega)]

theorem markOf_of_lt {code : Nat} (h : 127 < code) : markOf code = .plain := by
  unfold markOf
  rw [if_neg (by omega), if_neg (by omega), if_neg (by omega)]

/-- **Reading bytes is reading characters.** -/
theorem readFrom_utf8 (place : Place) (field : List Char) (fields : List (List Char))
    (cs : List Char) :
    readFrom UInt8.toNat place (utf8 field.reverse).reverse (fields.map utf8) (utf8 cs) =
      (readFrom Char.toNat place field fields cs).map fun row => row.map utf8 := by
  induction cs generalizing place field fields with
  | nil =>
    rw [show utf8 [] = [] from rfl, readFrom, readFrom]
    split
    · rfl
    · simp [List.map_reverse]
  | cons c cs ih =>
    rw [utf8_cons]
    by_cases hc : c.toNat ≤ 127
    · -- One byte with the code of the character: the same action.
      have hcode : (UInt8.ofNat c.toNat).toNat = c.toNat := by
        rw [UInt8.toNat_ofNat']
        omega
      have hkept : utf8 (c :: field).reverse = utf8 field.reverse ++ [UInt8.ofNat c.toNat] := by
        rw [List.reverse_cons, utf8_append, utf8_cons, utf8EncodeChar_of_le hc]
        rfl
      rw [utf8EncodeChar_of_le hc, List.singleton_append, readFrom, readFrom, hcode]
      cases haction : action place (markOf c.toNat) with
      | skip next => exact ih next field fields
      | keep next =>
        have hnext := ih next (c :: field) fields
        rw [hkept, List.reverse_append] at hnext
        exact hnext
      | endField =>
        simp only [List.reverse_reverse]
        exact ih .fieldStart [] (field.reverse :: fields)
      | endRow =>
        simp only [List.map_cons, List.map_reverse, List.reverse_reverse]
        exact congrArg _ (ih .lineStart [] [])
    · have hplain : ∀ byte ∈ String.utf8EncodeChar c, markOf byte.toNat = .plain :=
        fun byte hbyte => markOf_of_mem_utf8EncodeChar (Nat.not_le.1 hc) hbyte
      have hnext := ih (if place = .quoted then .quoted else .bare) (c :: field) fields
      rw [readFrom_plain hplain String.utf8EncodeChar_ne_nil, readFrom,
        markOf_of_lt (Nat.not_le.1 hc), action_plain]
      simp only
      rw [← hnext, List.reverse_cons, utf8_append, utf8_cons, List.reverse_append]
      simp [utf8]

theorem readRows_utf8 (cs : List Char) :
    readRows UInt8.toNat (utf8 cs) =
      (readRows Char.toNat cs).map fun row => row.map utf8 := readFrom_utf8 .lineStart [] [] cs

theorem rowOfBytes_utf8 (fields : List (List Char)) :
    rowOfBytes (fields.map utf8) = rowOfChars fields := by
  have hfield : ∀ field : List Char, (textOfBytes (utf8 field)).map trim =
      some (String.ofList (trimChars field)) := by
    intro field
    rw [textOfBytes_utf8, Option.map_some, trim, String.toList_ofList]
  unfold rowOfBytes rowOfChars
  induction fields with
  | nil => rfl
  | cons field rest ih =>
    rw [List.map_cons, List.mapM_cons, hfield, ih]
    rfl

/-! ### The mark at the start -/

/-- The mark of the byte order at the start of a file, if there is one, and what is behind it. -/
def splitMark : List UInt8 → List UInt8 × List UInt8
  | 0xEF :: 0xBB :: 0xBF :: rest => ([0xEF, 0xBB, 0xBF], rest)
  | bytes => ([], bytes)

theorem eq_of_take {bytes : List UInt8} (h : bytes.take 3 = [0xEF, 0xBB, 0xBF]) :
    bytes = 0xEF :: 0xBB :: 0xBF :: bytes.drop 3 :=
  (List.take_append_drop 3 bytes).symm.trans (by rw [h]; rfl)

/-- Without a mark, the file does not begin like one. -/
theorem splitMark_of_ne {bytes : List UInt8} (h : bytes.take 3 ≠ [0xEF, 0xBB, 0xBF]) :
    splitMark bytes = ([], bytes) := by
  unfold splitMark
  split
  · exact absurd rfl h
  · rfl

/-- The first character is told by the first bytes. -/
theorem head_of_take_utf8 {cs : List Char} (h : (utf8 cs).take 3 = [0xEF, 0xBB, 0xBF]) :
    ∃ rest, cs = '\uFEFF' :: rest := by
  cases cs with
  | nil => cases h
  | cons c cs =>
    have hmark : utf8 (c :: cs) =
        String.utf8EncodeChar '\uFEFF' ++ (utf8 (c :: cs)).drop 3 := eq_of_take h
    have hdecode : ∀ (d : Char) (bytes : List UInt8),
        (String.utf8EncodeChar d ++ bytes).toByteArray.utf8DecodeChar? 0 = some d := by
      intro d bytes
      rw [List.toByteArray_append]
      exact ByteArray.utf8DecodeChar?_utf8EncodeChar_append
    have hfirst := hdecode c (utf8 cs)
    rw [← utf8_cons, hmark, hdecode] at hfirst
    exact ⟨cs, by rw [Option.some.inj hfirst]⟩

/-- **Every file is read byte by byte.** -/
theorem ofBytes_eq (bytes : ByteArray) :
    ofBytes bytes =
      records ((readRows UInt8.toNat (splitMark bytes.toList).2).map rowOfBytes) := by
  unfold ofBytes
  split
  · rename_i s hs
    have hrows : ∀ cs : List Char, (readRows UInt8.toNat (utf8 cs)).map rowOfBytes =
        (readRows Char.toNat cs).map rowOfChars := by
      intro cs
      rw [readRows_utf8, List.map_map]
      exact List.map_congr_left fun row _ => rowOfBytes_utf8 row
    rw [← toByteArray_of_fromUTF8? hs, toList_toByteArray, ofText]
    split
    · rename_i rest hmark
      have hsplit : splitMark (utf8 ('\uFEFF' :: rest)) = ([0xEF, 0xBB, 0xBF], utf8 rest) := rfl
      rw [hmark, hsplit, hrows]
    · rename_i hnone
      have hsplit : splitMark (utf8 s.toList) = ([], utf8 s.toList) := by
        refine splitMark_of_ne fun hmark => ?_
        obtain ⟨rest, hrest⟩ := head_of_take_utf8 hmark
        exact hnone rest hrest
      rw [hsplit, hrows]
  · split
    · rename_i rest hmark
      rw [hmark]
      rfl
    · rename_i hnone
      rw [splitMark_of_ne fun hmark => hnone _ (eq_of_take hmark)]

/-- A file that is a text is read as that text. -/
theorem ofBytes_toByteArray (s : String) : ofBytes s.toByteArray = ofText s := by
  rw [ofBytes, fromUTF8?_toByteArray]

/-! ### Deleting rows -/

/-- The file without the rows at some lines; the header is at line 0. -/
def eraseLines (lines : List Nat) (bytes : ByteArray) : ByteArray :=
  let (mark, text) := splitMark bytes.toList
  ⟨(mark ++ eraseRows UInt8.toNat lines text).toArray⟩

/-- Behind the header rows can be deleted without making up a mark at the start. -/
theorem splitMark_eraseRows {lines : List Nat} (hlines : 0 ∉ lines) {text : List UInt8}
    (h : text.take 3 ≠ [0xEF, 0xBB, 0xBF]) :
    splitMark (eraseRows UInt8.toNat lines text) = ([], eraseRows UInt8.toNat lines text) := by
  refine splitMark_of_ne fun hmark => h ?_
  have htext := flatten_pieces UInt8.toNat text
  unfold eraseRows at hmark
  cases hpieces : pieces UInt8.toNat text with
  | nil =>
    rw [hpieces] at hmark
    cases hmark
  | cons piece more =>
    rw [hpieces, without, if_neg hlines, List.flatten_cons] at hmark
    rw [hpieces, List.flatten_cons] at htext
    cases more with
    | nil => rwa [← htext]
    | cons next more =>
      -- The first piece ends with a line break, so the mark does not reach beyond it.
      obtain ⟨before, c, rfl, hend⟩ := lineEnd_of_piecesFrom UInt8.toNat hpieces
      have hlong : 3 ≤ (before ++ [c]).length := by
        rcases before with _ | ⟨b, _ | ⟨b', before⟩⟩
        · obtain rfl : c = 0xEF := by simpa using (List.cons.inj hmark).1
          cases hend
        · obtain rfl : c = 0xBB := by simpa using (List.cons.inj (List.cons.inj hmark).2).1
          cases hend
        · simp
      rw [← htext, List.take_append_of_le_length hlong]
      rwa [List.take_append_of_le_length hlong] at hmark

/-- The records behind the header, without some rows. -/
theorem records_without {lines : List Nat} (hlines : 0 ∉ lines) (rows : List Row) :
    records (without lines 0 rows) = without lines 1 (records rows) := by
  cases rows with
  | nil => rfl
  | cons header rows =>
    rw [without, if_neg hlines, records, records, without_map]

/-- **Deleting rows of a file deletes them from what is read.** -/
theorem ofBytes_eraseLines {lines : List Nat} (hlines : 0 ∉ lines) (bytes : ByteArray) :
    ofBytes (eraseLines lines bytes) = without lines 1 (ofBytes bytes) := by
  have hsplit : (splitMark (eraseLines lines bytes).toList).2 =
      eraseRows UInt8.toNat lines (splitMark bytes.toList).2 := by
    unfold eraseLines
    rw [toList_bytes]
    by_cases hmark : bytes.toList.take 3 = [0xEF, 0xBB, 0xBF]
    · rw [eq_of_take hmark]
      rfl
    · rw [splitMark_of_ne hmark]
      exact congrArg Prod.snd (splitMark_eraseRows hlines hmark)
  rw [ofBytes_eq, ofBytes_eq, hsplit, readRows_eraseRows, ← without_map, records_without hlines]

end RequestFile

end OrderDesk
