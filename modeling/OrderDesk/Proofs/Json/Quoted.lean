import OrderDesk.Json.Printer
import OrderDesk.Json.Token

/-!
# Quoted texts are read as they were written

A character is written in one of three ways (`Json.Written`): with a short escape, as a unit of
four hexadecimal digits, or as it stands. In each of them the scanner finds no end of the text in
what was written, and the reader finds the character.

* `Json.unescape?_escape`: what stands between the quotes is read back.
* `Json.Token.scanFrom_quoted`: a quoted text is one token, whatever comes after it.
-/

namespace OrderDesk.Json

/-- The ways in which a character is written between quotes. -/
inductive Written (c : Char) : List Char → Prop
  | short (e : Char) (hmeans : simpleEscape? e = some c) (hunit : e ≠ 'u') : Written c ['\\', e]
  | unit (hcontrol : c.toNat < 32) :
    Written c ['\\', 'u', '0', '0', hexDigit (c.toNat / 16), hexDigit (c.toNat % 16)]
  | plain (hquote : c ≠ '"') (hslash : c ≠ '\\') (hprint : ¬c.toNat < 32) : Written c [c]

theorem escape_cons (c : Char) (cs : List Char) : escape (c :: cs) = escapeChar c ++ escape cs :=
  List.flatMap_cons

theorem written_escapeChar (c : Char) : Written c (escapeChar c) := by
  unfold escapeChar
  split
  · rename_i h; subst h; exact .short '"' rfl (by decide)
  rename_i hquote
  split
  · rename_i h; subst h; exact .short '\\' rfl (by decide)
  rename_i hslash
  split
  · rename_i h; subst h; exact .short 'n' rfl (by decide)
  split
  · rename_i h; subst h; exact .short 'r' rfl (by decide)
  split
  · rename_i h; subst h; exact .short 't' rfl (by decide)
  split
  · rename_i h; subst h; exact .short 'b' rfl (by decide)
  split
  · rename_i h; subst h; exact .short 'f' rfl (by decide)
  split
  · rename_i hcontrol; exact .unit hcontrol
  · rename_i hprint; exact .plain hquote hslash hprint

/-! ### Hexadecimal digits -/

theorem hexValue?_hexDigit : ∀ n < 16, hexValue? (hexDigit n) = some n := by decide

/-- A hexadecimal digit is neither a quote nor a backslash. -/
theorem hexDigit_ne : ∀ n < 16, hexDigit n ≠ '"' ∧ hexDigit n ≠ '\\' := by decide

/-- The unit that writes a control character stands for that character. -/
theorem pieceOfUnit_control {c : Char} (h : c.toNat < 32) : pieceOfUnit c.toNat = .char c := by
  unfold pieceOfUnit
  rw [if_neg (by omega), Char.ofNat_toNat]

theorem hexUnit?_control {c : Char} (h : c.toNat < 32) :
    hexUnit? '0' '0' (hexDigit (c.toNat / 16)) (hexDigit (c.toNat % 16)) = some c.toNat := by
  have hhigh := hexValue?_hexDigit (c.toNat / 16) (by omega)
  have hlow := hexValue?_hexDigit (c.toNat % 16) (by omega)
  have hzero : hexValue? '0' = some 0 := by decide
  have hsum : 0 * 4096 + 0 * 256 + c.toNat / 16 * 16 + c.toNat % 16 = c.toNat := by omega
  simp only [hexUnit?, hhigh, hlow, hzero, Option.bind_eq_bind, Option.bind_some, Option.pure_def,
    hsum]

/-! ### Reading what was written -/

/-- A character that was written is read, and reading goes on behind it. -/
theorem piecesOnto?_of_written {c : Char} {cs : List Char} (h : Written c cs) (done : List Piece)
    (rest : List Char) : piecesOnto? done (cs ++ rest) = piecesOnto? (.char c :: done) rest := by
  cases h with
  | short e hmeans hunit =>
    simp [piecesOnto?, hunit, hmeans]
  | unit hcontrol =>
    simp only [List.cons_append, List.nil_append, piecesOnto?, hexUnit?_control hcontrol,
      pieceOfUnit_control hcontrol]
  | plain hquote hslash hprint =>
    simp [piecesOnto?, hslash, hprint]

theorem piecesOnto?_escape (done : List Piece) (cs : List Char) :
    piecesOnto? done (escape cs) = some (done.reverse ++ cs.map .char) := by
  induction cs generalizing done with
  | nil => simp [escape, piecesOnto?]
  | cons c rest ih =>
    rw [escape_cons, piecesOnto?_of_written (written_escapeChar c), ih]
    simp

theorem joinOnto?_chars (done cs : List Char) :
    joinOnto? done (cs.map .char) = some (done.reverse ++ cs) := by
  induction cs generalizing done with
  | nil => simp [joinOnto?]
  | cons c rest ih => simpa [joinOnto?] using ih (c :: done)

/-- **What stands between quotes is read as it was written.** -/
theorem unescape?_escape (cs : List Char) : unescape? (escape cs) = some (some cs) := by
  rw [unescape?, piecesOnto?_escape]
  exact congrArg some (joinOnto?_chars [] cs)

/-! ### Scanning what was written -/

namespace Token

/-- No character that is written ends the text in which it stands. -/
theorem scanFrom_of_written {c : Char} {cs : List Char} (h : Written c cs) (read : List Char)
    (done : List Token) (rest : List Char) :
    scanFrom (.quoted read false) done (cs ++ rest) =
      scanFrom (.quoted (cs.reverse ++ read) false) done rest := by
  cases h with
  | short e hmeans hunit => simp [scanFrom, next]
  | unit hcontrol =>
    obtain ⟨hquote, hslash⟩ := hexDigit_ne (c.toNat / 16) (by omega)
    obtain ⟨hquote', hslash'⟩ := hexDigit_ne (c.toNat % 16) (by omega)
    simp [scanFrom, next, hquote, beq_false_of_ne hslash, hquote', beq_false_of_ne hslash']
  | plain hquote hslash hprint => simp [scanFrom, next, hquote, beq_false_of_ne hslash]

theorem scanFrom_escape (read : List Char) (done : List Token) (cs rest : List Char) :
    scanFrom (.quoted read false) done (escape cs ++ rest) =
      scanFrom (.quoted ((escape cs).reverse ++ read) false) done rest := by
  induction cs generalizing read with
  | nil => rfl
  | cons c tail ih =>
    rw [escape_cons, List.append_assoc, scanFrom_of_written (written_escapeChar c), ih,
      List.reverse_append, List.append_assoc]

/-- **A quoted text is one token**, whatever comes after it. -/
theorem scanFrom_quoted (s : String) (done : List Token) (rest : List Char) :
    scanFrom .nothing done (quotedChars s ++ rest) =
      scanFrom .nothing (.text (some s) :: done) rest := by
  have hbegin : scanFrom .nothing done (quotedChars s ++ rest) =
      scanFrom (.quoted [] false) done (escape s.toList ++ '"' :: rest) := by
    simp [quotedChars, scanFrom, next, start]
  have hread : ofQuoted? (escape s.toList) = some (.text (some s)) := by
    simp [ofQuoted?, unescape?_escape]
  rw [hbegin, scanFrom_escape]
  simp [scanFrom, next, hread]

end Token

end OrderDesk.Json
