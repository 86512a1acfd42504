import OrderDesk.Text.Digits
import OrderDesk.Text.Integer

/-!
# Numbers are read from the digits that write them

Digits with zeros in front of them write the same number, and a number has no more digits than the
width that it is padded to. An integer that is written into a field of a row is read from it again
(`fieldNat?_digitsOfNat`, `fieldInt?_charsOfInt`), because digits begin neither with a sign nor with
the mark of a hexadecimal number.
-/

namespace OrderDesk.Text

/-! ### Digits -/

theorem isDigits_iff {cs : List Char} :
    isDigits cs = true ↔ cs ≠ [] ∧ ∀ c ∈ cs, c.isDigit = true := by
  simp [isDigits]

theorem isDigit_of_mem_digitsOfNat {n : Nat} {c : Char} (h : c ∈ digitsOfNat n) :
    c.isDigit = true := Nat.isDigit_of_mem_toDigits (by decide) (by decide) h

theorem isDigit_of_mem_digitsPadded {width n : Nat} {c : Char} (h : c ∈ digitsPadded width n) :
    c.isDigit = true := by
  rcases List.mem_append.1 h with hzero | hdigit
  · obtain rfl := List.eq_of_mem_replicate hzero
    rfl
  · exact isDigit_of_mem_digitsOfNat hdigit

theorem digitsOfNat_ne_nil (n : Nat) : digitsOfNat n ≠ [] := Nat.toDigits_ne_nil

theorem isDigits_digitsPadded (width n : Nat) : isDigits (digitsPadded width n) = true := by
  refine isDigits_iff.2 ⟨?_, fun c => isDigit_of_mem_digitsPadded⟩
  simp [digitsPadded, digitsOfNat_ne_nil]

/-- Zeros in front of digits do not count. -/
theorem natOfDigits_digitsPadded (width n : Nat) : natOfDigits (digitsPadded width n) = n := by
  rw [digitsPadded, natOfDigits, Nat.ofDigitChars_append, Nat.ofDigitChars_replicate_zero,
    Nat.mul_zero]
  exact natOfDigits_digitsOfNat n

/-- A number below a power of ten fills the width that it is padded to. -/
theorem length_digitsPadded {width n : Nat} (hwidth : 0 < width) (h : n < Nat.pow 10 width) :
    (digitsPadded width n).length = width := by
  have hle : (digitsOfNat n).length ≤ width := (Nat.length_toDigits_le_iff (by decide) hwidth).2 h
  rw [digitsPadded, List.length_append, List.length_replicate]
  omega

/-- A digit more makes ten times the number and the digit. -/
theorem ofDigitChars_ten_cons (c : Char) (cs : List Char) (n : Nat) :
    Nat.ofDigitChars 10 (c :: cs) n = Nat.ofDigitChars 10 cs (n * 10 + (c.toNat - 48)) := by
  rw [Nat.ofDigitChars_cons, Nat.mul_comm]
  rfl

/-- More digits never write less. -/
theorem le_ofDigitChars (cs : List Char) (n : Nat) : n ≤ Nat.ofDigitChars 10 cs n := by
  induction cs generalizing n with
  | nil => exact Nat.le_refl n
  | cons c cs ih =>
    rw [ofDigitChars_ten_cons]
    have hmore := ih (n * 10 + (c.toNat - 48))
    omega

theorem toNat_of_isDigit {c : Char} (h : c.isDigit = true) : 48 ≤ c.toNat ∧ c.toNat ≤ 57 := by
  have hval : c.toNat = c.val.toNat := rfl
  simp only [Char.isDigit, Bool.and_eq_true, decide_eq_true_eq, UInt32.le_iff_toNat_le,
    ge_iff_le] at h
  simp at h
  omega

/-- Digits write a number below the power of ten with as many zeros. -/
theorem natOfDigits_lt {cs : List Char} (h : ∀ c ∈ cs, c.isDigit = true) :
    natOfDigits cs < Nat.pow 10 cs.length := by
  have hmore : ∀ n, Nat.ofDigitChars 10 cs n < (n + 1) * 10 ^ cs.length := by
    induction cs with
    | nil =>
      intro n
      simp
    | cons c cs ih =>
      intro n
      obtain ⟨hc, hcs⟩ := List.forall_mem_cons.1 h
      have hdigit := toNat_of_isDigit hc
      have hstep : n * 10 + (c.toNat - 48) + 1 ≤ (n + 1) * 10 := by omega
      rw [ofDigitChars_ten_cons, List.length_cons, Nat.pow_succ', ← Nat.mul_assoc]
      exact Nat.lt_of_lt_of_le (ih hcs _) (Nat.mul_le_mul_right _ hstep)
  have hzero := hmore 0
  rw [Nat.zero_add, Nat.one_mul] at hzero
  exact hzero

/-- A number that is not zero is written without a zero in front. -/
theorem head?_digitsOfNat {n : Nat} (h : n ≠ 0) : (digitsOfNat n).head? ≠ some '0' := by
  induction n using Nat.strongRecOn with
  | ind n ih =>
    rw [digitsOfNat, Nat.toDigits_eq_if (by decide)]
    split
    · rename_i hone
      have hdigit : ∀ d < 10, d ≠ 0 → [Nat.digitChar d].head? ≠ some '0' := by decide
      exact hdigit n hone h
    · have hbefore := ih (n / 10) (by omega) (by omega)
      obtain ⟨first, rest, hdigits⟩ := List.exists_cons_of_ne_nil (digitsOfNat_ne_nil (n / 10))
      rw [hdigits] at hbefore
      rw [digitsOfNat] at hdigits
      rw [hdigits]
      exact hbefore

/-! ### Integers in a row -/

theorem decimalNat?_of_isDigits {cs : List Char} (h : isDigits cs = true) :
    decimalNat? cs = some (natOfDigits cs) := if_pos h

/-- Digits alone are read as the number that they write. -/
theorem fieldNat?_of_isDigits {cs : List Char} (h : isDigits cs = true) :
    fieldNat? cs = some (natOfDigits cs) := by
  obtain ⟨-, hdigits⟩ := isDigits_iff.1 h
  unfold fieldNat?
  split
  · simp at hdigits
  · dsimp only
    split
    · simp at hdigits
    · exact decimalNat?_of_isDigits h

theorem fieldInt?_of_isDigits {cs : List Char} (h : isDigits cs = true) :
    fieldInt? cs = some (natOfDigits cs : Int) := by
  obtain ⟨-, hdigits⟩ := isDigits_iff.1 h
  unfold fieldInt?
  split
  · simp at hdigits
  · dsimp only
    split
    · simp at hdigits
    · simp at hdigits
    · rw [decimalNat?_of_isDigits h]
      rfl

/-- **A number that is written into a field is read from it.** -/
theorem fieldNat?_digitsOfNat (n : Nat) : fieldNat? (digitsOfNat n) = some n := by
  rw [fieldNat?_of_isDigits (isDigits_digitsOfNat n), natOfDigits_digitsOfNat]

/-- **An integer that is written into a field is read from it.** -/
theorem fieldInt?_charsOfInt (n : Int) : fieldInt? (charsOfInt n) = some n := by
  cases n with
  | ofNat n =>
    rw [charsOfInt, fieldInt?_of_isDigits (isDigits_digitsOfNat n), natOfDigits_digitsOfNat]
    rfl
  | negSucc n =>
    have hread : fieldInt? (charsOfInt (.negSucc n)) =
        (decimalNat? (digitsOfNat (n + 1))).map fun n => -(n : Int) := rfl
    rw [hread, decimalNat?_of_isDigits (isDigits_digitsOfNat _), natOfDigits_digitsOfNat]
    rfl

/-! ### Texts of numbers -/

theorem natText_ne_empty (n : Nat) : natText n ≠ "" := by
  intro hempty
  have hchars := congrArg String.toList hempty
  rw [natText, String.toList_ofList] at hchars
  exact digitsOfNat_ne_nil n hchars

theorem intText_ne_empty (n : Int) : intText n ≠ "" := by
  intro hempty
  have hchars := congrArg String.toList hempty
  rw [intText, String.toList_ofList] at hchars
  cases n with
  | ofNat n => exact digitsOfNat_ne_nil n hchars
  | negSucc n => cases hchars

end OrderDesk.Text
