import OrderDesk.Number.Decimal.Text
import OrderDesk.Proofs.Text.Digits

/-!
# Decimal numbers are read from the text that they are written to

A decimal number is written with all its places, as many digits as it has places at least, and one
more before the point. So its text is read digit by digit without ever running out of room, and
what is read has the digits and the places of the number (`ofText?_text`). Only the minus of a zero
is lost (`plain`), which no comparison notices (`same_plain`).
-/

namespace OrderDesk.Decimal

open OrderDesk.Text

/-- The number without the minus of a zero. -/
def plain (d : Decimal) : Decimal := { d with negative := d.negative && d.coefficient != 0 }

/-- The numbers have the same digits and the same places, and no other value. -/
structure Same (a b : Decimal) : Prop where
  coefficient : a.coefficient = b.coefficient
  scale : a.scale = b.scale
  le : a ≤ b
  ge : b ≤ a

theorem mantissa_plain (d : Decimal) : d.plain.mantissa = d.mantissa := by
  by_cases hzero : d.coefficient = 0
  · simp [mantissa, plain, hzero]
  · simp [mantissa, plain, hzero]

theorem same_plain (d : Decimal) : d.plain.Same d where
  coefficient := rfl
  scale := rfl
  le := by
    show d.plain.mantissa * Int.pow 10 d.scale ≤ d.mantissa * Int.pow 10 d.plain.scale
    rw [mantissa_plain]
    exact Int.le_refl _
  ge := by
    show d.mantissa * Int.pow 10 d.plain.scale ≤ d.plain.mantissa * Int.pow 10 d.scale
    rw [mantissa_plain]
    exact Int.le_refl _

/-- A number above zero has no minus to lose. -/
theorem plain_of_pos {d : Decimal} (h : ¬d ≤ 0) : d.plain = d := by
  have hcoefficient : d.coefficient ≠ 0 := by
    intro hzero
    refine h ?_
    show d.mantissa * Int.pow 10 0 ≤ 0 * Int.pow 10 d.scale
    simp [mantissa, hzero]
  have hsign : (d.coefficient != 0) = true := bne_iff_ne.2 hcoefficient
  rw [plain, hsign, Bool.and_true]

theorem signed_eq (d : Decimal) : signed d.negative d.coefficient d.scale = some d.plain :=
  dif_pos ⟨d.coefficient_lt, d.scale_le⟩

/-! ### Digits -/

variable {negative point any : Bool} {n scale : Nat} {cs rest : List Char}

/-- Digits before the point are gathered. -/
theorem readDigits_whole (hdigits : ∀ c ∈ cs, c.isDigit = true) (hcs : cs ≠ [])
    (hfits : Nat.ofDigitChars 10 cs n < limit) (rest : List Char) :
    readDigits negative n 0 false any (cs ++ rest) =
      readDigits negative (Nat.ofDigitChars 10 cs n) 0 false true rest := by
  induction cs generalizing n any with
  | nil => exact absurd rfl hcs
  | cons c cs ih =>
    obtain ⟨hc, hdigits⟩ := List.forall_mem_cons.1 hdigits
    rw [ofDigitChars_ten_cons] at hfits ⊢
    have hmore : n * 10 + (c.toNat - 48) < limit := Nat.lt_of_le_of_lt (le_ofDigitChars _ _) hfits
    have hstep : readDigits negative n 0 false any (c :: cs ++ rest) =
        readDigits negative (n * 10 + (c.toNat - 48)) 0 false true (cs ++ rest) := by
      simp [readDigits, hc, hmore]
    rw [hstep]
    by_cases hlast : cs = []
    · subst hlast
      rfl
    · exact ih hdigits hlast hfits

/-- Digits behind the point are gathered as long as there are places. -/
theorem readDigits_places (hdigits : ∀ c ∈ cs, c.isDigit = true)
    (hfits : Nat.ofDigitChars 10 cs n < limit) (hplaces : scale + cs.length ≤ maxScale) :
    readDigits negative n scale true true cs =
      signed negative (Nat.ofDigitChars 10 cs n) (scale + cs.length) := by
  induction cs generalizing n scale with
  | nil => rfl
  | cons c cs ih =>
    obtain ⟨hc, hdigits⟩ := List.forall_mem_cons.1 hdigits
    rw [ofDigitChars_ten_cons] at hfits ⊢
    have hmore : n * 10 + (c.toNat - 48) < limit := Nat.lt_of_le_of_lt (le_ofDigitChars _ _) hfits
    rw [List.length_cons] at hplaces ⊢
    have hroom : ¬maxScale ≤ scale := by omega
    have hstep : readDigits negative n scale true true (c :: cs) =
        readDigits negative (n * 10 + (c.toNat - 48)) (scale + 1) true true cs := by
      simp [readDigits, hc, hmore, hroom]
    rw [hstep, ih hdigits hfits (by omega), Nat.add_assoc, Nat.add_comm 1]

/-! ### The text of a number -/

/-- The digits before the point and those behind it, of which there are as many as places. -/
theorem exists_digits (d : Decimal) :
    ∃ whole places, pointedDigits d.coefficient d.scale =
        (if d.scale = 0 then whole else whole ++ '.' :: places) ∧
      whole ≠ [] ∧ places.length = d.scale ∧ (∀ c ∈ whole ++ places, c.isDigit = true) ∧
      natOfDigits (whole ++ places) = d.coefficient := by
  have hdigits : ∀ c ∈ digitsPadded (d.scale + 1) d.coefficient, c.isDigit = true :=
    fun c => isDigit_of_mem_digitsPadded
  have hlength : d.scale < (digitsPadded (d.scale + 1) d.coefficient).length := by
    rw [digitsPadded, List.length_append, List.length_replicate]
    omega
  refine ⟨(digitsPadded (d.scale + 1) d.coefficient).take
      ((digitsPadded (d.scale + 1) d.coefficient).length - d.scale),
    (digitsPadded (d.scale + 1) d.coefficient).drop
      ((digitsPadded (d.scale + 1) d.coefficient).length - d.scale), ?_, ?_, ?_, ?_, ?_⟩
  · rw [pointedDigits]
    split
    · rename_i hscale
      rw [hscale, Nat.sub_zero, List.take_length]
    · rfl
  · rw [Ne, List.take_eq_nil_iff]
    rintro (hnone | hnone)
    · omega
    · rw [hnone] at hlength
      cases hlength
  · rw [List.length_drop]
    omega
  · rwa [List.take_append_drop]
  · rw [List.take_append_drop, natOfDigits_digitsPadded]

theorem readDigits_pointedDigits (d : Decimal) (negative : Bool) :
    readDigits negative 0 0 false false (pointedDigits d.coefficient d.scale) =
      signed negative d.coefficient d.scale := by
  obtain ⟨whole, places, hchars, hwhole, hlength, hdigits, hvalue⟩ := exists_digits d
  rw [natOfDigits, Nat.ofDigitChars_append] at hvalue
  have hfits : Nat.ofDigitChars 10 places (Nat.ofDigitChars 10 whole 0) < limit := by
    rw [hvalue]
    exact d.coefficient_lt
  have hbefore : Nat.ofDigitChars 10 whole 0 < limit :=
    Nat.lt_of_le_of_lt (le_ofDigitChars _ _) hfits
  obtain ⟨hwholeDigits, hplaceDigits⟩ := List.forall_mem_append.1 hdigits
  rw [hchars]
  split
  · rename_i hscale
    obtain rfl : places = [] := List.length_eq_zero_iff.1 (hlength.trans hscale)
    have hread : readDigits negative 0 0 false false (whole ++ []) = _ :=
      readDigits_whole hwholeDigits hwhole hbefore []
    rw [List.append_nil] at hread
    rw [hread, hscale, ← hvalue]
    rfl
  · have hpoint : readDigits negative (Nat.ofDigitChars 10 whole 0) 0 false true ('.' :: places) =
        readDigits negative (Nat.ofDigitChars 10 whole 0) 0 true true places := by
      simp [readDigits]
    have hroom : 0 + places.length ≤ maxScale := by
      rw [hlength, Nat.zero_add]
      exact d.scale_le
    rw [readDigits_whole hwholeDigits hwhole hbefore, hpoint,
      readDigits_places hplaceDigits hfits hroom, hvalue, Nat.zero_add, hlength]

/-- **A number is read from its text**, but for the minus of a zero. -/
theorem ofText?_text (d : Decimal) : ofText? d.text = some d.plain := by
  have hread : ofPlain? d.chars = some d.plain := by
    rw [← signed_eq d, ← readDigits_pointedDigits d, chars]
    cases d.negative with
    | true => rfl
    | false =>
      obtain ⟨whole, places, hchars, hwhole, -, hdigits, -⟩ := exists_digits d
      obtain ⟨c, more, rfl⟩ := List.exists_cons_of_ne_nil hwhole
      have hc : c.isDigit = true := hdigits c (by simp)
      have hbegin : ∃ others, pointedDigits d.coefficient d.scale = c :: others := by
        rw [hchars]
        split
        · exact ⟨_, rfl⟩
        · exact ⟨_, rfl⟩
      obtain ⟨others, hothers⟩ := hbegin
      rw [hothers]
      simp only [Bool.false_eq_true, if_false]
      unfold ofPlain?
      split
      · rename_i hsign
        rw [(List.cons.inj hsign).1] at hc
        cases hc
      · rename_i hsign
        rw [(List.cons.inj hsign).1] at hc
        cases hc
      · rfl
  rw [ofText?, text, String.toList_ofList, hread, Option.some_or]

end OrderDesk.Decimal
