/-!
# Decimal digits

Whole numbers written in decimal digits, and read from them.
-/

namespace OrderDesk.Text

/-- The number that a list of decimal digits writes. -/
def natOfDigits (cs : List Char) : Nat := Nat.ofDigitChars 10 cs 0

/-- The digits of a number, without leading zeros. -/
def digitsOfNat (n : Nat) : List Char := Nat.toDigits 10 n

/-- The digits of a number, with leading zeros up to a width. -/
def digitsPadded (width n : Nat) : List Char :=
  List.replicate (width - (digitsOfNat n).length) '0' ++ digitsOfNat n

/-- The text of a natural number. -/
def natText (n : Nat) : String := String.ofList (digitsOfNat n)

/-- The digits of an integer, a minus in front of a negative one. -/
def charsOfInt : Int → List Char
  | .ofNat n => digitsOfNat n
  | .negSucc n => '-' :: digitsOfNat (n + 1)

/-- The text of an integer. -/
def intText (n : Int) : String := String.ofList (charsOfInt n)

/-- The list is not empty and holds digits only. -/
def isDigits (cs : List Char) : Bool := !cs.isEmpty && cs.all Char.isDigit

theorem natOfDigits_digitsOfNat (n : Nat) : natOfDigits (digitsOfNat n) = n :=
  Nat.ofDigitChars_toDigits (by decide) (by decide)

theorem isDigits_digitsOfNat (n : Nat) : isDigits (digitsOfNat n) = true := by
  have h : ∀ c ∈ digitsOfNat n, c.isDigit = true := fun c hc =>
    Nat.isDigit_of_mem_toDigits (by decide) (by decide) hc
  have hne : digitsOfNat n ≠ [] := Nat.toDigits_ne_nil
  simp only [isDigits, Bool.and_eq_true, Bool.not_eq_true', List.isEmpty_eq_false_iff,
    List.all_eq_true]
  exact ⟨hne, h⟩

end OrderDesk.Text
