import OrderDesk.Text.Digits

/-!
# Numerals

A numeral is a number with a point or without, and perhaps with an exponent; infinity and what
is no number are numerals as well. A sign may stand in front. Only whether a text is a numeral
is told here.
-/

namespace OrderDesk.Text

/-- The text without a sign in front. -/
def dropSign : List Char → List Char
  | '+' :: cs => cs
  | '-' :: cs => cs
  | cs => cs

/-- The text is empty, or it is an exponent. -/
def isExponentOrNothing : List Char → Bool
  | [] => true
  | c :: cs => (c == 'e' || c == 'E') && isDigits (dropSign cs)

/-- Digits with one point at most among them or beside them, and perhaps an exponent. -/
def isPointed (cs : List Char) : Bool :=
  let whole := cs.takeWhile Char.isDigit
  let rest := cs.dropWhile Char.isDigit
  match rest with
  | '.' :: rest =>
    let places := rest.takeWhile Char.isDigit
    !(whole ++ places).isEmpty && isExponentOrNothing (rest.dropWhile Char.isDigit)
  | rest => !whole.isEmpty && isExponentOrNothing rest

/-- The text is a numeral. -/
def isNumeral (cs : List Char) : Bool :=
  let unsigned := dropSign cs
  ["inf", "infinity", "nan"].contains (String.ofList (unsigned.map Char.toLower)) ||
    isPointed unsigned

theorem isNumeral_of_isDigits {cs : List Char} (h : isDigits cs = true) :
    isNumeral cs = true := by
  simp only [isDigits, Bool.and_eq_true, Bool.not_eq_true', List.isEmpty_eq_false_iff,
    List.all_eq_true] at h
  obtain ⟨hne, hd⟩ := h
  have hs : dropSign cs = cs := by
    unfold dropSign
    split
    · have := hd '+' (by simp)
      simp at this
    · have := hd '-' (by simp)
      simp at this
    · rfl
  have ht (l : List Char) (h : ∀ c ∈ l, c.isDigit = true) : l.takeWhile Char.isDigit = l := by
    induction l <;> simp_all
  have hr (l : List Char) (h : ∀ c ∈ l, c.isDigit = true) : l.dropWhile Char.isDigit = [] := by
    induction l <;> simp_all
  simp [isNumeral, hs, isPointed, ht cs hd, hr cs hd, hne, isExponentOrNothing]

end OrderDesk.Text
