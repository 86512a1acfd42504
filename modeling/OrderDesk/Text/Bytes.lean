/-!
# Places in a text by bytes

A place in a text is given by the bytes before it when the text is written in UTF-8. A place
inside of a character cuts nothing: `cutAt?` finds exactly the places between characters.
-/

namespace OrderDesk.Text

/-- How many bytes the characters take. -/
def byteSize : List Char → Nat
  | [] => 0
  | c :: cs => c.utf8Size + byteSize cs

/-- The characters before a place and those behind it. -/
def cutAt? : List Char → Nat → Option (List Char × List Char)
  | cs, 0 => some ([], cs)
  | [], _ + 1 => none
  | c :: cs, n + 1 =>
    if c.utf8Size ≤ n + 1 then
      (cutAt? cs (n + 1 - c.utf8Size)).map fun (before, behind) => (c :: before, behind)
    else none

theorem byteSize_eq_zero_iff {cs : List Char} : byteSize cs = 0 ↔ cs = [] := by
  cases cs with
  | nil => simp [byteSize]
  | cons c cs =>
    have := c.utf8Size_pos
    simp only [byteSize, reduceCtorEq, iff_false]
    omega

theorem cutAt?_eq_some_iff {cs before behind : List Char} {n : Nat} :
    cutAt? cs n = some (before, behind) ↔ cs = before ++ behind ∧ byteSize before = n := by
  induction cs generalizing n before with
  | nil =>
    cases n with
    | zero => simp [cutAt?, byteSize_eq_zero_iff]; grind
    | succ n => simp [cutAt?]; grind [byteSize]
  | cons c cs ih =>
    have := c.utf8Size_pos
    cases n with
    | zero => simp [cutAt?, byteSize_eq_zero_iff]; grind
    | succ n =>
      cases before with
      | nil => simp [cutAt?, byteSize]
      | cons d before =>
        simp only [cutAt?, byteSize, List.cons_append, List.cons.injEq]
        split
        · simp only [Option.map_eq_some_iff, Prod.exists, Prod.mk.injEq, List.cons.injEq]
          grind
        · grind

end OrderDesk.Text
